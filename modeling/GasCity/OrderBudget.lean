import Mathlib.Tactic.ByContra

namespace GasCity

open List

/-- What a tick meets at one order, in the order in which `dispatch` looks at it. A gate is closed
by open work and by a read that fails closed. -/
structure OrderTurn where
  rigSuspended : Bool := false
  targetFails : Bool := false
  storeFails : Bool := false
  legacyStoreFails : Bool := false
  noWorkGate : Bool := false
  gateBackoff : Bool := false
  openTracking : Bool := false
  cursorFails : Bool := false
  triggerEnvFails : Bool := false
  lastRunFails : Bool := false
  due : Bool := true
  conditionBlocked : Bool := false
  refreshFails : Bool := false
  dueAfterRefresh : Bool := true
  openWork : Bool := false
  createFails : Bool := false

inductive TurnOutcome where
  | passed
  | envFailure
  | launched
  deriving DecidableEq

namespace OrderTurn

def isCandidate (t : OrderTurn) : Bool :=
  !t.rigSuspended && !t.targetFails && !t.storeFails && !t.legacyStoreFails &&
    (t.noWorkGate || !t.gateBackoff && !t.openTracking)

def outcome (t : OrderTurn) : TurnOutcome :=
  if !t.isCandidate || t.cursorFails then .passed
  else if t.triggerEnvFails then .envFailure
  else if t.lastRunFails || !t.due || t.conditionBlocked then .passed
  else if t.refreshFails || !t.dueAfterRefresh then .passed
  else if !t.noWorkGate && t.openWork then .passed
  else if t.createFails then .passed
  else .launched

end OrderTurn

/-- One tick: whether the city is suspended, and what is met at each order. -/
structure DispatchTick where
  citySuspended : Bool := false
  turn : Nat → OrderTurn

section rotation

-- the number of orders and `maxDispatchesPerTick`, where zero is no budget
variable (total budget : Nat)

/-- The fire loop over so many orders from `idx` on, after `spent` of the budget: the orders that
spend from it. -/
def fire (turn : Nat → OrderTurn) : Nat → Nat → Nat → List Nat
  | 0, _, _ => []
  | rest + 1, spent, idx =>
    if (turn idx).outcome = .passed then fire turn rest spent ((idx + 1) % total)
    else if 0 < budget ∧ budget ≤ spent + 1 then [idx]
    else idx :: fire turn rest (spent + 1) ((idx + 1) % total)

def DispatchTick.dispatch (t : DispatchTick) (nextDispatchStart : Nat) : List Nat × Nat :=
  if t.citySuspended || total = 0 then ([], nextDispatchStart)
  else
    let start := if 0 < budget then nextDispatchStart % total else 0
    let spenders := fire total budget t.turn total 0 start
    (spenders, match spenders.getLast? with
      | none => nextDispatchStart
      | some idx => if 0 < budget then (idx + 1) % total else nextDispatchStart)

def spending : Nat → List DispatchTick → List (List Nat)
  | _, [] => []
  | next, t :: ticks =>
    (t.dispatch total budget next).1 :: spending (t.dispatch total budget next).2 ticks

def DispatchTick.Ready (t : DispatchTick) (i : Nat) : Prop :=
  t.citySuspended = false ∧ (t.turn i).outcome = .launched

variable {total budget} {turn : Nat → OrderTurn} {rest spent idx distance next i : Nat}
  {t : DispatchTick}

theorem length_fire (less : spent < budget) :
    spent + (fire total budget turn rest spent idx).length ≤ budget := by
  induction rest generalizing spent idx with
  | zero => exact Nat.le_of_lt less
  | succ rest ih =>
    unfold fire
    split
    · exact ih less
    · split
      · exact less
      next more =>
        have tail := @ih (spent + 1) ((idx + 1) % total) (by omega)
        rw [length_cons]
        omega

/-- The loop comes to a ready order, or it ends at an order that is nearer to it by what was left of
the budget. -/
theorem fire_reaches (less : spent < budget) (ready : (turn i).outcome = .launched)
    (inRange : idx < total) (within : distance < rest) (here : (idx + distance) % total = i) :
    i ∈ fire total budget turn rest spent idx ∨
      ∃ last closer, (fire total budget turn rest spent idx).getLast? = some last ∧
        closer + budget ≤ distance + spent ∧ (last + 1 + closer) % total = i := by
  induction rest generalizing spent idx distance with
  | zero => omega
  | succ rest ih =>
    have onward : idx ≠ i → 0 < distance ∧ (idx + 1 + (distance - 1)) % total = i := by
      intro other
      have pos : distance ≠ 0 := by
        rintro rfl
        exact other ((Nat.mod_eq_of_lt inRange).symm.trans here)
      refine ⟨by omega, ?_⟩
      rw [← here]
      congr 1
      omega
    have next := Nat.mod_lt (idx + 1) (Nat.zero_lt_of_lt inRange)
    unfold fire
    split
    next passed =>
      obtain ⟨pos, there⟩ := onward (by rintro rfl; simp [ready] at passed)
      rcases @ih spent ((idx + 1) % total) (distance - 1) less next (by omega)
        (by rw [Nat.mod_add_mod, there]) with found | ⟨last, closer, ends, nearer, at_i⟩
      · exact .inl found
      · exact .inr ⟨last, closer, ends, by omega, at_i⟩
    next spends =>
      by_cases same : idx = i
      · subst same
        left
        split <;> exact mem_cons_self
      obtain ⟨pos, there⟩ := onward same
      split
      next full => exact .inr ⟨idx, distance - 1, rfl, by omega, there⟩
      next more =>
        rcases @ih (spent + 1) ((idx + 1) % total) (distance - 1) (by omega) next (by omega)
          (by rw [Nat.mod_add_mod, there]) with found | ⟨last, closer, ends, nearer, at_i⟩
        · exact .inl (mem_cons_of_mem _ found)
        · refine .inr ⟨last, closer, ?_, by omega, at_i⟩
          rw [getLast?_cons, ends]
          rfl

theorem dispatch_eq (pos : 0 < budget) (awake : t.citySuspended = false) (some : 0 < total) :
    t.dispatch total budget next =
      (fire total budget t.turn total 0 (next % total),
        ((fire total budget t.turn total 0 (next % total)).getLast?.map fun idx =>
          (idx + 1) % total).getD next) := by
  have goes : ¬(t.citySuspended || decide (total = 0)) = true := by simp [awake]; omega
  unfold DispatchTick.dispatch
  rw [if_neg goes]
  simp only [if_pos pos]
  cases (fire total budget t.turn total 0 (next % total)).getLast? <;> rfl

theorem length_spending (pos : 0 < budget) {ticks : List DispatchTick} :
    ∀ spenders ∈ spending total budget next ticks, spenders.length ≤ budget := by
  induction ticks generalizing next with
  | nil => exact fun _ mem => absurd mem not_mem_nil
  | cons t ticks ih =>
    intro spenders mem
    rcases mem_cons.mp mem with rfl | later
    · unfold DispatchTick.dispatch
      split
      · exact Nat.zero_le _
      · exact Nat.le_trans (Nat.le_of_eq (Nat.zero_add _).symm) (length_fire pos)
    · exact ih spenders later

/-- Ticks that all miss a ready order come nearer to it by their budgets. -/
theorem missed_run {ticks : List DispatchTick} (pos : 0 < budget) (ready : ∀ t ∈ ticks, t.Ready i)
    (near : distance < total) (here : (next + distance) % total = i)
    (missed : ∀ spenders ∈ spending total budget next ticks, i ∉ spenders) :
    ticks.length * budget ≤ distance := by
  induction ticks generalizing next distance with
  | nil => exact (Nat.zero_mul budget).symm ▸ Nat.zero_le _
  | cons t ticks ih =>
    have some : 0 < total := by omega
    have tick := @dispatch_eq total budget next t pos (ready t mem_cons_self).1 some
    have first := missed _ mem_cons_self
    rw [tick] at first
    obtain ⟨last, closer, ends, nearer, there⟩ := (fire_reaches pos (ready t mem_cons_self).2
      (Nat.mod_lt next some) near (by rw [Nat.mod_add_mod, here])).resolve_left first
    have rest := @ih closer (t.dispatch total budget next).2
      (fun t mem => ready t (mem_cons_of_mem _ mem)) (by omega)
      (by rw [tick, ends]; exact (Nat.mod_add_mod _ _ _).trans there)
      fun spenders mem => missed spenders (mem_cons_of_mem _ mem)
    rw [length_cons, Nat.succ_mul]
    omega

/-- No tick spends more than its budget, and among as many consecutive ticks as the budget takes
to go through all orders, one launches an order that is ready in all of them, wherever the first of
them starts. -/
theorem budget_starves_no_order (total : Nat) (pos : 1 ≤ budget) (next : Nat)
    (ticks : List DispatchTick) :
    (∀ spenders ∈ spending total budget next ticks, spenders.length ≤ budget) ∧
      (ticks.length = (total + budget - 1) / budget → ∀ i < total, (∀ t ∈ ticks, t.Ready i) →
        ∃ spenders ∈ spending total budget next ticks, i ∈ spenders) := by
  refine ⟨length_spending pos, fun long i order ready => ?_⟩
  have some : 0 < total := by omega
  have less := Nat.mod_lt next some
  by_contra none
  have here : (next + (i + total - next % total) % total) % total = i := by
    rw [Nat.add_mod_mod, ← Nat.mod_add_mod,
      show next % total + (i + total - next % total) = i + total by omega, Nat.add_mod_right,
      Nat.mod_eq_of_lt order]
  have far := missed_run pos ready (Nat.mod_lt _ some) here
    fun spenders mem there => none ⟨spenders, mem, there⟩
  have near := Nat.mod_lt (i + total - next % total) some
  have whole := Nat.div_add_mod (total + budget - 1) budget
  have part := Nat.mod_lt (total + budget - 1) pos
  rw [long, Nat.mul_comm] at far
  omega

/-- Two orders that are always ready and a budget of one. -/
theorem budget_starves_no_order_two_orders :
    ∃ spenders ∈ spending 2 1 0 (replicate 2 { turn := fun _ => {} }), 1 ∈ spenders :=
  (budget_starves_no_order 2 (Nat.le_refl 1) 0 (replicate 2 { turn := fun _ => {} })).2
    (by decide) 1 (by decide) fun t mem => by
      rw [(mem_replicate.mp mem).2]
      exact ⟨rfl, rfl⟩

end rotation

end GasCity
