import GasCity.LoopBudget

namespace GasCity.LoopStore

open Program

variable {ids : IDSupply} {m : Int} {s t : LoopStore} {op : StoreOp}

/-- The limit of a loop is unset or `m`, it is set when the loop has a trigger, and no wisp is
beyond `m`. -/
structure Budget (m : Int) (s : LoopStore) : Prop where
  limit : s.metadata.maxIterations = none ∨ s.metadata.maxIterations = some m
  trigger : s.metadata.trigger ≠ .absent → s.metadata.maxIterations = some m
  wisps : ∀ x ∈ s.wisps.rows, (x.iteration : Int) ≤ m

theorem Budget.getD_le (budget : Budget m s) (positive : 0 < m) :
    s.metadata.maxIterations.getD 0 ≤ m := by
  rcases budget.limit with unset | set
  · rw [unset]
    exact Int.le_of_lt positive
  · rw [set]
    exact Int.le_refl m

theorem Budget.of_wisps (budget : Budget m s) (metadata : t.metadata = s.metadata)
    (old : ∀ x ∈ t.wisps.rows, ∃ y ∈ s.wisps.rows, y.iteration = x.iteration) : Budget m t := by
  refine ⟨?_, ?_, ?_⟩
  · rw [metadata]
    exact budget.limit
  · rw [metadata]
    exact budget.trigger
  · intro x mem
    obtain ⟨y, there, same⟩ := old x mem
    rw [← same]
    exact budget.wisps y there

theorem Budget.mapWisps (budget : Budget m s) (f : Wisp → Wisp) (id : ∀ w, (f w).id = w.id)
    (iteration : ∀ w, (f w).iteration = w.iteration) : Budget m (s.mapWisps f id iteration) := by
  refine budget.of_wisps rfl fun x mem => ?_
  obtain ⟨y, there, rfl⟩ := List.mem_map.mp mem
  exact ⟨y, there, (iteration y).symm⟩

theorem Budget.poured (budget : Budget m s) {n : Nat} (live : Bool) (within : (n : Int) ≤ m) :
    Budget m (s.pour ids n live).2 := by
  obtain ⟨_, _, _, metadata, others, _⟩ := pour_spec ids s n live
  refine ⟨?_, ?_, ?_⟩
  · rw [metadata]
    exact budget.limit
  · rw [metadata]
    exact budget.trigger
  · intro x mem
    by_cases same : x.iteration = n
    · rw [same]
      exact within
    · have found : (s.pour ids n live).2.wispAt x.iteration = some x :=
        wispAt_eq_some_iff.mpr ⟨mem, rfl⟩
      rw [others x.iteration same] at found
      exact budget.wisps x (wispAt_eq_some_iff.mp found).1

theorem Budget.noted (budget : Budget m s) {root : String} {write : MetaWrite}
    (allowed : Budgeted m (.setMetadata root write)) : Budget m (s.note write) := by
  cases write with
  | maxIterations | trigger => exact absurd allowed id
  | _ => exact { budget with }

/-- The writes that configure a loop: the limit comes before the trigger. -/
inductive Thrifty (m : Int) (t : LoopStore) : StoreOp → Prop
  | plain {op : StoreOp} : Budgeted m op → Thrifty m t op
  | limit (id : String) : Thrifty m t (.setMetadata id (.maxIterations m))
  | trigger (id : String) (v : Setting TriggerMode) : t.metadata.maxIterations = some m →
      Thrifty m t (.setMetadata id (.trigger v))
  | create (title : String) : Thrifty m t (.createConvergenceBead title)

theorem Budget.write (budget : Budget m s) (allowed : Budgeted m op) (effect : Effect ids s op t) :
    Budget m t := by
  cases effect with
  | refused => exact budget
  | note write => exact budget.noted allowed
  | closeRoot => exact { budget with }
  | closeWisp | publish => exact budget.mapWisps _ _ _
  | drop w => exact budget.of_wisps rfl fun x mem => ⟨x, List.mem_of_mem_filter mem, rfl⟩
  | pour n => exact budget.poured true (allowed n rfl)
  | pourAhead n => exact budget.poured false (allowed n rfl)
  | create => exact absurd allowed id

theorem Budget.configure (budget : Budget m s) (thrifty : Thrifty m s op)
    (effect : Effect ids s op t) : Budget m t := by
  cases thrifty with
  | plain allowed => exact budget.write allowed effect
  | limit =>
    cases effect with
    | refused => exact budget
    | note => exact ⟨.inr rfl, fun _ => rfl, budget.wisps⟩
  | trigger _ v set =>
    cases effect with
    | refused => exact budget
    | note => exact ⟨budget.limit, fun _ => set, budget.wisps⟩
  | create =>
    cases effect with
    | refused => exact budget
    | create => exact ⟨.inl rfl, fun set => absurd rfl set, budget.wisps⟩

theorem Budget.blank (rootID : String) : Budget m (blank rootID) :=
  ⟨.inl rfl, fun set => absurd rfl set, fun _ mem => absurd mem List.not_mem_nil⟩

section Creation

variable {α : Type} {params : CreateParams} {E : HandlerError → LoopStore → Prop} {r : String}

theorem holds_configure {ws : List (MetaWrite × String)} (root : s.rootID = r)
    (created : s.created = true) (limited : s.metadata.maxIterations = some m)
    (fixed : ∀ w ∈ ws, ∀ v, w.1 ≠ .maxIterations v) :
    (applyWrites r ws : Call LoopStore Unit).Holds (LoopStore.exec ids) (Thrifty m)
      (fun _ u => u.rootID = r ∧ u.created = true ∧ u.metadata.maxIterations = some m) E s := by
  induction ws generalizing s with
  | nil => exact ⟨root, created, limited⟩
  | cons w ws ih =>
    obtain ⟨write, doing⟩ := w
    have other := fixed (write, doing) List.mem_cons_self
    have here : Thrifty m s (.setMetadata r write) := by
      cases write with
      | maxIterations v => exact absurd rfl (other v)
      | trigger v => exact .trigger r v limited
      | _ => exact .plain trivial
    have kept : (s.note write).metadata.maxIterations = some m := by
      cases write with
      | maxIterations v => exact absurd rfl (other v)
      | _ => exact limited
    refine set_then root created here ?_
    exact ih root created kept fun v mem => fixed v (List.mem_cons_of_mem _ mem)

abbrev Creates (ids : IDSupply) (m : Int) (p : Call LoopStore α) (s : LoopStore) : Prop :=
  p.Holds (LoopStore.exec ids) (Thrifty m) (fun _ _ => True) (fun _ _ => True) s

theorem creates_of_only {p : Call LoopStore α} (only : p.Only (Budgeted m)) (s : LoopStore) :
    Creates ids m p s :=
  (only.holds s).mono (fun _ _ allowed => .plain allowed) (fun _ _ h => h) (fun _ _ h => h)

theorem creates_populate {tc : TriggerConfig} (root : s.rootID = r) (created : s.created = true)
    (positive : 0 < params.maxIterations) :
    Creates ids params.maxIterations (populate r params tc) s := by
  refine set_then root created (.plain trivial) ?_
  have configured : (applyWrites r params.metaWrites : Call LoopStore Unit).Holds
      (LoopStore.exec ids) (Thrifty params.maxIterations)
      (fun _ u => u.rootID = r ∧ u.created = true ∧
        u.metadata.maxIterations = some params.maxIterations)
      (fun _ _ => True) (s.note (.state .creating)) := by
    refine set_then root created (.plain trivial) ?_
    refine set_then root created (.plain trivial) ?_
    refine set_then root created (.limit r) ?_
    have tail : ∀ w ∈ params.metaWrites.drop 3, ∀ v, w.1 ≠ .maxIterations v := by
      unfold CreateParams.metaWrites
      split <;> simp
    exact holds_configure root created rfl tail
  refine configured.bind fun _ t _ => creates_of_only ?_ t
  refine (only_applyWrites ?_).bind fun _ => Only.ite (fun _ => ?_) fun _ => ?_
  · intro w mem
    obtain ⟨kv, _, rfl⟩ := List.mem_map.mp mem
    exact trivial
  · exact only_then trivial (only_then trivial (only_ret _))
  · refine only_then trivial ?_
    refine (only_mustGet (budgeted_pourWisp (by omega))).bind fun first => ?_
    exact only_then trivial (only_then trivial (only_ret _))

theorem creates_CreateHandler (s : LoopStore) :
    Creates ids params.maxIterations (CreateHandler params) s := by
  refine holds_else trivial fun _ => ?_
  refine holds_else trivial fun _ => ?_
  refine holds_else trivial fun positive => ?_
  split
  next => exact trivial
  next => exact trivial
  next tc _ _ =>
    refine holds_bind.mpr ⟨.create _, ?_⟩
    refine holds_onError.mpr ?_
    refine (creates_populate rfl rfl (by omega)).mono (fun _ _ h => h) (fun _ _ h => h) ?_
    intro e t _
    refine creates_of_only ?_ t
    exact (only_attempt trivial).bind fun _ => (only_attempt trivial).bind fun _ => only_fail e

theorem started_budget (rootID : String) (params : CreateParams) (n : Nat) :
    Budget params.maxIterations (started ids rootID params n) :=
  (creates_CreateHandler (blank rootID)).keeps
    (fun t op thrifty budget => budget.configure thrifty (exec_effect op t)) (.blank rootID) n

end Creation

/-- The reconciler is not run on a loop that is adrift with its budget spent. -/
def Spared (ids : IDSupply) (m : Int) (s : LoopStore) : LoopEvent → Prop
  | .call (.reconcile _) _ => Adrift ids s → (s.closedCount : Int) < m
  | _ => True

theorem Budget.spends (budget : Budget m s) (positive : 0 < m) {c : LoopCall} {n : Nat}
    (spared : Spared ids m s (.call c n)) : Spends ids m (s.handler ids c) s := by
  have limit := budget.getD_le positive
  cases c with
  | wispClosed id script => exact (spends_HandleWispClosed limit).then fun _ => only_ret _
  | trigger script => exact (spends_HandleTrigger budget.trigger positive).then fun _ => only_ret _
  | iterate => exact (spends_IterateHandler limit).then fun _ => only_ret _
  | approve username => exact (spends_ApproveHandler username).then fun _ => only_ret _
  | stop username script => exact (spends_StopHandler limit username).then fun _ => only_ret _
  | reconcile script => exact (spends_reconcileBead limit positive spared).then fun _ => only_ret _

theorem Budget.during (budget : Budget m s) (positive : 0 < m) {c : LoopCall} {n : Nat}
    (spared : Spared ids m s (.call c n)) : Budget m (s.during ids c n) :=
  (budget.spends positive spared).keeps
    (fun t op allowed kept => kept.write allowed (exec_effect op t)) budget n

theorem Budget.happen (positive : 0 < m) (s : LoopStore) (e : LoopEvent) (budget : Budget m s)
    (spared : Spared ids m s e) : Budget m (s.happen ids e) := by
  cases e with
  | call c n =>
    simp only [LoopStore.happen]
    split
    next => exact budget.during positive spared
    next => exact budget
  | agentCloses id =>
    simp only [LoopStore.happen]
    split
    next => exact budget.mapWisps _ _ _
    next => exact budget

def Exceeds (m : Int) (t : LoopStore) : StoreOp → Prop
  | .pourWisp _ key _ => ∃ n, ParseIterationFromKey key = some n ∧ m < (n : Int)
  | .activateWisp id => ∃ x, t.wisps.find id = some x ∧ m < (x.iteration : Int)
  | _ => False

theorem Budget.not_exceeds (budget : Budget m t) (allowed : Budgeted m op) : ¬ Exceeds m t op := by
  intro exceeds
  cases op with
  | pourWisp root key args =>
    obtain ⟨n, parsed, past⟩ := exceeds
    have := allowed n parsed
    omega
  | activateWisp id =>
    obtain ⟨x, found, past⟩ := exceeds
    have := budget.wisps x (KeyedList.mem_of_find found)
    omega
  | _ => exact exceeds

/-- Along every run that spares a spent loop the reconciler, no wisp beyond the budget is published,
and no call that can come next pours or activates one. -/
theorem run_within_budget (ids : IDSupply) (rootID : String) (params : CreateParams)
    (positive : 0 < params.maxIterations) (n : Nat) (es : List LoopEvent)
    (spared : Along (happen ids) (Spared ids params.maxIterations)
      (started ids rootID params n) es) :
    let s := es.foldl (happen ids) (started ids rootID params n)
    (∀ x ∈ s.wisps.rows, x.live = true → (x.iteration : Int) ≤ params.maxIterations) ∧
    ∀ c k op, Spared ids params.maxIterations s (.call c k) → (s.writes ids c)[k]? = some op →
      ¬ Exceeds params.maxIterations (s.during ids c k) op := by
  intro s
  have budget : Budget params.maxIterations s :=
    spared.invariant (fun s e => Budget.happen positive s e) (started_budget rootID params n)
  refine ⟨fun x mem _ => budget.wisps x mem, ?_⟩
  intro c k op next here
  have spends := budget.spends positive next
  rcases spends.cut k with ⟨op', there, allowed⟩ | ⟨past, _⟩
  · cases Option.some.inj (here.symm.trans there)
    exact (budget.during positive next).not_exceeds allowed
  · exact absurd (past.symm.trans here) (by simp)

def oneShot : CreateParams := { formula := "f", target := "agent", maxIterations := 1 }

def heldRun : List LoopEvent :=
  [.agentCloses "rw", .call (.wispClosed "rw" {}) 9, .call (.reconcile {}) 9]

theorem heldRun_within_budget : heldRun.length = 3 ∧
    ∀ x ∈ (heldRun.foldl (happen .glued) (started .glued "r" oneShot 99)).wisps.rows,
      x.live = true → (x.iteration : Int) ≤ 1 := by
  refine ⟨rfl, (run_within_budget .glued "r" oneShot (by decide) 99 heldRun ?_).1⟩
  refine ⟨trivial, trivial, fun adrift => ?_, trivial⟩
  exact absurd adrift.1 (by decide +kernel)

/-- The hold is cut off after its first write. The reconciler then pours and activates a second
wisp. -/
theorem recovery_exceeds_budget :
    ∃ x ∈ ([.agentCloses "rw", .call (.wispClosed "rw" {}) 1, .call (.reconcile {}) 9].foldl
        (happen .glued) (started .glued "r" oneShot 99)).wisps.rows,
      x.live = true ∧ oneShot.maxIterations < (x.iteration : Int) := by
  decide +kernel

end GasCity.LoopStore
