import GasCity.LoopNumberedRun

namespace GasCity

theorem Undecided.evaluates {md md' : LoopMeta} (same : Undecided md md') (here : Evaluates md) :
    Evaluates md' := by
  obtain ⟨cfg, parsed, scripted⟩ := here
  exact ⟨cfg, same.parseGate.trans parsed, scripted⟩

variable {cfg : GateConfig} {outcome : Option GateOutcome}

theorem settlePlan_next {tc : TriggerConfig} {n : Nat} {limit : Int}
    (next : settlePlan cfg tc n limit outcome = .next) :
    (n : Int) < limit ∧ tc.Enabled = false := by
  unfold settlePlan at next
  split at next
  next => cases next
  next =>
    split at next
    next => cases next
    next goes_on =>
      split at next
      next => cases next
      next disabled =>
        refine ⟨?_, by simpa using disabled⟩
        have := below_limit goes_on
        omega

theorem settlePlan_await {tc : TriggerConfig} {n : Nat} {limit : Int}
    (await : settlePlan cfg tc n limit outcome = .await) :
    tc.Enabled = true := by
  unfold settlePlan at await
  split at await
  next => cases await
  next =>
    split at await
    next => cases await
    next =>
      split at await
      next enabled => exact enabled
      next => cases await

theorem Scripted.free (scripted : Scripted cfg) :
    needsManualWithoutGate cfg = false := by
  have manual := scripted.manual
  have hybrid := scripted.hybrid
  unfold needsManualWithoutGate
  cases mode : cfg.mode with
  | manual => exact absurd mode manual
  | condition => rfl
  | hybrid =>
    have told : HybridNeedsManual cfg = false := by
      by_contra needs
      exact hybrid ⟨mode, by simpa using needs⟩
    rw [told]
    rfl

namespace LoopStore

variable {s t u : LoopStore} {w x a : Wisp} {script : GateResult} {ids : IDSupply} {op : StoreOp}

theorem planFor_parsed (valid : s.planFor w script ≠ .invalid) :
    ∃ cfg tc, ParseGateConfig s.metadata = .ok cfg ∧ ParseTriggerConfig s.metadata = .ok tc ∧
      s.planFor w script = planOf cfg tc s.metadata w.id w.iteration script := by
  cases gate : ParseGateConfig s.metadata with
  | error e =>
    refine absurd ?_ valid
    unfold planFor plan
    rw [gate]
  | ok cfg =>
    cases trigger : ParseTriggerConfig s.metadata with
    | error e =>
      refine absurd ?_ valid
      unfold planFor plan
      rw [gate, trigger]
    | ok tc => exact ⟨cfg, tc, rfl, rfl, planFor_eq gate trigger⟩

theorem scripted_of_planOf {cfg : GateConfig} {tc : TriggerConfig} {md : LoopMeta}
    (fresh : md.gateOutcomeWisp ≠ w.id)
    (goes_on : planOf cfg tc md w.id w.iteration script = .next ∨
      planOf cfg tc md w.id w.iteration script = .await) : Scripted cfg := by
  unfold planOf at goes_on
  rw [if_neg fresh] at goes_on
  refine ⟨?_, ?_, ?_⟩
  · intro refused
    rw [if_pos refused] at goes_on
    simp at goes_on
  · intro manual
    rw [if_neg (by simp [manual]), if_pos manual] at goes_on
    simp at goes_on
  · intro hybrid
    rw [if_neg (by simp [hybrid.1]), if_neg (by simp [hybrid.1]), if_pos hybrid] at goes_on
    simp at goes_on

variable (evaluated : s.metadata.gateOutcomeWisp = w.id → Evaluates s.metadata)

include evaluated

theorem next_evaluates (next : s.planFor w script = .next) :
    Evaluates s.metadata ∧ poursAhead s.metadata w.iteration = true := by
  obtain ⟨cfg, tc, gate, trigger, plan⟩ := planFor_parsed (s := s) (w := w) (by rw [next]; simp)
  rw [next] at plan
  have known : Scripted cfg ∧ (w.iteration : Int) < s.metadata.maxIterations.getD 0 ∧
      tc.Enabled = false := by
    by_cases persisted : s.metadata.gateOutcomeWisp = w.id
    · obtain ⟨cfg', gate', scripted⟩ := evaluated persisted
      rw [gate] at gate'
      cases Except.ok.inj gate'
      rw [planOf_persisted persisted] at plan
      exact ⟨scripted, settlePlan_next plan.symm⟩
    · have scripted := scripted_of_planOf persisted (.inl plan.symm)
      rw [scripted.planOf_eq persisted] at plan
      exact ⟨scripted, settlePlan_next plan.symm⟩
  refine ⟨⟨cfg, gate, known.1⟩, ?_⟩
  rw [poursAhead_eq gate trigger, known.1.free, known.2.2]
  simpa using known.2.1

omit evaluated in
theorem await_quiet (await : s.planFor w script = .await) :
    poursAhead s.metadata w.iteration = false := by
  obtain ⟨cfg, tc, gate, trigger, plan⟩ := planFor_parsed (s := s) (w := w) (by rw [await]; simp)
  rw [await] at plan
  have enabled : tc.Enabled = true := by
    by_cases persisted : s.metadata.gateOutcomeWisp = w.id
    · rw [planOf_persisted persisted] at plan
      exact settlePlan_await plan.symm
    · have scripted := scripted_of_planOf persisted (.inr plan.symm)
      rw [scripted.planOf_eq persisted] at plan
      exact settlePlan_await plan.symm
  rw [poursAhead_eq gate trigger, enabled]
  simp

theorem ahead_evaluates (ahead : poursAhead s.metadata w.iteration = true)
    (settles : (s.planFor w script).Settles) : Evaluates s.metadata := by
  by_cases persisted : s.metadata.gateOutcomeWisp = w.id
  · exact evaluated persisted
  · have valid : s.planFor w script ≠ .invalid := by
      intro invalid
      rw [invalid] at settles
      exact settles
    obtain ⟨cfg, tc, gate, trigger, plan⟩ := planFor_parsed valid
    rw [poursAhead_eq gate trigger] at ahead
    have free : needsManualWithoutGate cfg = false := by
      by_contra needs
      simp [needs] at ahead
    refine ⟨cfg, gate, ?_, ?_, ?_⟩
    · intro refused
      have refuses : s.planFor w script = .refuse := by
        rw [plan]
        unfold planOf
        rw [if_neg persisted, if_pos refused]
      rw [refuses] at settles
      exact settles
    · intro manual
      simp [needsManualWithoutGate, manual] at free
    · intro hybrid
      simp [needsManualWithoutGate, hybrid.1, hybrid.2] at free

omit evaluated

structure PouredAhead (s : LoopStore) (a x : Wisp) : Prop where
  closed : a.status = .closed
  next : x.iteration = a.iteration + 1
  running : x.status ≠ .closed
  hidden : x.live = false
  pours : poursAhead s.metadata a.iteration = true
  evaluates : Evaluates s.metadata

/-- The loop works on a wisp. All others are closed and processed, but for one poured ahead. -/
structure Working (s : LoopStore) (a : Wisp) : Prop where
  named : s.metadata.activeWisp = a.id
  found : s.wisps.find a.id = some a
  later : s.lastIteration < a.iteration
  others : ∀ x ∈ s.wisps.rows, x ≠ a →
    x.status = .closed ∧ x.iteration ≤ s.lastIteration ∨ PouredAhead s a x
  evaluated : s.metadata.gateOutcomeWisp = a.id → Evaluates s.metadata

def Quiet (s : LoopStore) : Prop := ∀ x ∈ s.wisps.rows, x.status = .closed

inductive Phase (s : LoopStore) : Prop
  | fresh : s.metadata.state ≠ .terminated → s.metadata.terminalReason = none →
      s.metadata.activeWisp = "" → s.wisps.rows = [] → Phase s
  | working (a : Wisp) : s.metadata.state = .active → s.metadata.terminalReason = none →
      Working s a → Phase s
  | waiting : s.metadata.state = .waitingManual ∨ s.metadata.state = .waitingTrigger →
      s.metadata.terminalReason = none → s.metadata.activeWisp = "" →
      (∀ x ∈ s.wisps.rows, x.status = .closed ∧ x.iteration ≤ s.lastIteration) → Phase s
  | ended : s.metadata.state = .terminated → s.Quiet → Phase s

theorem Phase.working_of_unprocessed (phase : s.Phase) (due : s.Unprocessed w) :
    s.metadata.state = .active ∧ s.metadata.terminalReason = none ∧ Working s w := by
  have mem := KeyedList.mem_of_find due.found
  have later := due.later
  cases phase with
  | fresh _ _ _ none =>
    rw [none] at mem
    exact absurd mem List.not_mem_nil
  | waiting _ _ _ settled =>
    have := (settled w mem).2
    omega
  | ended ended => exact absurd ended due.running
  | working a active endless working =>
    by_cases same : w = a
    · rw [same]
      exact ⟨active, endless, working⟩
    · rcases working.others w mem same with ⟨_, old⟩ | ahead
      · omega
      · exact absurd due.closed ahead.running

theorem Working.next_ahead (working : Working s w) (at_next : s.wispAt (w.iteration + 1) = some x) :
    PouredAhead s w x := by
  obtain ⟨mem, iteration⟩ := wispAt_eq_some_iff.mp at_next
  have later := working.later
  have other : x ≠ w := by
    rintro rfl
    omega
  rcases working.others x mem other with ⟨_, old⟩ | ahead
  · omega
  · exact ahead

theorem Working.unburned (working : Working s w) : s.Unburned w script := by
  intro _ x at_next
  have ahead := working.next_ahead at_next
  exact ⟨ahead.running, ahead.hidden⟩

theorem PouredAhead.transfer (ahead : PouredAhead s w x)
    (same : Undecided s.metadata t.metadata) : PouredAhead t w x :=
  { ahead with
    pours := (same.poursAhead w.iteration).trans ahead.pours
    evaluates := same.evaluates ahead.evaluates }

theorem Prep.next_ahead (prep : Prep s w script t) (working : Working s w)
    (due : s.Unprocessed w) (at_next : t.wispAt (w.iteration + 1) = some x) :
    PouredAhead t w x := by
  rcases prep.successor x at_next with old | fresh
  · exact (working.next_ahead old).transfer prep.undecided
  · have hidden : x.live = false := by
      by_contra live
      obtain ⟨next, quiet⟩ := fresh.now (by simpa using live)
      rw [(next_evaluates working.evaluated next).2] at quiet
      cases quiet
    obtain ⟨pours, settles⟩ := fresh.ahead hidden
    have evaluates := ahead_evaluates working.evaluated pours settles
    exact ⟨due.closed, (wispAt_eq_some_iff.mp at_next).2, by simp [fresh.isOpen], hidden,
      (prep.undecided.poursAhead w.iteration).trans pours, prep.undecided.evaluates evaluates⟩

theorem Prep.others_closed (prep : Prep s w script t) (working : Working s w)
    (mem : x ∈ t.wisps.rows) (other : x ≠ w) (not_next : x.iteration ≠ w.iteration + 1) :
    x.status = .closed ∧ x.iteration ≤ s.lastIteration := by
  have at_x := wispAt_of_mem mem
  rw [prep.others _ not_next] at at_x
  rcases working.others x (wispAt_eq_some_iff.mp at_x).1 other with old | ahead
  · exact old
  · exact absurd ahead.next not_next

theorem Prep.working (prep : Prep s w script t) (working : Working s w) (due : s.Unprocessed w) :
    Working t w where
  named := prep.undecided.activeWisp.trans working.named
  found := prep.found due
  later := (prep.unprocessed due).later
  others := by
    intro x mem other
    by_cases next : x.iteration = w.iteration + 1
    · refine .inr (prep.next_ahead working due ?_)
      rw [← next]
      exact wispAt_of_mem mem
    · rw [prep.lastIteration]
      exact .inl (prep.others_closed working mem other next)
  evaluated := by
    intro persisted
    refine prep.undecided.evaluates ?_
    rcases prep.evaluated with same | ⟨_, evaluates⟩
    · exact working.evaluated (same.symm.trans persisted)
    · exact evaluates

theorem Ready.closed (ready : Ready s w script t) (working : Working s w) (due : s.Unprocessed w)
    (stops : (∃ r, s.planFor w script = .hold r) ∨ (∃ q, s.planFor w script = .finish q) ∨
      s.planFor w script = .await) :
    ∀ x ∈ t.wisps.rows, x.status = .closed ∧ x.iteration ≤ w.iteration := by
  have none_left : ¬ Leftover (s.planFor w script) s w.iteration := by
    intro left
    have there : (s.wispAt (w.iteration + 1)).isSome ∧ poursAhead s.metadata w.iteration = false := by
      rcases stops with ⟨r, plan⟩ | ⟨q, plan⟩ | plan <;> rw [plan] at left
      · exact ⟨left.2.2, left.1⟩
      · exact ⟨left.2.2, left.1⟩
      · exact ⟨left, await_quiet plan⟩
    obtain ⟨x, at_next⟩ := Option.isSome_iff_exists.mp there.1
    rw [(working.next_ahead at_next).pours] at there
    exact absurd there.2 (by simp)
  have later := due.later
  intro x mem
  by_cases same : x = w
  · rw [same]
    exact ⟨due.closed, Nat.le_refl _⟩
  · have not_next : x.iteration ≠ w.iteration + 1 := by
      intro next
      apply none_left
      rw [← ready.left, ← next, wispAt_of_mem mem]
      rfl
    obtain ⟨closed, old⟩ := ready.others_closed working mem same not_next
    exact ⟨closed, by omega⟩

end LoopStore

end GasCity
