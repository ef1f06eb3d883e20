import GasCity.LoopRegular

namespace GasCity

/-- A write in the middle of a transition, before which the metadata do not tell the phase. -/
def Midway : StoreOp → Prop
  | .setMetadata _ (.waitingReason _) | .setMetadata _ (.terminalActor _)
  | .setMetadata _ (.state _) | .setMetadata _ (.lastProcessedWisp _) => True
  | .setMetadata _ (.activeWisp v) => v ≠ ""
  | _ => False

namespace LoopStore

variable {s t u : LoopStore} {w x a : Wisp} {script : GateResult} {ids : IDSupply} {op : StoreOp}

theorem lastIteration_marked (found : u.wisps.find w.id = some w)
    (marked : u.metadata.lastProcessedWisp = w.id) : u.lastIteration = w.iteration := by
  unfold lastIteration
  rw [marked, found]
  rfl

variable (working : Working s w) (due : s.Unprocessed w)

include working due

theorem Ready.quiet (ready : Ready s w script t) {q : TerminalReason}
    (plan : s.planFor w script = .finish q) : t.Quiet :=
  fun x mem => (ready.closed working due (.inr (.inl ⟨q, plan⟩)) x mem).1

theorem Ready.waits (ready : Ready s w script t) (endless : s.metadata.terminalReason = none)
    (stops : (∃ r, s.planFor w script = .hold r) ∨ s.planFor w script = .await)
    (wisps : u.wisps = t.wisps) (marked : u.metadata.lastProcessedWisp = w.id)
    (reason : u.metadata.terminalReason = t.metadata.terminalReason)
    (state : u.metadata.state = .waitingManual ∨ u.metadata.state = .waitingTrigger)
    (unnamed : u.metadata.activeWisp = "") : u.Phase := by
  have found : u.wisps.find w.id = some w := by
    rw [wisps]
    exact ready.found due
  refine .waiting state ?_ unnamed ?_
  · rw [reason, ready.undecided.terminalReason]
    exact endless
  · rw [lastIteration_marked found marked, wisps]
    refine ready.closed working due ?_
    rcases stops with hold | await
    · exact .inl hold
    · exact .inr (.inr await)

variable (active : s.metadata.state = .active) (endless : s.metadata.terminalReason = none)

include active endless

theorem Prep.goes_on (prep : Prep s w script t)
    (at_next : t.wispAt (w.iteration + 1) = some x) (plan : s.planFor w script = .next)
    (wisps : u.wisps = (t.publish x.id).wisps) (marked : u.metadata.lastProcessedWisp = w.id)
    (named : u.metadata.activeWisp = x.id) (same : Undecided s.metadata t.metadata)
    (kept : u.metadata.state = t.metadata.state ∧
      u.metadata.terminalReason = t.metadata.terminalReason)
    (evaluates : Evaluates t.metadata → Evaluates u.metadata) : u.Phase := by
  obtain ⟨_, iteration⟩ := wispAt_eq_some_iff.mp at_next
  have at_x := find_of_wispAt at_next
  have found : u.wisps.find x.id = some (publishOne x.id x) := by
    rw [wisps, find_publish, at_x]
    rfl
  have last : u.lastIteration = w.iteration := by
    unfold LoopStore.lastIteration
    rw [marked, wisps, find_publish, prep.found due]
    exact publishOne_iteration x.id w
  have later := due.later
  refine .working (publishOne x.id x) (kept.1.trans (same.state.trans active))
    (kept.2.trans (same.terminalReason.trans endless)) ⟨?_, ?_, ?_, ?_, ?_⟩
  · rw [publishOne_id]
    exact named
  · rw [publishOne_id]
    exact found
  · rw [publishOne_iteration]
    omega
  · intro y mem other
    rw [wisps] at mem
    obtain ⟨v, old, rfl⟩ := List.mem_map.mp mem
    have not_x : v ≠ x := by
      rintro rfl
      exact other rfl
    have not_next : v.iteration ≠ w.iteration + 1 := by
      intro next
      have at_v := wispAt_of_mem old
      rw [next, at_next] at at_v
      exact not_x (Option.some.inj at_v).symm
    rw [last, publishOne_status, publishOne_iteration]
    by_cases self : v = w
    · rw [self]
      exact .inl ⟨due.closed, Nat.le_refl _⟩
    · obtain ⟨closed, before⟩ := prep.others_closed working old self not_next
      exact .inl ⟨closed, by omega⟩
  · intro _
    exact evaluates (same.evaluates (next_evaluates working.evaluated plan).1)

theorem Prep.phase (prep : Prep s w script t) : t.Phase :=
  .working w (prep.undecided.state.trans active) (prep.undecided.terminalReason.trans endless)
    (prep.working working due)

theorem Stage.phase (stage : Stage s w script t op) :
    Midway op ∨ t.Phase := by
  cases stage with
  | prepare prep prepOp => exact .inr (prep.phase working due active endless)
  | holdReason | holdState | holdMark | finishActor | finishState | finishMark | awaitState
  | awaitMark | nextMark => exact .inl trivial
  | finishClose q ready plan =>
    have quiet := ready.quiet working due plan
    exact .inr (.ended rfl quiet)
  | nextActive x prep at_next plan => exact .inl (id_ne_empty (find_of_wispAt at_next))
  | nextPending x prep at_next plan =>
    exact .inr (prep.goes_on working due active endless at_next plan rfl rfl rfl prep.undecided
      ⟨rfl, rfl⟩ id)

theorem Final.phase {action : HandlerAction} (final : Final s w script action u) :
    u.Phase ∧ (action = .approved ∨ action = .noConvergence → u.Quiet) := by
  cases final with
  | held r ready plan =>
    exact ⟨ready.waits working due endless (.inl ⟨r, plan⟩) rfl rfl rfl (.inl rfl) rfl,
      fun ends => absurd ends (by simp)⟩
  | finished q ready plan =>
    have quiet := ready.quiet working due plan
    exact ⟨.ended rfl quiet, fun _ => quiet⟩
  | awaited ready plan =>
    exact ⟨ready.waits working due endless (.inr plan) rfl rfl rfl (.inr rfl) rfl,
      fun ends => absurd ends (by simp)⟩
  | nexted x prep at_next plan =>
    exact ⟨prep.goes_on working due active endless at_next plan rfl rfl rfl prep.undecided
      ⟨rfl, rfl⟩ id, fun ends => absurd ends (by simp)⟩

theorem Failed.phase (failed : Failed s w script u) : u.Phase :=
  failed.1.toPrep.phase working due active endless

omit working due active endless

theorem Phase.congr (phase : s.Phase) (same : Undecided s.metadata u.metadata)
    (outcome : u.metadata.gateOutcomeWisp = s.metadata.gateOutcomeWisp) (wisps : u.wisps = s.wisps) :
    u.Phase := by
  have last : u.lastIteration = s.lastIteration :=
    lastIteration_of_find (by rw [wisps, same.lastProcessedWisp])
  cases phase with
  | fresh running endless unnamed none =>
    refine .fresh ?_ (same.terminalReason.trans endless) (same.activeWisp.trans unnamed) ?_
    · rw [same.state]
      exact running
    · rw [wisps]
      exact none
  | waiting state endless unnamed settled =>
    refine .waiting ?_ (same.terminalReason.trans endless) (same.activeWisp.trans unnamed) ?_
    · rw [same.state]
      exact state
    · rw [wisps, last]
      exact settled
  | ended ended quiet =>
    refine .ended (same.state.trans ended) ?_
    unfold Quiet
    rw [wisps]
    exact quiet
  | working a active endless working =>
    refine .working a (same.state.trans active) (same.terminalReason.trans endless)
      ⟨same.activeWisp.trans working.named, ?_, ?_, ?_, ?_⟩
    · rw [wisps]
      exact working.found
    · rw [last]
      exact working.later
    · rw [wisps, last]
      intro x mem other
      rcases working.others x mem other with old | ahead
      · exact .inl old
      · exact .inr (ahead.transfer same)
    · intro persisted
      exact same.evaluates (working.evaluated (outcome.symm.trans persisted))

theorem Phase.neutral (phase : s.Phase) {m : MetaWrite} (neutral : m.neutral = true) :
    (s.note m).Phase :=
  phase.congr (undecided_note (Undecided.refl _) (MetaWrite.neutral_prepares neutral))
    (alike_note neutral).gateOutcomeWisp rfl

def AllProcessed (s : LoopStore) : Prop :=
  ∀ x ∈ s.wisps.rows, x.status = .closed ∧ x.iteration ≤ s.lastIteration

theorem AllProcessed.begin (processed : s.AllProcessed)
    (found : u.wisps.find x.id = some x) (later : s.lastIteration < x.iteration)
    (others : ∀ y ∈ u.wisps.rows, y ≠ x → ∃ v ∈ s.wisps.rows, v.status = y.status ∧
      v.iteration = y.iteration)
    (last : u.lastIteration = s.lastIteration) (active : u.metadata.state = .active)
    (endless : u.metadata.terminalReason = none) (named : u.metadata.activeWisp = x.id)
    (unpersisted : u.metadata.gateOutcomeWisp ≠ x.id) : u.Phase := by
  refine .working x active endless ⟨named, found, by omega, ?_, fun persisted => ?_⟩
  · intro y mem other
    obtain ⟨v, old, status, iteration⟩ := others y mem other
    obtain ⟨closed, before⟩ := processed v old
    refine .inl ⟨status.symm.trans closed, ?_⟩
    rw [last, ← iteration]
    exact before
  · exact absurd persisted unpersisted

theorem AllProcessed.quiet (processed : s.AllProcessed) : s.Quiet :=
  fun x mem => (processed x mem).1

theorem Phase.allProcessed (phase : s.Phase) (idle : s.metadata.state ≠ .terminated)
    (unnamed : s.metadata.activeWisp = "") : s.AllProcessed := by
  cases phase with
  | fresh _ _ _ none =>
    intro x mem
    rw [none] at mem
    exact absurd mem List.not_mem_nil
  | waiting _ _ _ settled => exact settled
  | ended ended => exact absurd ended idle
  | working a _ _ working =>
    exact absurd (working.named.symm.trans unnamed) (id_ne_empty working.found)

theorem Phase.waits (phase : s.Phase)
    (state : s.metadata.state = .waitingManual ∨ s.metadata.state = .waitingTrigger) :
    s.AllProcessed ∧ s.metadata.terminalReason = none := by
  have idle : s.metadata.state ≠ .terminated := by
    rcases state with state | state <;> simp [state]
  cases phase with
  | fresh running endless unnamed none =>
    exact ⟨(Phase.fresh running endless unnamed none).allProcessed idle unnamed, endless⟩
  | waiting _ endless _ settled => exact ⟨settled, endless⟩
  | ended ended => exact absurd ended idle
  | working a active => exact absurd active (by rcases state with state | state <;> simp [state])

theorem Phase.quiet_of_terminated (phase : s.Phase) (ended : s.metadata.state = .terminated) :
    s.Quiet := by
  cases phase with
  | fresh running => exact absurd ended running
  | waiting state => exact absurd ended (by rcases state with state | state <;> simp [state])
  | working a active => exact absurd ended (by simp [active])
  | ended _ quiet => exact quiet

theorem Phase.closeWisp (phase : s.Phase) {id : String}
    (apart : ∀ a, Working s a → ∀ x ∈ s.wisps.rows, PouredAhead s a x → x.id ≠ id) :
    (s.closeWisp id).Phase := by
  have last : (s.closeWisp id).lastIteration = s.lastIteration := by
    unfold lastIteration
    rw [show (s.closeWisp id).metadata = s.metadata from rfl, find_closeWisp, Option.map_map]
    congr 2
    funext v
    exact closeOne_iteration id v
  have stay : (∀ x ∈ s.wisps.rows, x.status = .closed) → (s.closeWisp id).Quiet := by
    intro quiet x mem
    obtain ⟨v, old, rfl⟩ := List.mem_map.mp mem
    exact closeOne_closed id v (quiet v old)
  cases phase with
  | fresh running endless unnamed none =>
    refine .fresh running endless unnamed ?_
    show s.wisps.rows.map _ = []
    rw [none]
    rfl
  | waiting state endless unnamed settled =>
    refine .waiting state endless unnamed fun x mem => ?_
    refine ⟨stay (fun y there => (settled y there).1) x mem, ?_⟩
    obtain ⟨v, old, rfl⟩ := List.mem_map.mp mem
    rw [last, closeOne_iteration]
    exact (settled v old).2
  | ended ended quiet => exact .ended ended (stay quiet)
  | working a active endless working =>
    refine .working (closeOne id a) active endless ⟨?_, ?_, ?_, ?_, ?_⟩
    · rw [closeOne_id]
      exact working.named
    · rw [closeOne_id, find_closeWisp, working.found]
      rfl
    · rw [last, closeOne_iteration]
      exact working.later
    · intro x mem other
      obtain ⟨v, old, rfl⟩ := List.mem_map.mp mem
      have not_a : v ≠ a := by
        rintro rfl
        exact other rfl
      rcases working.others v old not_a with ⟨closed, before⟩ | ahead
      · refine .inl ⟨closeOne_closed id v closed, ?_⟩
        rw [last, closeOne_iteration]
        exact before
      · have same : closeOne id v = v := if_neg (apart a working v old ahead)
        rw [same]
        refine .inr ⟨closeOne_closed id a ahead.closed, ?_, ahead.running, ahead.hidden, ?_,
          ahead.evaluates⟩
        · rw [closeOne_iteration]
          exact ahead.next
        · rw [closeOne_iteration]
          exact ahead.pours
    · rw [closeOne_id]
      exact working.evaluated

end LoopStore

end GasCity
