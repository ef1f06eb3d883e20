import GasCity.LoopPhases

namespace GasCity

open Program

/-- A crash right before this write of a call leaves a wisp that the metadata do not name, or a
transition that is half committed. -/
def Exposed : LoopCall → StoreOp → Prop
  | .iterate, .setMetadata _ (.agentVerdict _) | .iterate, .setMetadata _ (.agentVerdictWisp _)
  | .trigger _, .activateWisp _ | .trigger _, .setMetadata _ (.iteration _)
  | .reconcile _, .activateWisp _ | .reconcile _, .setMetadata _ (.iteration 0) => True
  | _, op => Midway op

namespace LoopStore

variable {α : Type} {s t u : LoopStore} {w x a : Wisp} {script : GateResult} {ids : IDSupply}
  {op : StoreOp} {id : String}

/-- The loop is between its transitions wherever a call is not exposed, and when it returns. -/
def Passes (ids : IDSupply) (c : LoopCall) (p : Call LoopStore α) (s : LoopStore) : Prop :=
  p.Holds (exec ids) (fun t op => Exposed c op ∨ t.Phase) (fun _ u => u.Phase)
    (fun _ u => u.Phase) s

/-- When it returns, moreover, no wisp runs. -/
def Settles (ids : IDSupply) (c : LoopCall) (p : Call LoopStore α) (s : LoopStore) : Prop :=
  p.Holds (exec ids) (fun t op => Exposed c op ∨ t.Phase) (fun _ u => u.Phase ∧ u.Quiet)
    (fun _ u => u.Phase) s

theorem Phase.closeRoot (phase : s.Phase) : s.closeRoot.Phase :=
  phase.congr (Undecided.refl _) rfl rfl

theorem phases_HandleWispClosed (phase : s.Phase)
    (delivered : ∀ w, s.wisps.find id = some w → w.status = .closed) :
    (HandleWispClosed (store ids) s.rootID id script).Holds (exec ids)
      (fun t op => Midway op ∨ t.Phase)
      (fun res u => u.Phase ∧ (res.action = .approved ∨ res.action = .noConvergence → u.Quiet))
      (fun _ u => u.Phase) s := by
  by_cases waiting : ∃ w, w.id = id ∧ s.Unprocessed w
  · obtain ⟨w, rfl, due⟩ := waiting
    obtain ⟨active, endless, working⟩ := phase.working_of_unprocessed due
    exact (holds_HandleWispClosed due).mono
      (fun _ _ stage => stage.phase working due active endless)
      (fun _ _ final => final.phase working due active endless)
      (fun _ _ failed => failed.phase working due active endless)
  · refine (holds_idle_report delivered waiting).mono ?_ ?_ ?_
    · rintro _ _ ⟨rfl, _, _⟩
      exact .inr phase
    · rintro res u ⟨skipped, same | ⟨_, same⟩⟩
      · rw [same, skipped]
        exact ⟨phase, fun ends => absurd ends (by simp)⟩
      · rw [same, skipped]
        exact ⟨phase.closeRoot, fun ends => absurd ends (by simp)⟩
    · rintro _ u rfl
      exact phase

theorem AllProcessed.pour_next (processed : s.AllProcessed) (ids : IDSupply)
    (numbered : s.Numbered) :
    ∃ x, (s.pour ids (s.closedCount + 1) true).2.wispAt (s.closedCount + 1) = some x ∧
      x.id = (s.pour ids (s.closedCount + 1) true).1 ∧ s.lastIteration < s.closedCount + 1 ∧
      x.id ∉ mentioned s.metadata := by
  obtain ⟨k, dense⟩ := numbered.dense
  have count : s.closedCount = k := by
    rcases numbered.closedCount_cases dense with ⟨count, _⟩ | ⟨y, at_k, running, _⟩
    · exact count
    · exact absurd (processed y (wispAt_eq_some_iff.mp at_k).1).1 running
  have free : s.wispAt (s.closedCount + 1) = none := by
    rw [← Option.not_isSome_iff_eq_none, dense]
    omega
  obtain ⟨x, found, name, origin⟩ := (pour_spec ids s (s.closedCount + 1) true).there
  refine ⟨x, found, name, ?_, ?_⟩
  · unfold lastIteration
    cases at_last : s.wisps.find s.metadata.lastProcessedWisp with
    | none => exact Nat.succ_pos _
    | some z =>
      have := dense.mem_le (KeyedList.mem_of_find at_last)
      show z.iteration < s.closedCount + 1
      omega
  · rcases origin with same | ⟨_, _, _, unmentioned⟩
    · rw [same, free] at found
      cases found
    · rw [name]
      exact unmentioned

theorem AllProcessed.begun {n : Nat} (processed : s.AllProcessed) (numbered : s.Numbered)
    (next : n = s.closedCount + 1)
    (wisps : u.wisps = (s.pour ids n true).2.wisps ∨
      u.wisps = ((s.pour ids n true).2.publish (s.pour ids n true).1).wisps)
    (last : u.metadata.lastProcessedWisp = (s.pour ids n true).2.metadata.lastProcessedWisp)
    (outcome : u.metadata.gateOutcomeWisp = (s.pour ids n true).2.metadata.gateOutcomeWisp)
    (reason : u.metadata.terminalReason = (s.pour ids n true).2.metadata.terminalReason)
    (endless : s.metadata.terminalReason = none) (active : u.metadata.state = .active)
    (named : u.metadata.activeWisp = (s.pour ids n true).1) : u.Phase := by
  subst next
  obtain ⟨x, found, name, later, unmentioned⟩ := processed.pour_next ids numbered
  have poured := pour_spec ids s (s.closedCount + 1) true
  set p := s.pour ids (s.closedCount + 1) true
  rw [poured.metadata] at last outcome reason
  have endless := reason.trans endless
  obtain ⟨_, iteration⟩ := wispAt_eq_some_iff.mp found
  have at_last : p.2.lastIteration = s.lastIteration := by
    refine lastIteration_of_find ?_
    rw [poured.metadata]
    exact poured.find_mentioned (by simp [mentioned])
  have old : ∀ y ∈ p.2.wisps.rows, y ≠ x → y ∈ s.wisps.rows := by
    intro y mem other
    have not_new : y.iteration ≠ s.closedCount + 1 := by
      intro same
      have at_y := wispAt_of_mem mem
      rw [same, found] at at_y
      exact other (Option.some.inj at_y).symm
    have at_y := wispAt_of_mem mem
    rw [poured.others _ not_new] at at_y
    exact (wispAt_eq_some_iff.mp at_y).1
  have unpersisted : u.metadata.gateOutcomeWisp ≠ x.id := by
    rw [outcome]
    intro same
    apply unmentioned
    rw [← same]
    simp [mentioned]
  have at_x := find_of_wispAt found
  rcases wisps with same | same
  · refine processed.begin (x := x) ?_ (by omega) ?_ ?_ active endless (named.trans name.symm)
      unpersisted
    · rw [same]
      exact at_x
    · rw [same]
      intro y mem other
      exact ⟨y, old y mem other, rfl, rfl⟩
    · rw [← at_last]
      refine lastIteration_of_find ?_
      rw [same, last, poured.metadata]
  · refine processed.begin (x := publishOne x.id x) ?_ ?_ ?_ ?_ active endless ?_ ?_
    · rw [same, publishOne_id, find_publish, at_x, ← name]
      rfl
    · rw [publishOne_iteration]
      omega
    · rw [same, ← name]
      intro y mem other
      obtain ⟨v, there, rfl⟩ := List.mem_map.mp mem
      have not_x : v ≠ x := by
        rintro rfl
        exact other rfl
      exact ⟨v, old v there not_x, (publishOne_status x.id v).symm,
        (publishOne_iteration x.id v).symm⟩
    · rw [← at_last, ← lastIteration_publish p.2 p.1]
      refine lastIteration_of_find ?_
      rw [same, last]
      show _ = (p.2.publish _).wisps.find p.2.metadata.lastProcessedWisp
      rw [poured.metadata]
    · rw [publishOne_id, name]
      exact named
    · rw [publishOne_id]
      exact unpersisted

section Operator

theorem passes_IterateHandler (phase : s.Phase) (numbered : s.Numbered) :
    Passes ids .iterate (IterateHandler (store ids) s.rootID) s := by
  refine metadata_then (fun _ => phase) fun created => ?_
  refine holds_ite.mpr ⟨fun _ => phase, fun waits => ?_⟩
  obtain ⟨processed, endless⟩ := phase.waits (.inl (not_not.mp waits))
  refine answer_then (deriveIterationCount_eq s) ?_
  refine holds_ite.mpr ⟨fun _ => phase, fun _ => ?_⟩
  refine holds_bind.mpr (holds_poured (exec_pourWisp rfl created) (.inr phase) ?_)
  have poured := pour_spec ids s (s.closedCount + 1) true
  have created' := poured.created.trans created
  set p := (s.pour ids (s.closedCount + 1) true).2
  refine holds_bind.mpr (holds_ret.mpr ?_)
  refine Holds.bind (Q := fun _ t => t = p ∨
    t = (p.note (.agentVerdict "")).note (.agentVerdictWisp "")) ?_ ?_
  · refine holds_onlyIf.mpr ⟨fun _ => holds_onlyIf.mpr ⟨fun _ => ?_, fun _ => .inl rfl⟩,
      fun _ => .inl rfl⟩
    refine set_then poured.rootID created' (.inl trivial) ?_
    exact holds_set poured.rootID created' (.inl trivial) (.inr rfl)
  · intro _ t moved
    have fields : t.rootID = s.rootID ∧ t.created = true ∧
        t.wisps = p.wisps ∧ t.metadata.lastProcessedWisp = p.metadata.lastProcessedWisp ∧
        t.metadata.gateOutcomeWisp = p.metadata.gateOutcomeWisp ∧
        t.metadata.terminalReason = p.metadata.terminalReason := by
      rcases moved with rfl | rfl <;> exact ⟨poured.rootID, created', rfl, rfl, rfl, rfl⟩
    obtain ⟨root, created'', wisps, last, outcome, reason⟩ := fields
    refine set_then root created'' (.inl trivial) ?_
    refine set_then root created'' (.inl trivial) ?_
    refine set_then root created'' (.inl ?_) ?_
    · obtain ⟨x, found, _⟩ := poured.find
      exact id_ne_empty found
    · exact processed.begun numbered rfl (.inl wisps) last outcome reason endless rfl rfl

theorem passes_HandleTrigger (phase : s.Phase) (numbered : s.Numbered) :
    Passes ids (.trigger script) (HandleTrigger (store ids) s.rootID script) s := by
  refine metadata_then (fun _ => phase) fun created => ?_
  refine holds_ite.mpr ⟨fun _ => phase, fun waits => ?_⟩
  obtain ⟨processed, endless⟩ := phase.waits (.inr (not_not.mp waits))
  refine throw_then (fun _ => phase) fun tc _ => ?_
  refine holds_ite.mpr ⟨fun _ => phase, fun _ => ?_⟩
  refine throw_then (fun _ => phase) fun cfg _ => ?_
  refine answer_then (deriveIterationCount_eq s) ?_
  refine holds_ite.mpr ⟨fun _ => phase, fun _ => ?_⟩
  refine holds_ite.mpr ⟨fun _ => phase, fun _ => ?_⟩
  refine holds_bind.mpr (holds_poured (exec_pourWisp rfl created) (.inr phase) ?_)
  have poured := pour_spec ids s (s.closedCount + 1) true
  have created' := poured.created.trans created
  obtain ⟨x, found, _⟩ := poured.find
  refine holds_bind.mpr (holds_ret.mpr ?_)
  refine holds_bind.mpr (holds_must (exec_activateWisp found) (.inl trivial) ?_)
  refine set_then poured.rootID created' (.inl trivial) ?_
  refine set_then poured.rootID created' (.inl ?_) ?_
  · exact id_ne_empty found
  · refine set_then poured.rootID created' (.inl trivial) ?_
    exact processed.begun numbered rfl (.inr rfl) rfl rfl rfl endless rfl rfl

theorem Quiet.of_wisps (quiet : s.Quiet) (wisps : u.wisps = s.wisps) : u.Quiet := by
  intro x mem
  rw [wisps] at mem
  exact quiet x mem

theorem passes_end {c : LoopCall} {r doing value actor d e f g h : String} {q : TerminalReason}
    {reason : CloseReason} (phase : s.Phase) (quiet : s.Quiet) (root : s.rootID = r)
    (created : s.created = true) (exposed : ∀ op, Midway op → Exposed c op) :
    (commit r
      [(.terminalReason q, d), (.terminalActor actor, e), (.waitingReason none, f),
        (.state .terminated, g)]
      (must h (.closeBead r reason)) .lastProcessedWisp value
      doing).Holds (exec ids) (fun t op => Exposed c op ∨ t.Phase) (fun _ u => u.Phase ∧ u.Quiet)
      (fun _ u => u.Phase) s := by
  refine holds_bind.mpr (set_then root created (.inr phase) ?_)
  refine set_then root created (.inl (exposed _ trivial)) ?_
  refine set_then root created (.inl (exposed _ trivial)) ?_
  refine set_then root created (.inl (exposed _ trivial)) ?_
  generalize ended : (((s.note (.terminalReason q)).note (.terminalActor actor)).note
    (.waitingReason none)).note (.state .terminated) = u
  have state : u.metadata.state = .terminated := by
    rw [← ended]
    rfl
  have past : u.Quiet := quiet.of_wisps (by rw [← ended]; rfl)
  have root' : u.rootID = r := by
    rw [← ended]
    exact root
  have created' : u.created = true := by
    rw [← ended]
    exact created
  refine holds_bind.mpr (holds_must (exec_closeRoot root' created') (.inr (.ended state past)) ?_)
  refine holds_onlyIf.mpr ⟨fun _ => ?_, fun _ => ⟨.ended state past, past⟩⟩
  exact holds_set root' created' (.inl (exposed _ trivial)) ⟨.ended state past, past⟩

theorem passes_ApproveHandler (username : String) (phase : s.Phase) :
    Settles ids (.approve username) (ApproveHandler (store ids) s.rootID username) s := by
  refine metadata_then (fun _ => phase) fun created => ?_
  refine holds_ite.mpr ⟨fun ended => ?_, fun _ => ?_⟩
  · exact ⟨phase, phase.quiet_of_terminated ended.1⟩
  · refine holds_ite.mpr ⟨fun _ => phase, fun waits => ?_⟩
    have quiet := (phase.waits (.inl (not_not.mp waits))).1.quiet
    refine answer_then (deriveIterationCount_eq s) ?_
    exact Holds.bind (passes_end phase quiet rfl created
      fun _ h => h) fun _ _ done => done

/-- The loop can be stopped: nothing runs, or only the wisp that it names. -/
inductive Stoppable (s : LoopStore) : Prop
  | idle : s.metadata.activeWisp = "" → s.Quiet → Stoppable s
  | running (a : Wisp) : Working s a → a.status ≠ .closed → Stoppable s

theorem Working.told (working : Working s a) (purpose last : String) :
    currentActiveWisp (store ids) purpose s.rootID s.metadata.activeWisp last s =
      .ok (some { id := a.id, status := a.status }) := by
  have answer : (store ids).GetBead s a.id = .ok (a.info s.rootID) :=
    GetBead_of_find working.found
  unfold currentActiveWisp
  rw [if_neg (by rw [working.named]; exact id_ne_empty working.found), working.named, answer]
  rfl

theorem Working.closes (working : Working s a) (running : a.status ≠ .closed) :
    (s.closeWisp a.id).Quiet := by
  intro x mem
  obtain ⟨v, old, rfl⟩ := List.mem_map.mp mem
  by_cases same : v = a
  · rw [same]
    simp [closeOne]
  · rcases working.others v old same with ⟨closed, _⟩ | ahead
    · exact closeOne_closed a.id v closed
    · exact absurd ahead.closed running

theorem passes_stopDrained {username active last : String} (phase : s.Phase)
    (stoppable : s.Stoppable) (created : s.created = true)
    (named : s.metadata.activeWisp = active) :
    Settles ids (.stop username script) (stopDrained (store ids) s.rootID username active last) s := by
  subst named
  refine inspect_then (fun _ => phase) fun active answer => ?_
  have closed : (forceClose active).Holds (exec ids)
      (fun t op => Exposed (.stop username script) op ∨ t.Phase)
      (fun _ u => u.Phase ∧ u.Quiet ∧ u.rootID = s.rootID ∧ u.created = true)
      (fun _ u => u.Phase) s := by
    cases stoppable with
    | idle unnamed quiet =>
      unfold currentActiveWisp at answer
      rw [if_pos unnamed] at answer
      cases Except.ok.inj answer
      exact ⟨phase, quiet, rfl, created⟩
    | running a working running =>
      rw [working.told] at answer
      cases Except.ok.inj answer
      refine holds_ite.mpr ⟨fun closed => absurd closed running, fun _ => ?_⟩
      refine holds_bind.mpr (holds_must (exec_closeWisp working.found) (.inr phase) ?_)
      refine ⟨phase.closeWisp ?_, working.closes running, rfl, created⟩
      intro b other x _ ahead
      have same : b = a := by
        have found := other.found
        rw [← other.named, working.named, working.found] at found
        exact (Option.some.inj found).symm
      rw [same] at ahead
      exact absurd ahead.closed running
  refine Holds.bind closed ?_
  rintro forced t ⟨phase', quiet, root, created'⟩
  rw [← root]
  refine answer_then (deriveIterationCount_eq t) ?_
  refine set_then rfl created' (.inr phase') ?_
  have noted := phase'.neutral (m := .agentVerdict "") rfl
  refine set_then rfl created' (.inr noted) ?_
  exact Holds.bind (passes_end
    (noted.neutral (m := .agentVerdictWisp "") rfl) quiet rfl created' fun _ h => h)
    fun _ _ done => done

theorem Final.stoppable {action : HandlerAction} (final : Final s w script action u)
    (working : Working s w) (due : s.Unprocessed w) (phase : u.Phase)
    (running : u.metadata.state ≠ .terminated) : u.Stoppable := by
  cases final with
  | held | awaited => exact .idle rfl (phase.allProcessed running rfl).quiet
  | finished q ready plan => exact absurd rfl running
  | @nexted t x prep at_next plan =>
    have at_x := find_of_wispAt at_next
    have set : (LoopStore.nexted t w x).metadata.activeWisp ≠ "" := id_ne_empty at_x
    cases phase with
    | fresh _ _ unnamed | waiting _ _ unnamed => exact absurd unnamed set
    | ended ended => exact absurd ended running
    | working a _ _ going =>
      refine .running a going ?_
      have found := going.found
      rw [← going.named] at found
      have published : (LoopStore.nexted t w x).wisps.find x.id = some (publishOne x.id x) := by
        show (t.publish x.id).wisps.find x.id = _
        rw [find_publish, at_x]
        rfl
      cases Option.some.inj (published.symm.trans found)
      rw [publishOne_status]
      exact (prep.next_ahead working due at_next).running

theorem phases_drain {username : String} (working : Working s a) (due : s.Unprocessed a)
    (active : s.metadata.state = .active) (endless : s.metadata.terminalReason = none) :
    (HandleWispClosed (store ids) s.rootID a.id script).Holds (exec ids)
      (fun t op => Exposed (.stop username script) op ∨ t.Phase)
      (fun _ u => u.Phase ∧ (u.metadata.state ≠ .terminated → u.Stoppable) ∧
        u.rootID = s.rootID) (fun _ u => u.Phase) s := by
  refine ((holds_HandleWispClosed due).preserving (I := fun t => t.rootID = s.rootID)
    (fun t op _ root => (exec_effect op t).rootID.trans root) rfl).mono ?_ ?_ ?_
  · exact fun _ _ stage => stage.1.phase working due active endless
  · rintro res u ⟨final, root⟩
    have phase := (final.phase working due active endless).1
    exact ⟨phase, fun running => final.stoppable working due phase running, root⟩
  · exact fun _ _ failed => failed.1.phase working due active endless

theorem passes_StopHandler (username : String) (phase : s.Phase) :
    Settles ids (.stop username script) (StopHandler (store ids) s.rootID username script) s := by
  refine metadata_then (fun _ => phase) fun created => ?_
  refine holds_ite.mpr ⟨fun ended => ?_, fun _ => ?_⟩
  · exact ⟨phase, phase.quiet_of_terminated ended.1⟩
  · refine holds_ite.mpr ⟨fun _ => phase, fun stops => ?_⟩
    have running : s.metadata.state ≠ .terminated := by
      intro ended
      exact stops (by simp [ended])
    refine inspect_then (fun _ => phase) fun active answer => ?_
    by_cases unnamed : s.metadata.activeWisp = ""
    · have idle := (phase.allProcessed running unnamed).quiet
      unfold currentActiveWisp at answer
      rw [if_pos unnamed] at answer
      cases Except.ok.inj answer
      exact passes_stopDrained phase (.idle unnamed idle) created unnamed
    · cases phase with
      | fresh _ _ none | waiting _ _ none => exact absurd none unnamed
      | ended ended => exact absurd ended running
      | working a state endless working =>
        have phase : s.Phase := .working a state endless working
        rw [working.told] at answer
        cases Except.ok.inj answer
        refine holds_ite.mpr ⟨fun closed => ?_, fun runs => ?_⟩
        · have due : s.Unprocessed a := ⟨created, running, working.found, closed, working.later⟩
          refine Holds.bind (holds_onError.mpr
            (phases_drain working due state endless)) ?_
          rintro _ u ⟨phase', stoppable, root⟩
          rw [← root]
          refine metadata_then (fun _ => phase') fun created' => ?_
          refine holds_ite.mpr ⟨fun ended => ?_, fun goes_on => ?_⟩
          · exact ⟨phase', phase'.quiet_of_terminated ended⟩
          · exact passes_stopDrained phase' (stoppable goes_on) created' rfl
        · exact passes_stopDrained phase (.running a working runs) created working.named

end Operator

end LoopStore

end GasCity
