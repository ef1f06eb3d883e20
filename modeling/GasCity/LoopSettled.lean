import GasCity.LoopSettling

namespace GasCity.LoopStore

open Program

variable {α : Type} {s t u : LoopStore} {w x a : Wisp} {script : GateResult} {ids : IDSupply}
  {op : StoreOp} {id r : String}

section Reconciler

theorem Tidied.phase (phase : t.Phase) (tidied : Tidied t u) : u.Phase := by
  rcases tidied with rfl | rfl
  · exact phase
  · exact phase.congr (undecided_note (Undecided.refl _) rfl) rfl rfl

theorem wispAt_of_nil (none : s.wisps.rows = []) (n : Nat) : s.wispAt n = Option.none := by
  show s.wisps.rows.find? _ = Option.none
  rw [none]
  rfl

theorem closedCount_of_nil (none : s.wisps.rows = []) : s.closedCount = 0 := by
  unfold closedCount
  rw [none]
  rfl

theorem allProcessed_of_nil (none : s.wisps.rows = []) : s.AllProcessed := by
  intro x mem
  rw [none] at mem
  exact absurd mem List.not_mem_nil

theorem Adopted.begins {n : Nat} (adopted : Adopted ids t n u x) (none : t.wisps.rows = [])
    (first : n = t.closedCount + 1) (unnamed : t.metadata.activeWisp = "")
    (endless : t.metadata.terminalReason = Option.none) (active : t.metadata.state = .active) :
    (nextNamed u x).Phase := by
  cases adopted with
  | @there _ _ tidied found =>
    obtain ⟨_, _, wisps, _⟩ := tidied.fields
    rw [wispAt_of_wisps wisps, wispAt_of_nil none] at found
    cases found
  | @poured v _ tidied free found =>
    obtain ⟨_, _, wisps, same⟩ := tidied.fields
    have none' : v.wisps.rows = [] := by
      rw [wisps]
      exact none
    have poured := pour_spec ids v n true
    obtain ⟨y, at_n, name, _⟩ := poured.there
    cases Option.some.inj (at_n.symm.trans found)
    have state : (v.pour ids n true).2.metadata.state = .active := by
      rw [poured.metadata, same.state]
      exact active
    have count : n = v.closedCount + 1 := by
      rw [closedCount_of_nil none', first, closedCount_of_nil none]
    refine (allProcessed_of_nil none').begun
      (numbered_of_nil none' (same.activeWisp.trans unnamed)) count (.inr ?_) rfl rfl rfl
      (same.terminalReason.trans endless) state name
    rw [← name]
    rfl

theorem Resuming.phase {n : Nat} (resuming : Resuming ids t n u op) (phase : t.Phase)
    (none : t.wisps.rows = []) (first : n = t.closedCount + 1)
    (unnamed : t.metadata.activeWisp = "") (endless : t.metadata.terminalReason = Option.none)
    (active : t.metadata.state = .active) : Exposed (.reconcile script) op ∨ u.Phase := by
  cases resuming with
  | tidy => exact .inr phase
  | pour args tidied free => exact .inr (tidied.phase phase)
  | activate adopted => exact .inl trivial
  | name adopted => exact .inl (id_ne_empty (find_of_wispAt adopted.beside.found))
  | forget adopted => exact .inr (adopted.begins none first unnamed endless active)

theorem passes_resumeChain (created : t.created = true) (phase : t.Phase)
    (none : t.wisps.rows = []) (unnamed : t.metadata.activeWisp = "")
    (endless : t.metadata.terminalReason = Option.none) (active : t.metadata.state = .active) :
    Passes ids (.reconcile script) (resumeChain (store ids) t.rootID t.metadata) t := by
  refine (holds_resumeChain (E := fun _ u => u.Phase) created).mono ?_ ?_ (fun _ _ h => h)
  · exact fun _ _ resuming => resuming.phase phase none rfl unnamed endless active
  · rintro _ v ⟨u, x, adopted, rfl⟩
    exact (adopted.begins none rfl unnamed endless active).congr
      (undecided_note (Undecided.refl _) rfl) rfl rfl

variable (phase : s.Phase) (created : s.created = true)

include phase created

theorem passes_reconcileMissingState (missing : s.metadata.state = .missing) :
    Passes ids (.reconcile script) (reconcileMissingState (store ids) s.rootID s.metadata script)
      s := by
  cases phase with
  | waiting state => exact absurd missing (by rcases state with state | state <;> simp [state])
  | ended ended => exact absurd missing (by simp [ended])
  | working a active => exact absurd missing (by simp [active])
  | fresh running endless unnamed none =>
    refine answer_then (FindByIdempotencyKey_root s 1) ?_
    rw [wispAt_of_nil none]
    refine holds_bind.mpr
      (holds_mustGet (exec_pourWisp rfl created) (.inr (.fresh running endless unnamed none)) ?_)
    have poured := pour_spec ids s 1 true
    obtain ⟨x, found, _⟩ := poured.find
    have created' := poured.created.trans created
    refine set_then poured.rootID created' (.inl (id_ne_empty found)) ?_
    refine set_then poured.rootID created' (.inl trivial) ?_
    refine set_then poured.rootID created' (.inl trivial) ?_
    refine (allProcessed_of_nil none).begun (numbered_of_nil none unnamed) ?_ (.inl rfl) rfl rfl
      rfl endless rfl rfl
    rw [closedCount_of_nil none]

theorem passes_reconcileCreating (creating : s.metadata.state = .creating) :
    Passes ids (.reconcile script) (reconcileCreating s.rootID) s := by
  have quiet : s.Quiet := by
    cases phase with
    | fresh _ _ _ none => exact (allProcessed_of_nil none).quiet
    | waiting _ _ _ settled => exact fun x mem => (settled x mem).1
    | ended _ quiet => exact quiet
    | working a active => exact absurd creating (by simp [active])
  refine set_then rfl created (.inr phase) ?_
  refine set_then rfl created (.inl trivial) ?_
  refine set_then rfl created (.inl trivial) ?_
  have ended : (((s.note (.terminalReason .partialCreation)).note
      (.terminalActor "recovery")).note (.state .terminated)).Phase := .ended rfl quiet
  exact holds_bind.mpr (holds_must (exec_closeRoot rfl created) (.inr ended) ended.closeRoot)

theorem passes_reconcileTerminated (ended : s.metadata.state = .terminated) :
    Passes ids (.reconcile script) (reconcileTerminatedNotClosed (store ids) s.rootID s.metadata)
      s := by
  have quiet := phase.quiet_of_terminated ended
  refine query_then (fun _ => phase) fun info _ => ?_
  refine holds_ite.mpr ⟨fun _ => phase, fun _ => ?_⟩
  refine Holds.bind (holds_backfillTerminalActor created (.inl trivial)) ?_
  rintro _ u ⟨ending, _, state⟩
  have past : u.Phase := .ended (state.trans ended) (quiet.of_wisps ending.wisps)
  exact holds_bind.mpr (holds_must (exec_closeRoot ending.rootID (ending.created.trans created))
    (.inr past) past.closeRoot)

theorem passes_reconcileWaitingManual (waits : s.metadata.state = .waitingManual) :
    Passes ids (.reconcile script) (reconcileWaitingManual (store ids) s.rootID s.metadata) s := by
  obtain ⟨processed, endless⟩ := phase.waits (.inl waits)
  refine holds_ite.mpr ⟨fun ends => absurd ends (by simp [endless]), fun _ => ?_⟩
  refine answer_then (Children_root s) ?_
  rcases highestClosed_cases s with best | ⟨w, newest, best⟩
  · rw [best]
    exact phase
  · rw [best]
    have unnamed : s.metadata.activeWisp = "" := by
      cases phase with
      | fresh _ _ unnamed | waiting _ _ unnamed => exact unnamed
      | ended ended => exact absurd waits (by simp [ended])
      | working a active => exact absurd waits (by simp [active])
    refine holds_ite.mpr ⟨fun _ => ?_, fun _ => ?_⟩
    · refine holds_ite.mpr ⟨fun _ => phase, fun _ => ?_⟩
      refine set_then rfl created (.inl trivial) ?_
      refine .waiting (.inl waits) endless unnamed fun x mem => ?_
      have closed := (processed x mem).1
      have marked : (s.note (.lastProcessedWisp w.id)).lastIteration = w.iteration :=
        lastIteration_marked newest.found rfl
      refine ⟨closed, ?_⟩
      show x.iteration ≤ (s.note (.lastProcessedWisp w.id)).lastIteration
      rw [marked]
      exact newest.newest x mem closed
    · refine set_then rfl created (.inl trivial) ?_
      exact .waiting (.inl waits) endless unnamed processed

omit created in
theorem passes_reconcileActiveWisp (working : Working s a) :
    Passes ids (.reconcile script) (reconcileActiveWisp (store ids) s.rootID s.metadata
      { id := a.id, status := a.status } script) s := by
  refine holds_bind.mpr (holds_onlyIf.mpr ⟨fun yes => absurd yes (by simp), fun _ => ?_⟩)
  split
  next => exact phase
  next => exact phase
  next closed =>
    refine holds_ite.mpr ⟨fun _ => phase, fun _ => ?_⟩
    refine Holds.bind (Q := fun _ u => u.Phase) ?_ fun _ _ done => done
    refine Holds.bind (Q := fun _ u => u.Phase)
      (holds_onError.mpr ?_) fun _ _ done => done
    refine (phases_HandleWispClosed phase ?_).mono ?_ ?_ (fun _ _ h => h)
    · intro v found
      cases Option.some.inj (working.found.symm.trans found)
      exact closed
    · rintro t op (midway | here)
      · refine .inl ?_
        unfold Exposed
        split <;> first | exact trivial | exact midway
      · exact .inr here
    · exact fun _ _ done => done.1
  next => exact phase

omit phase created

theorem passes_reconcileBead (phase : s.Phase) :
    Passes ids (.reconcile script) (reconcileBead (store ids) s.rootID script) s := by
  refine holds_onError.mpr ?_
  refine Holds.bind (Q := fun _ u => u.Phase) ?_ fun _ _ done => done
  refine metadata_then (fun _ => phase) fun created => ?_
  cases state : s.metadata.state with
  | missing => exact passes_reconcileMissingState phase created state
  | creating => exact passes_reconcileCreating phase created state
  | terminated => exact passes_reconcileTerminated phase created state
  | waitingManual => exact passes_reconcileWaitingManual phase created state
  | waitingTrigger =>
    obtain ⟨_, endless⟩ := phase.waits (.inr state)
    exact holds_ite.mpr ⟨fun ends => absurd ends (by simp [endless]), fun _ => phase⟩
  | unknown text => exact phase
  | active =>
    cases phase with
    | waiting waits => exact absurd state (by rcases waits with waits | waits <;> simp [waits])
    | ended ended => exact absurd state (by simp [ended])
    | fresh running endless unnamed none =>
      have phase : s.Phase := .fresh running endless unnamed none
      refine holds_ite.mpr ⟨fun ends => absurd ends (by simp [endless]), fun _ => ?_⟩
      refine inspect_then (fun _ => phase) fun active answer => ?_
      unfold currentActiveWisp at answer
      rw [if_pos unnamed] at answer
      cases Except.ok.inj answer
      exact passes_resumeChain created phase none unnamed endless state
    | working a active endless working =>
      have phase : s.Phase := .working a active endless working
      refine holds_ite.mpr ⟨fun ends => absurd ends (by simp [endless]), fun _ => ?_⟩
      refine inspect_then (fun _ => phase) fun found answer => ?_
      rw [working.told] at answer
      cases Except.ok.inj answer
      exact passes_reconcileActiveWisp phase working

end Reconciler

end GasCity.LoopStore
