import GasCity.LoopOrderly

namespace GasCity

open Program

def LoopCall.script : LoopCall → GateResult
  | .wispClosed _ script | .trigger script | .stop _ script | .reconcile script => script
  | .iterate | .approve _ => {}

namespace LoopStore

variable {α : Type} {s t u : LoopStore} {w x : Wisp} {script : GateResult} {ids : IDSupply}
  {op : StoreOp} {id : String}

def told (ids : IDSupply) (s : LoopStore) : Except HandlerError (Option ActiveWisp) :=
  currentActiveWisp (store ids) "" s.rootID s.metadata.activeWisp s.metadata.lastProcessedWisp s

def Handles (ids : IDSupply) (s : LoopStore) (w : Wisp) : LoopCall → Prop
  | .wispClosed wispID _ => w.id = wispID
  | .stop _ _ => ∃ a, s.told ids = .ok (some a) ∧ a.id = w.id
  | .reconcile _ =>
    (∃ a, s.told ids = .ok (some a) ∧ a.id = w.id) ∨ s.metadata.state = .missing ∧ w.iteration = 1
  | _ => False

/-- No call processes a wisp in a way that burns a closed or published successor. -/
def Careful (ids : IDSupply) (s : LoopStore) : LoopEvent → Prop
  | .call c _ => ∀ w, s.Unprocessed w → s.Handles ids w c → s.Unburned w c.script
  | .agentCloses _ => True

theorem Numbered.ends {p : Call LoopStore α} (numbered : s.Numbered) (keeps : Keeps ids p s) :
    p.Holds (exec ids) Orderly (fun _ t => t.Numbered ∧ t.rootID = s.rootID) (fun _ _ => True) s := by
  have kept := keeps.preserving (I := fun t => t.Numbered ∧ t.rootID = s.rootID)
    (fun t op orderly held => ⟨(held.1.step orderly (exec_effect op t)).1,
      (exec_effect op t).rootID.trans held.2⟩) ⟨numbered, rfl⟩
  exact kept.mono (fun _ _ both => both.1) (fun _ _ both => both.2) (fun _ _ _ => trivial)

theorem keeps_StopHandler (username : String) (numbered : s.Numbered)
    (careful : ∀ w, s.Unprocessed w → (∃ a, s.told ids = .ok (some a) ∧ a.id = w.id) →
      s.Unburned w script) :
    Keeps ids (StopHandler (store ids) s.rootID username script) s := by
  refine metadata_then (fun _ => trivial) fun created => ?_
  refine holds_else trivial fun _ => ?_
  refine holds_else trivial fun _ => ?_
  refine inspect_then (fun _ => trivial) fun active answer => ?_
  cases active with
  | none => exact keeps_stopDrained numbered created (.inl rfl)
  | some a =>
    obtain ⟨x, found, status⟩ := currentActiveWisp_eq_some numbered.active answer
    refine holds_ite.mpr ⟨fun closed => ?_, fun _ => ?_⟩
    · have processed : Keeps ids (HandleWispClosed (store ids) s.rootID a.id script) s := by
        refine keeps_HandleWispClosed ?_ fun w name due => careful w due ⟨a, answer, name.symm⟩
        intro w found'
        cases Option.some.inj (found.symm.trans found')
        exact status.symm.trans closed
      refine Holds.bind (holds_onError.mpr
        ((numbered.ends processed).mono (fun _ _ h => h) (fun _ _ h => h) fun _ _ _ => trivial)) ?_
      rintro _ t ⟨numbered', root⟩
      rw [← root]
      refine metadata_then (fun _ => trivial) fun created' => ?_
      refine holds_else trivial fun _ => ?_
      exact keeps_stopDrained numbered' created' numbered'.active
    · exact keeps_stopDrained numbered created (.inr (id_ne_rootID found))

theorem Tidied.closedCount (tidied : Tidied t u) : u.closedCount = t.closedCount := by
  obtain ⟨_, _, wisps, _⟩ := tidied.fields
  unfold LoopStore.closedCount
  rw [wisps]

theorem Resuming.orderly (resuming : Resuming ids t (t.closedCount + 1) u op) : Orderly u op := by
  cases resuming with
  | tidy => exact .note _ _ rfl
  | pour args tidied free =>
    rw [← tidied.fields.1]
    exact .pour _ _ args (.inl (by rw [tidied.closedCount]))
  | activate adopted => exact .activate _
  | @name u x adopted =>
    have other : x.id ≠ u.rootID := id_ne_rootID (find_of_wispAt adopted.beside.found)
    exact .name _ _ (.inr other)
  | forget adopted => exact .note _ _ rfl

theorem Numbered.last_le (numbered : t.Numbered) (newest : t.NewestClosed w) :
    t.lastIteration ≤ w.iteration := by
  unfold LoopStore.lastIteration
  cases at_last : t.wisps.find t.metadata.lastProcessedWisp with
  | none => exact Nat.zero_le _
  | some z => exact newest.newest z (KeyedList.mem_of_find at_last) (numbered.processed z at_last)

theorem Completing.orderly (numbered : t.Numbered) (completing : Completing t u op) :
    Orderly u op := by
  cases completing with
  | actor | state => exact .note _ _ rfl
  | close ending => exact .close _ _
  | @mark u w ending ended newest =>
    have last : u.lastIteration = t.lastIteration :=
      lastIteration_of_find (by rw [ending.wisps, ending.lastProcessedWisp])
    refine .mark _ _ w ?_ newest.closed ?_
    · rw [ending.wisps]
      exact newest.found
    · rw [last]
      exact numbered.last_le newest

theorem keeps_completeTerminalTransition (numbered : t.Numbered) (created : t.created = true)
    (running : t.metadata.state ≠ .terminated) :
    Keeps ids (completeTerminalTransition (store ids) t.rootID t.metadata) t :=
  (holds_completeTerminalTransition created running).mono
    (fun _ _ completing => completing.orderly numbered) (fun _ _ _ => trivial) (fun _ _ h => h)

theorem keeps_replayWispClosed (found : s.wisps.find id = some x) (closed : x.status = .closed)
    (unburned : s.Unprocessed x → s.Unburned x script) (running : s.metadata.state ≠ .terminated)
    (root : t.rootID = s.rootID) (wisps : t.wisps = s.wisps)
    (created : t.created = s.created)
    (last : t.metadata.lastProcessedWisp = s.metadata.lastProcessedWisp)
    (plan : ∀ w, t.planFor w script = s.planFor w script) :
    Keeps ids (replayWispClosed (store ids) s.rootID id script) t := by
  rw [← root]
  refine Holds.bind (holds_onError.mpr
    (keeps_HandleWispClosed ?_ ?_)) fun _ _ _ => trivial
  · intro w found'
    rw [wisps] at found'
    cases Option.some.inj (found.symm.trans found')
    exact closed
  · intro w name due burns y at_next
    have same : w = x := by
      have there := due.found
      rw [wisps, name, found] at there
      exact (Option.some.inj there).symm
    subst same
    rw [plan] at burns
    rw [wispAt_of_wisps wisps] at at_next
    have later := due.later
    have same_last : t.lastIteration = s.lastIteration :=
      lastIteration_of_find (by rw [wisps, last])
    refine unburned ⟨created.symm.trans due.created, running, ?_, closed, by omega⟩ burns y at_next
    rw [name]
    exact found

section Reconciler

theorem keeps_reconcileMissingState (created : s.created = true)
    (missing : s.metadata.state = .missing)
    (careful : ∀ w, s.Unprocessed w → w.iteration = 1 → s.Unburned w script) :
    Keeps ids (reconcileMissingState (store ids) s.rootID s.metadata script) s := by
  have running : s.metadata.state ≠ .terminated := by simp [missing]
  refine answer_then (FindByIdempotencyKey_root s 1) ?_
  cases at_one : s.wispAt 1 with
  | some x =>
    have found := find_of_wispAt at_one
    have other : x.id ≠ s.rootID := id_ne_rootID found
    refine answer_then (GetBead_of_find found) ?_
    refine set_then rfl created (.name _ _ (.inr other)) ?_
    refine set_then rfl created (.note _ _ rfl) ?_
    refine set_then rfl created (.note _ _ rfl) ?_
    refine holds_bind.mpr (holds_onlyIf.mpr ⟨fun closed => ?_, fun _ => trivial⟩)
    exact keeps_replayWispClosed found closed
      (fun due => careful x due (wispAt_eq_some_iff.mp at_one).2) running rfl rfl rfl rfl
      fun _ => rfl
  | none =>
    refine holds_bind.mpr (holds_mustGet (exec_pourWisp rfl created) (.pour _ _ _ (.inr (.inr rfl))) ?_)
    have poured := pour_spec ids s 1 true
    obtain ⟨x, found, _⟩ := poured.find
    have other := id_ne_rootID found
    rw [poured.rootID] at other
    refine keeps_only poured.rootID ?_
    refine (harmless_name other).bind fun _ => only_then trivial ?_
    exact only_then trivial (only_ret _)

theorem keeps_reconcileActiveWisp {a : ActiveWisp} (created : s.created = true)
    (active : s.metadata.state = .active) (found : s.wisps.find a.id = some x)
    (status : a.status = x.status) (unburned : s.Unprocessed x → s.Unburned x script) :
    Keeps ids (reconcileActiveWisp (store ids) s.rootID s.metadata a script) s := by
  have running : s.metadata.state ≠ .terminated := by simp [active]
  have other : a.id ≠ s.rootID := id_ne_rootID found
  refine Holds.bind (Q := fun _ t => t = s ∨ t = s.note (.activeWisp a.id)) ?_ ?_
  · exact holds_onlyIf.mpr ⟨fun _ => holds_set rfl created (.name _ _ (.inr other)) (.inr rfl),
      fun _ => .inl rfl⟩
  · intro _ t moved
    split
    next => exact trivial
    next => exact trivial
    next closed =>
      rw [status] at closed
      refine holds_else trivial fun _ => ?_
      refine Holds.bind (Q := fun _ _ => True) ?_ fun _ _ _ => trivial
      rcases moved with rfl | rfl <;>
        exact keeps_replayWispClosed found closed unburned running rfl rfl rfl rfl fun _ => rfl
    next => exact trivial

theorem keeps_reconcileWaitingManual (numbered : s.Numbered) (created : s.created = true)
    (running : s.metadata.state ≠ .terminated) :
    Keeps ids (reconcileWaitingManual (store ids) s.rootID s.metadata) s := by
  refine holds_ite.mpr
    ⟨fun _ => keeps_completeTerminalTransition numbered created running, fun _ => ?_⟩
  refine answer_then (Children_root s) ?_
  rcases highestClosed_cases s with best | ⟨w, newest, best⟩
  · rw [best]
    exact trivial
  · rw [best]
    refine holds_ite.mpr ⟨fun _ => ?_, fun _ => ?_⟩
    · refine holds_else trivial fun _ => ?_
      refine set_then rfl created ?_ trivial
      exact .mark _ _ w newest.found newest.closed (numbered.last_le newest)
    · exact set_then rfl created (.note _ _ rfl) trivial

theorem keeps_reconcileBead (numbered : s.Numbered)
    (careful : ∀ w, s.Unprocessed w → s.Handles ids w (.reconcile script) → s.Unburned w script) :
    Keeps ids (reconcileBead (store ids) s.rootID script) s := by
  refine holds_onError.mpr (Holds.bind (Q := fun _ _ => True) ?_ fun _ _ _ => trivial)
  refine metadata_then (fun _ => trivial) fun created => ?_
  cases state : s.metadata.state with
  | missing =>
    exact keeps_reconcileMissingState created state fun w due first =>
      careful w due (.inr ⟨state, first⟩)
  | creating =>
    refine keeps_only rfl ?_
    refine only_then trivial (only_then trivial ?_)
    exact only_then trivial (only_then trivial (only_ret _))
  | terminated =>
    refine keeps_only rfl (only_query.bind fun info => ?_)
    refine Only.ite (fun _ => only_ret _) fun _ => ?_
    refine (only_onlyIf fun _ => only_must trivial).bind fun _ => ?_
    exact only_then trivial (only_ret _)
  | waitingManual => exact keeps_reconcileWaitingManual numbered created (by simp [state])
  | waitingTrigger =>
    refine holds_ite.mpr ⟨fun _ => ?_, fun _ => trivial⟩
    exact keeps_completeTerminalTransition numbered created (by simp [state])
  | active =>
    refine holds_ite.mpr ⟨fun _ => ?_, fun _ => ?_⟩
    · exact keeps_completeTerminalTransition numbered created (by simp [state])
    · refine inspect_then (fun _ => trivial) fun active answer => ?_
      cases active with
      | some a =>
        obtain ⟨x, found, status⟩ := currentActiveWisp_eq_some numbered.active answer
        have name := KeyedList.key_of_find found
        exact keeps_reconcileActiveWisp created state found status fun due =>
          careful x due (.inl ⟨a, answer, name.symm⟩)
      | none =>
        exact (holds_resumeChain created).mono (fun _ _ resuming => resuming.orderly)
          (fun _ _ _ => trivial) (fun _ _ h => h)
  | unknown text => exact trivial

end Reconciler

end LoopStore

end GasCity
