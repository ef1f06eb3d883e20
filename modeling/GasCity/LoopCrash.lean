import GasCity.LoopLanding
import GasCity.LoopResume

namespace GasCity.LoopStore

open Program

variable {s t u : LoopStore} {w x : Wisp} {script : GateResult} {ids : IDSupply}
  {R : LoopStore → Prop}

def recover (ids : IDSupply) (script : GateResult) (s : LoopStore) : LoopStore :=
  ((reconcileBead (store ids) s.rootID script).run (exec ids) s).2

abbrev Anytime : LoopStore → StoreOp → Prop := fun _ _ => True

theorem recover_of (holds : (reconcileState (store ids) t.rootID script).Holds (exec ids) Anytime
    (fun _ u => R u) (fun _ u => R u) t) : R (recover ids script t) := by
  refine Holds.run (P := Anytime) ?_
  exact holds_onError.mpr (holds.bind fun _ _ ended => ended)

theorem recover_active (created : t.created = true) (active : t.metadata.state = .active)
    (holds : (reconcileActive (store ids) t.rootID t.metadata script).Holds (exec ids) Anytime
      (fun _ u => R u) (fun _ u => R u) t) : R (recover ids script t) := by
  refine recover_of ?_
  refine answer_then (GetMetadata_root created) ?_
  rw [active]
  exact holds

variable {P : LoopStore → StoreOp → Prop}

theorem holds_inspect {α : Type} {Q : α → LoopStore → Prop} {E : HandlerError → LoopStore → Prop}
    {q : LoopStore → Except HandlerError α} {a : α} (answer : q t = .ok a) (rest : Q a t) :
    (inspect q : Call LoopStore α).Holds (exec ids) P Q E t := by
  unfold inspect
  rw [holds_read, answer]
  exact rest

theorem currentActiveWisp_of_find {purpose id last : String} (found : t.wisps.find id = some x) :
    currentActiveWisp (store ids) purpose t.rootID id last t =
      .ok (some { id := id, status := x.status }) := by
  unfold currentActiveWisp
  rw [if_neg (id_ne_empty found), GetBead_store, GetBead_of_find found]
  rfl

theorem holds_replayWispClosed (due : t.Unprocessed w) (here : ∀ u op, Stage t w script u op → P u op) :
    (replayWispClosed (store ids) t.rootID w.id script).Holds (exec ids) P
      (fun _ u => ∃ a, Final t w script a u) (fun _ u => Failed t w script u) t := by
  refine Holds.bind (holds_onError.mpr
    ((holds_HandleWispClosed due).mono here (fun _ _ h => h) (fun _ _ h => h))) ?_
  intro res u final
  exact ⟨res.action, final⟩

theorem recover_due (due : t.Due w) (open_ : t.metadata.terminalReason = none) :
    Lands t w script (recover ids script t) := by
  refine recover_active due.created due.active ?_
  have unmarked : t.metadata.lastProcessedWisp ≠ w.id := by
    intro same
    apply due.ref_last
    rw [same]
    exact ref_of_find due.found
  unfold reconcileActive
  rw [if_neg (by simp [open_]), due.named]
  refine holds_bind.mpr (holds_inspect (currentActiveWisp_of_find due.found) ?_)
  rw [due.closed]
  refine holds_bind.mpr (holds_onlyIf.mpr ⟨fun h => absurd h (by simp), fun _ => ?_⟩)
  rw [if_neg unmarked]
  refine Holds.bind ((holds_replayWispClosed due.toUnprocessed (fun _ _ _ => trivial)).mono
    (fun _ _ h => h) (fun _ _ h => h) (fun _ u failed => Failed.lands due failed)) ?_
  rintro _ u ⟨a, final⟩
  exact final.lands due

variable (ids script) (created : t.created = true)

include created

theorem recover_unnamed (active : t.metadata.state = .active)
    (open_ : t.metadata.terminalReason = none) (unnamed : t.metadata.activeWisp = "") :
    (recover ids script t).metadata.state = .active := by
  refine recover_active (R := fun u => u.metadata.state = .active) created active ?_
  unfold reconcileActive
  rw [if_neg (by simp [open_]), unnamed]
  refine holds_bind.mpr (holds_inspect (a := none) rfl ?_)
  refine (holds_resumeChain created).mono (fun _ _ _ => trivial) ?_ (fun _ _ h => h)
  rintro _ v ⟨u, x, adopted, rfl⟩
  exact adopted.beside.undecided.state.trans active

theorem recover_running (active : t.metadata.state = .active)
    (open_ : t.metadata.terminalReason = none)
    (found : t.wisps.find t.metadata.activeWisp = some x) (running : x.status ≠ .closed) :
    recover ids script t = t := by
  refine recover_active (R := fun u => u = t) created active ?_
  unfold reconcileActive
  rw [if_neg (by simp [open_])]
  refine holds_bind.mpr (holds_inspect (currentActiveWisp_of_find found) ?_)
  refine holds_bind.mpr (holds_onlyIf.mpr ⟨fun h => absurd h (by simp), fun _ => ?_⟩)
  cases status : x.status with
  | isOpen | inProgress | other => rfl
  | closed => exact absurd status running

theorem recover_waitingTrigger (waiting : t.metadata.state = .waitingTrigger)
    (open_ : t.metadata.terminalReason = none) :
    recover ids script t = t := by
  refine recover_of (R := fun u => u = t) ?_
  refine answer_then (GetMetadata_root created) ?_
  rw [waiting]
  unfold reconcileWaitingTrigger
  rw [if_neg (by simp [open_])]
  rfl

theorem recover_waitingManual {reason : WaitReason} (waiting : t.metadata.state = .waitingManual)
    (open_ : t.metadata.terminalReason = none)
    (explained : t.metadata.waitingReason = some reason) (newest : t.NewestClosed w) :
    recover ids script t =
      if t.metadata.lastProcessedWisp = w.id then t else t.note (.lastProcessedWisp w.id) := by
  refine recover_of (R := fun u => u = _) ?_
  refine answer_then (GetMetadata_root created) ?_
  rw [waiting]
  unfold reconcileWaitingManual
  rw [if_neg (show ¬ t.metadata.terminalReason.isSome = true by simp [open_])]
  refine answer_then (Children_root t) ?_
  rw [newest.highestClosed, explained]
  show (if t.metadata.lastProcessedWisp = w.id then (_ : Call LoopStore ReconcileAction)
    else _).Holds _ _ _ _ t
  split
  next => rfl
  next => exact set_then rfl created trivial rfl

theorem recover_ending {reason : TerminalReason} (waits : t.metadata.state = .active ∨
      t.metadata.state = .waitingManual ∨ t.metadata.state = .waitingTrigger)
    (ending : t.metadata.terminalReason = some reason) : Completed t (recover ids script t) := by
  have running : t.metadata.state ≠ .terminated := by
    rcases waits with is | is | is <;> simp [is]
  have holds : (completeTerminalTransition (store ids) t.rootID t.metadata).Holds (exec ids) Anytime
      (fun _ u => Completed t u) (fun _ u => Completed t u) t :=
    (holds_completeTerminalTransition created running).mono (fun _ _ _ => trivial) (fun _ _ h => h)
      (fun _ _ h => h)
  have ends : t.metadata.terminalReason.isSome = true := by simp [ending]
  refine recover_of (answer_then (GetMetadata_root created) ?_)
  rcases waits with is | is | is <;> rw [is]
  · rwa [reconcileActive, if_pos ends]
  · rwa [reconcileWaitingManual, if_pos ends]
  · rwa [reconcileWaitingTrigger, if_pos ends]

theorem recover_terminated (ended : t.metadata.state = .terminated) :
    Ending t (recover ids script t) ∧ (recover ids script t).metadata.state = .terminated := by
  refine recover_of (R := fun u => Ending t u ∧ u.metadata.state = .terminated) ?_
  refine answer_then (GetMetadata_root created) ?_
  rw [ended]
  refine answer_then (GetBead_root created) ?_
  refine holds_ite.mpr ⟨fun _ => ⟨Ending.refl t, ended⟩, fun _ => ?_⟩
  refine (holds_backfillTerminalActor created trivial).bind ?_
  rintro _ u ⟨ending, _, state⟩
  refine holds_bind.mpr (holds_must (exec_closeRoot ending.rootID (ending.created.trans created))
    trivial ?_)
  exact ⟨ending.closed, state.trans ended⟩

end GasCity.LoopStore
