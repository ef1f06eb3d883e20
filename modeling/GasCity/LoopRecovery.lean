import GasCity.LoopManual

namespace GasCity

inductive ReconcileAction where
  | noAction
  | completedTerminal
  | adoptedWisp
  | pouredWisp
  | repairedState

section Reconciler

variable {σ : Type} (S : ConvergenceStore σ)

def replayWispClosed (beadID wispID : String) (script : GateResult) : Call σ Unit := do
  let _ ← (HandleWispClosed S beadID wispID script).onError
    fun e => .fail (.wrapped ("replaying wisp_closed for " ++ quoted wispID) e)
  return ()

def adoptFirstWisp (beadID existingID : String) (script : GateResult) :
    Call σ ReconcileAction := do
  let wispInfo ← query ("reading wisp " ++ quoted existingID ++ " info") (S.GetBead · existingID)
  must "setting active_wisp" (.setMetadata beadID (.activeWisp existingID))
  must "setting iteration"
    (.setMetadata beadID (.iteration (if wispInfo.status = .closed then 1 else 0)))
  must "setting state" (.setMetadata beadID (.state .active))
  onlyIf (wispInfo.status = .closed) (replayWispClosed S beadID existingID script)
  return .adoptedWisp

variable (beadID : String) (md : LoopMeta) (script : GateResult)

def reconcileMissingState :
    Call σ ReconcileAction := do
  let existing ← query "looking up iter-1 wisp"
    (S.FindByIdempotencyKey · (IdempotencyKey beadID 1))
  match existing with
  | some existingID => adoptFirstWisp S beadID existingID script
  | none => do
    let wispID ← mustGet "pouring first wisp"
      (.pourWisp beadID (IdempotencyKey beadID 1) (pourArgs md))
    must "setting active_wisp" (.setMetadata beadID (.activeWisp wispID))
    must "setting iteration" (.setMetadata beadID (.iteration 0))
    must "setting state" (.setMetadata beadID (.state .active))
    return .pouredWisp

def reconcileCreating : Call σ ReconcileAction := do
  must "setting terminal_reason" (.setMetadata beadID (.terminalReason .partialCreation))
  must "setting terminal_actor" (.setMetadata beadID (.terminalActor "recovery"))
  must "setting state to terminated" (.setMetadata beadID (.state .terminated))
  must "closing bead" (.closeBead beadID .reconcileDone)
  return .completedTerminal

def backfillTerminalActor : Call σ Unit :=
  onlyIf (md.terminalActor = "")
    (must "backfilling terminal_actor" (.setMetadata beadID (.terminalActor "recovery")))

def reconcileTerminatedNotClosed : Call σ ReconcileAction := do
  let beadInfo ← query "reading bead info" (S.GetBead · beadID)
  if beadInfo.status = .closed then return .noAction
  else do
    backfillTerminalActor beadID md
    must "closing bead" (.closeBead beadID .reconcileDone)
    return .completedTerminal

def childStatsOf (s : σ) : ChildStats :=
  match S.Children s beadID with
  | .ok children => childStats children beadID
  | .error _ => {}

def completeTerminalTransition : Call σ ReconcileAction := do
  backfillTerminalActor beadID md
  let stats ← look (childStatsOf S beadID)
  onlyIf (md.state ≠ .terminated)
    (must "setting state to terminated" (.setMetadata beadID (.state .terminated)))
  must "closing bead" (.closeBead beadID .reconcileDone)
  match stats.highestClosed with
  | some wisp => do
    attempt (.setMetadata beadID (.lastProcessedWisp wisp.id))
    return .completedTerminal
  | none => return .completedTerminal

def reconcileWaitingManual : Call σ ReconcileAction :=
  if md.terminalReason.isSome then completeTerminalTransition S beadID md
  else do
    let children ← query "listing children" (S.Children · beadID)
    match (childStats children beadID).highestClosed with
    | none => return .noAction
    | some wisp =>
      if md.waitingReason.isSome then
        if md.lastProcessedWisp = wisp.id then return .noAction
        else do
          must "repairing last_processed_wisp" (.setMetadata beadID (.lastProcessedWisp wisp.id))
          return .repairedState
      else do
        must "setting default waiting_reason" (.setMetadata beadID (.waitingReason (some .manual)))
        return .repairedState

def reconcileWaitingTrigger : Call σ ReconcileAction :=
  if md.terminalReason.isSome then completeTerminalTransition S beadID md
  else return .noAction

def nextWisp (nextKey : WispKey) (md : LoopMeta) :
    Call σ (String × ReconcileAction) := do
  let pendingID ← validPendingNextWisp S beadID nextKey md.pendingNextWisp
  if pendingID ≠ "" then return (pendingID, .adoptedWisp)
  else do
    let existing ← query "looking up next wisp" (S.FindByIdempotencyKey · nextKey)
    match existing with
    | some existingID => return (existingID, .adoptedWisp)
    | none => do
      let wispID ← mustGet "pouring wisp" (.pourWisp beadID nextKey (pourArgs md))
      return (wispID, .pouredWisp)

def resumeChain : Call σ ReconcileAction := do
  let children ← query "listing children" (S.Children · beadID)
  let (wispID, action) ← nextWisp S beadID
    (IdempotencyKey beadID ((childStats children beadID).closedCount + 1)) md
  must ("activating wisp " ++ quoted wispID) (.activateWisp wispID)
  must "setting active_wisp" (.setMetadata beadID (.activeWisp wispID))
  attempt (.setMetadata beadID (.pendingNextWisp ""))
  return action

def reconcileActiveWisp (w : ActiveWisp) (script : GateResult) :
    Call σ ReconcileAction := do
  onlyIf w.recovered
    (must ("setting recovered active wisp " ++ quoted w.id) (.setMetadata beadID (.activeWisp w.id)))
  match w.status with
  | .isOpen | .inProgress => return if w.recovered then .repairedState else .noAction
  | .closed =>
    if md.lastProcessedWisp = w.id then return .noAction
    else do
      replayWispClosed S beadID w.id script
      return .repairedState
  | .other text =>
    .fail (.text ("active wisp " ++ quoted w.id ++ " has unexpected status " ++ quoted text))

def reconcileActive :
    Call σ ReconcileAction :=
  if md.terminalReason.isSome then completeTerminalTransition S beadID md
  else do
    let active ← inspect
      (currentActiveWisp S "" beadID md.activeWisp md.lastProcessedWisp)
    match active with
    | some w => reconcileActiveWisp S beadID md w script
    | none => resumeChain S beadID md

def reconcileState : Call σ ReconcileAction := do
  let md ← query "reading metadata" (S.GetMetadata · beadID)
  match md.state with
  | .missing => reconcileMissingState S beadID md script
  | .creating => reconcileCreating beadID
  | .terminated => reconcileTerminatedNotClosed S beadID md
  | .waitingManual => reconcileWaitingManual S beadID md
  | .waitingTrigger => reconcileWaitingTrigger S beadID md
  | .active => reconcileActive S beadID md script
  | .unknown text => .fail (.text ("unknown convergence state " ++ quoted text))

/-- What became of a bead. The action that the source names beside an error is left out. -/
structure ReconcileDetail where
  beadID : String
  result : Except HandlerError ReconcileAction

def reconcileBead : Call σ ReconcileDetail :=
  Program.onError
    (do
      let action ← reconcileState S beadID script
      return ⟨beadID, .ok action⟩)
    fun e => .ret ⟨beadID, .error e⟩

end Reconciler

end GasCity
