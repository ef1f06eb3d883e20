import GasCity.LoopHandler

namespace GasCity

/-- The wisp a loop is working on. `recovered` says that it stands in for one that is gone. -/
structure ActiveWisp where
  id : String
  status : BeadStatus
  recovered : Bool := false

section Operator

variable {σ : Type} (S : ConvergenceStore σ)

def ApproveHandler (beadID username : String) : Call σ HandlerResult := do
  let md ← query ("reading bead " ++ quoted beadID ++ " metadata") (S.GetMetadata · beadID)
  if md.state = .terminated ∧ md.terminalReason = some .approved then
    return { action := .approved }
  else if md.state ≠ .waitingManual then
    .fail (.text ("cannot approve bead " ++ quoted beadID ++ ": state is " ++ quoted md.state.text ++
      ", expected \"waiting_manual\""))
  else do
    let iterationCount ← query ("deriving iteration count for bead " ++ quoted beadID)
      (deriveIterationCount S beadID)
    commit beadID
      [(.terminalReason .approved, "setting terminal reason"),
        (.terminalActor ("operator:" ++ username), "setting terminal actor"),
        (.waitingReason none, "clearing waiting reason"),
        (.state .terminated, "setting state to terminated")]
      (must ("closing bead " ++ quoted beadID) (.closeBead beadID .manualApprove))
      .lastProcessedWisp md.lastProcessedWisp "setting last processed wisp"
    return { action := .approved, iteration := iterationCount }

/-- The wisp is poured before the state changes, so that a failed pour leaves the loop waiting. -/
def IterateHandler (beadID : String) : Call σ HandlerResult := do
  let md ← query ("reading bead " ++ quoted beadID ++ " metadata") (S.GetMetadata · beadID)
  if md.state ≠ .waitingManual then
    .fail (.text ("cannot iterate bead " ++ quoted beadID ++ ": state is " ++ quoted md.state.text ++
      ", expected \"waiting_manual\""))
  else do
    let iterationCount ← query ("deriving iteration count for bead " ++ quoted beadID)
      (deriveIterationCount S beadID)
    if md.maxIterations.getD 0 ≤ (iterationCount : Int) then
      .fail (.text ("cannot iterate bead " ++ quoted beadID ++ ": at max iterations (" ++
        toString iterationCount ++ "/" ++ toString (md.maxIterations.getD 0) ++ ")"))
    else do
      let nextKey := IdempotencyKey beadID (iterationCount + 1)
      let poured ← pourOrFind S (.pourWisp beadID nextKey (pourArgs md)) nextKey
      let nextWispID ← orFail ("pouring next wisp for bead " ++ quoted beadID) poured
      onlyIf (md.lastProcessedWisp ≠ "") (clearScopedVerdict beadID md.lastProcessedWisp md)
      must "clearing waiting reason" (.setMetadata beadID (.waitingReason none))
      must "setting state to active" (.setMetadata beadID (.state .active))
      must "setting active wisp" (.setMetadata beadID (.activeWisp nextWispID))
      return { action := .iterate, iteration := iterationCount + 1, nextWispID }

def iterationAfter (lastProcessedWisp : String) (s : σ) : Except HandlerError (Option Nat) :=
  if lastProcessedWisp = "" then .ok none
  else
    match S.GetBead s lastProcessedWisp with
    | .ok info => .ok ((ParseIterationFromKey info.idempotencyKey).map (· + 1))
    | .error (.notFound _) => .ok none
    | .error e =>
      .error (.wrapped ("reading last processed wisp " ++ quoted lastProcessedWisp) (.store e))

def recoverCurrentActiveWisp (beadID lastProcessedWisp : String) (s : σ) :
    Except HandlerError (Option BeadInfo) := do
  let children ← (S.Children s beadID).mapError
    fun e => .wrapped "listing children for stale active wisp recovery" (.store e)
  match ← iterationAfter S lastProcessedWisp s with
  | some nextIter =>
    let candidate ← (S.FindByIdempotencyKey s (IdempotencyKey beadID nextIter)).mapError
      fun e => .wrapped "looking up replacement active wisp" (.store e)
    match candidate.map (S.GetBead s) with
    | none => return none
    | some (.ok info) => return some info
    | some (.error (.notFound _)) => return none
    | some (.error e) => .error (.wrapped "reading replacement active wisp" (.store e))
  | none =>
    let stats := childStats children beadID
    return stats.highestOpen.or stats.highestClosed

def currentActiveWisp (purpose beadID activeWisp lastProcessedWisp : String) (s : σ) :
    Except HandlerError (Option ActiveWisp) :=
  if activeWisp = "" then .ok none
  else
    match S.GetBead s activeWisp with
    | .ok info => .ok (some { id := activeWisp, status := info.status })
    | .error (.notFound _) => (recoverCurrentActiveWisp S beadID lastProcessedWisp s).map
        (Option.map fun info => { id := info.id, status := info.status, recovered := true })
    | .error e =>
      .error (.wrapped ("reading active wisp " ++ quoted activeWisp ++ purpose) (.store e))

def inspect {α : Type} (q : σ → Except HandlerError α) : Call σ α :=
  .read fun s =>
    match q s with
    | .ok a => .ret a
    | .error e => .fail e

def forceClose (active : Option ActiveWisp) : Call σ (Option String) :=
  match active with
  | none => .ret none
  | some w =>
    if w.status = .closed then .ret none
    else do
      must ("force-closing active wisp " ++ quoted w.id) (.closeBead w.id .manualSupersede)
      return some w.id

def stopDrained (beadID username activeWisp lastProcessedWisp : String) : Call σ HandlerResult := do
  let active ← inspect
    (currentActiveWisp S " for force-close" beadID activeWisp lastProcessedWisp)
  let forced ← forceClose active
  let iterationCount ← query ("deriving iteration count for bead " ++ quoted beadID)
    (deriveIterationCount S beadID)
  must "clearing stale agent verdict" (.setMetadata beadID (.agentVerdict ""))
  must "clearing stale agent verdict wisp" (.setMetadata beadID (.agentVerdictWisp ""))
  commit beadID
    [(.terminalReason .stopped, "setting terminal reason"),
      (.terminalActor ("operator:" ++ username), "setting terminal actor"),
      (.waitingReason none, "clearing waiting reason"),
      (.state .terminated, "setting state to terminated")]
    (must ("closing bead " ++ quoted beadID) (.closeBead beadID .manualStop))
    .lastProcessedWisp (forced.getD lastProcessedWisp) "setting last processed wisp"
  return { action := .stopped, iteration := iterationCount }

def drainThenStop (beadID username wispID : String) (script : GateResult) :
    Call σ HandlerResult := do
  let _ ← (HandleWispClosed S beadID wispID script).onError
    fun e => .fail (.wrapped ("draining completed wisp " ++ quoted wispID) e)
  let md ← query "re-reading metadata after drain" (S.GetMetadata · beadID)
  if md.state = .terminated then return { action := .stopped }
  else stopDrained S beadID username md.activeWisp md.lastProcessedWisp

def StopHandler (beadID username : String) (script : GateResult) : Call σ HandlerResult := do
  let md ← query ("reading bead " ++ quoted beadID ++ " metadata") (S.GetMetadata · beadID)
  if md.state = .terminated ∧ md.terminalReason = some .stopped then
    return { action := .stopped }
  else if md.state ≠ .active ∧ md.state ≠ .waitingManual ∧ md.state ≠ .waitingTrigger then
    .fail (.text ("cannot stop bead " ++ quoted beadID ++ ": state is " ++ quoted md.state.text ++
      ", expected \"active\", \"waiting_manual\", or \"waiting_trigger\""))
  else do
    let active ← inspect
      (currentActiveWisp S "" beadID md.activeWisp md.lastProcessedWisp)
    match active with
    | none => stopDrained S beadID username "" md.lastProcessedWisp
    | some w =>
      if w.status = .closed then drainThenStop S beadID username w.id script
      else stopDrained S beadID username w.id md.lastProcessedWisp

def advanceFromTrigger (rootBeadID : String) (md : LoopMeta) (nextIteration : Nat) :
    Call σ HandlerResult := do
  let nextKey := IdempotencyKey rootBeadID nextIteration
  let poured ← pourOrFind S (.pourWisp rootBeadID nextKey (pourArgs md)) nextKey
  let nextWispID ← orFail ("pouring wisp for iteration " ++ toString nextIteration) poured
  must ("activating wisp " ++ quoted nextWispID) (.activateWisp nextWispID)
  must "setting iteration" (.setMetadata rootBeadID (.iteration nextIteration))
  must "setting active wisp" (.setMetadata rootBeadID (.activeWisp nextWispID))
  must "setting state to active" (.setMetadata rootBeadID (.state .active))
  return { action := .iterate, iteration := nextIteration, nextWispID }

def overLimit (maxIterations : Option Int) (nextIteration : Nat) : Prop :=
  ∃ m ∈ maxIterations, 0 < m ∧ m < (nextIteration : Int)

instance (maxIterations : Option Int) (nextIteration : Nat) :
    Decidable (overLimit maxIterations nextIteration) := by
  unfold overLimit
  infer_instance

/-- `script` is what the condition script of the trigger comes to. -/
def HandleTrigger (rootBeadID : String) (script : GateResult) : Call σ HandlerResult := do
  let md ← query "reading root bead metadata" (S.GetMetadata · rootBeadID)
  if md.state ≠ .waitingTrigger then return { action := .skipped }
  else do
    let tc ← orThrow "parsing trigger config" (ParseTriggerConfig md)
    if tc.Enabled = false then
      .fail (.text ("bead " ++ quoted rootBeadID ++
        " is in waiting_trigger but has no trigger configured"))
    else do
      let _ ← orThrow "parsing gate config" (ParseGateConfig md)
      let closedIterations ← query "deriving iteration count" (deriveIterationCount S rootBeadID)
      if overLimit md.maxIterations (closedIterations + 1) then
        .fail (.text ("trigger-gated loop " ++ quoted rootBeadID ++ " at iteration " ++
          toString (closedIterations + 1) ++ " exceeds max_iterations " ++
          toString (md.maxIterations.getD 0) ++ "; refusing to advance"))
      else if script.outcome ≠ some .pass then return { action := .skipped }
      else advanceFromTrigger S rootBeadID md (closedIterations + 1)

end Operator

end GasCity
