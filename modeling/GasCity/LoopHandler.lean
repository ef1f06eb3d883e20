import GasCity.LoopStore

namespace GasCity

inductive HandlerAction where
  | iterate
  | approved
  | noConvergence
  | waitingManual
  | waitingTrigger
  | stopped
  | skipped
  deriving DecidableEq

structure HandlerResult where
  action : HandlerAction
  iteration : Nat := 0
  gateOutcome : Option GateOutcome := none
  nextWispID : String := ""
  waitingReason : Option WaitReason := none

def persistedResult (md : LoopMeta) : GateResult where
  outcome := md.gateOutcome
  exitCode := md.gateExitCode
  retryCount := md.gateRetryCount.getD 0
  stdout := md.gateStdout
  stderr := md.gateStderr
  durationMs := md.gateDurationMs.getD 0
  truncated := md.gateTruncated

def GateManualResult : GateResult := { outcome := some .pass }

/-- `script` is what the condition script of the gate comes to. -/
def evaluateGate (cfg : GateConfig) (script : GateResult) : GateResult :=
  match cfg.mode with
  | .condition => script
  | .hybrid => if HybridNeedsManual cfg then GateManualResult else script
  | .manual => { outcome := some .error, stderr := "unexpected gate mode: manual" }

def pourArgs (md : LoopMeta) : PourArgs where
  formula := md.formula
  vars := md.vars
  evaluatePrompt := md.evaluatePrompt

section Handler

variable {σ : Type} (S : ConvergenceStore σ)

def applyWrites (rootID : String) : List (MetaWrite × String) → Call σ Unit
  | [] => .ret ()
  | (w, doing) :: rest => do
    must doing (.setMetadata rootID w)
    applyWrites rootID rest

/-- The writes in order, then what comes before the marker, and the marker last unless it is
empty. -/
def commit (rootID : String) (writes : List (MetaWrite × String)) (preMarker : Call σ Unit)
    (marker : String → MetaWrite) (value doing : String) : Call σ Unit := do
  applyWrites rootID writes
  preMarker
  onlyIf (value ≠ "") (must doing (.setMetadata rootID (marker value)))

variable (rootBeadID wispID : String)

def persistGateOutcome (result : GateResult) : Call σ Unit :=
  commit rootBeadID
    [(.gateOutcome result.outcome, "setting gate outcome"),
      (.gateExitCode result.exitCode, "setting gate exit code"),
      (.gateRetryCount result.retryCount, "setting gate retry count"),
      (.gateStdout result.stdout, "setting gate stdout"),
      (.gateStderr result.stderr, "setting gate stderr"),
      (.gateDurationMs result.durationMs, "setting gate duration"),
      (.gateTruncated result.truncated, "setting gate truncated")]
    (.ret ()) .gateOutcomeWisp wispID "setting gate outcome wisp"

def deriveIterationCount (rootBeadID : String) (s : σ) : Except StoreError Nat :=
  (S.Children s rootBeadID).map fun children => (childStats children rootBeadID).closedCount

def deleteBeadSubtree : Nat → String → Call σ Unit
  | 0, id => .fail (.text ("deleting bead " ++ quoted id ++ ": nested too deep"))
  | depth + 1, id => do
    let children ← query ("listing children for delete " ++ quoted id) (S.Children · id)
    children.forM fun child => deleteBeadSubtree depth child.id
    must ("deleting bead " ++ quoted id) (.deleteBead id)

def burnSpeculativeWisp (rootBeadID speculativeWispID : String) : Call σ Unit :=
  if speculativeWispID = "" then .ret ()
  else do
    let depth ← look S.depth
    deleteBeadSubtree S depth speculativeWispID
    attempt (.setMetadata rootBeadID (.pendingNextWisp ""))

def burnBefore (doing : String) (rootBeadID speculativeWispID : String) : Call σ Unit :=
  (burnSpeculativeWisp S rootBeadID speculativeWispID).onError fun e => .fail (.wrapped doing e)

def burnAfter {α : Type} (error : HandlerError) (rootBeadID speculativeWispID : String) :
    Call σ α := do
  (burnSpeculativeWisp S rootBeadID speculativeWispID).onError fun e => .fail (.also error e)
  .fail error

def pendingIsValid (s : σ) (rootBeadID : String) (nextKey : WispKey) (pendingID : String) : Bool :=
  match S.GetBead s pendingID with
  | .ok info =>
    info.parentID == rootBeadID && info.idempotencyKey == nextKey && info.status != .closed
  | .error _ => false

def validPendingNextWisp (rootBeadID : String) (nextKey : WispKey) (pendingID : String) :
    Call σ String :=
  if pendingID = "" then .ret ""
  else do
    let valid ← look fun s => pendingIsValid S s rootBeadID nextKey pendingID
    if valid then return pendingID
    else do
      attempt (.setMetadata rootBeadID (.pendingNextWisp ""))
      return ""

/-- The iteration of the last processed wisp. When that wisp is missing, nothing counts as
processed. -/
def lastProcessedIteration (md : LoopMeta) (s : σ) : Nat :=
  if md.lastProcessedWisp = "" then 0
  else
    match S.GetBead s md.lastProcessedWisp with
    | .ok info => (ParseIterationFromKey info.idempotencyKey).getD 0
    | .error _ => 0

variable (iteration : Nat)

def transitionToWaitingManual (reason : WaitReason)
    (gateOutcome : Option GateOutcome) : Call σ HandlerResult := do
  commit rootBeadID
    [(.activeWisp "", "clearing active wisp"),
      (.waitingReason (some reason), "setting waiting reason"),
      (.state .waitingManual, "setting state to waiting_manual")]
    (.ret ()) .lastProcessedWisp wispID "setting last processed wisp"
  return { action := .waitingManual, iteration, gateOutcome, waitingReason := some reason }

variable (gateResult : GateResult)

def handleSlingFailure :
    Call σ HandlerResult :=
  transitionToWaitingManual rootBeadID wispID iteration .slingFailure gateResult.outcome

def clearScopedVerdict (md : LoopMeta) : Call σ Unit :=
  onlyIf (md.agentVerdictWisp = wispID) do
    must "clearing agent verdict" (.setMetadata rootBeadID (.agentVerdict ""))
    must "clearing agent verdict wisp" (.setMetadata rootBeadID (.agentVerdictWisp ""))

def adopt (nextWispID : String) : Call σ HandlerResult := do
  must ("activating next wisp " ++ quoted nextWispID) (.activateWisp nextWispID)
  commit rootBeadID [(.activeWisp nextWispID, "setting active wisp")]
    (.ret ()) .lastProcessedWisp wispID "setting last processed wisp"
  attempt (.setMetadata rootBeadID (.pendingNextWisp ""))
  return { action := .iterate, iteration, gateOutcome := gateResult.outcome, nextWispID }

def iterate (md : LoopMeta) (speculativeWispID : String) : Call σ HandlerResult := do
  clearScopedVerdict rootBeadID wispID md
  if speculativeWispID ≠ "" then adopt rootBeadID wispID iteration gateResult speculativeWispID
  else do
    let nextKey := IdempotencyKey rootBeadID (iteration + 1)
    let poured ← pourOrFind S (.pourWisp rootBeadID nextKey (pourArgs md)) nextKey
    match poured with
    | .ok nextWispID => adopt rootBeadID wispID iteration gateResult nextWispID
    | .error _ => handleSlingFailure rootBeadID wispID iteration gateResult

def transitionToWaitingTrigger (md : LoopMeta) : Call σ HandlerResult := do
  clearScopedVerdict rootBeadID wispID md
  commit rootBeadID
    [(.activeWisp "", "clearing active wisp"),
      (.state .waitingTrigger, "setting state to waiting_trigger")]
    (.ret ()) .lastProcessedWisp wispID "setting last processed wisp"
  return { action := .waitingTrigger, iteration, gateOutcome := gateResult.outcome }

def TerminalReason.action : TerminalReason → HandlerAction
  | .approved => .approved
  | .noConvergence => .noConvergence
  | .stopped => .stopped
  | .partialCreation => .skipped

def terminate (reason : TerminalReason) (actor : String) : Call σ HandlerResult := do
  commit rootBeadID
    [(.terminalReason reason, "setting terminal reason"),
      (.terminalActor actor, "setting terminal actor"),
      (.state .terminated, "setting state to terminated")]
    (must "closing root bead" (.closeBead rootBeadID .handlerRoot))
    .lastProcessedWisp wispID "setting last processed wisp"
  return { action := reason.action, iteration, gateOutcome := gateResult.outcome }

def terminalReasonOf (outcome : Option GateOutcome) (action : TimeoutAction) (iteration : Nat)
    (maxIterations : Int) : Option TerminalReason :=
  if outcome = some .pass then some .approved
  else if outcome = some .timeout ∧ action = .terminate then some .noConvergence
  else if maxIterations ≤ (iteration : Int) then some .noConvergence
  else none

structure Speculation where
  wispID : String := ""
  pourError : Option StoreError := none

def pourAhead (rootBeadID : String) (nextKey : WispKey) (md : LoopMeta) :
    Call σ Speculation := do
  let poured ← pourOrFind S (.pourSpeculativeWisp rootBeadID nextKey (pourArgs md)) nextKey
  match poured with
  | .error e => return { pourError := some e }
  | .ok id => do
    onlyIf (id ≠ "")
      ((must "setting pending next wisp" (.setMetadata rootBeadID (.pendingNextWisp id))).onError
        fun e => burnAfter S e rootBeadID id)
    return { wispID := id }

variable (wispIteration : Nat) (cfg : GateConfig)

def settle (tc : TriggerConfig) (md : LoopMeta) (gateResult : GateResult) (ahead : Speculation) :
    Call σ HandlerResult :=
  if gateResult.outcome = some .timeout ∧ cfg.timeoutAction = .manual then do
    burnBefore S "burning speculative wisp before waiting_manual" rootBeadID ahead.wispID
    transitionToWaitingManual rootBeadID wispID wispIteration .timeout gateResult.outcome
  else
    match terminalReasonOf gateResult.outcome cfg.timeoutAction wispIteration
        (md.maxIterations.getD 0) with
    | some reason => do
      burnBefore S "burning speculative wisp before terminal transition" rootBeadID ahead.wispID
      terminate rootBeadID wispID wispIteration gateResult reason "controller"
    | none =>
      if ahead.pourError.isSome then handleSlingFailure rootBeadID wispID wispIteration gateResult
      else if tc.Enabled then
        transitionToWaitingTrigger rootBeadID wispID wispIteration gateResult md
      else iterate S rootBeadID wispID wispIteration gateResult md ahead.wispID

def holdForOperator (reason : WaitReason) (ahead : Speculation) : Call σ HandlerResult := do
  burnBefore S "burning speculative wisp before waiting_manual" rootBeadID ahead.wispID
  transitionToWaitingManual rootBeadID wispID wispIteration reason none

def evaluateAndSettle
    (tc : TriggerConfig) (md : LoopMeta) (script : GateResult) (ahead : Speculation) :
    Call σ HandlerResult :=
  if md.gateOutcomeWisp = wispID then
    settle S rootBeadID wispID wispIteration cfg tc md (persistedResult md) ahead
  else if cfg.mode = .manual then
    holdForOperator S rootBeadID wispID wispIteration .manual ahead
  else if cfg.mode = .hybrid ∧ HybridNeedsManual cfg then
    holdForOperator S rootBeadID wispID wispIteration .hybridNoCondition ahead
  else do
    (persistGateOutcome rootBeadID wispID (evaluateGate cfg script)).onError
      fun e => burnAfter S (.wrapped "persisting gate outcome" e) rootBeadID ahead.wispID
    settle S rootBeadID wispID wispIteration cfg tc md (evaluateGate cfg script) ahead

/-- A gate that needs a condition and has none: burn the wisp that was poured for it and fail. -/
def refuseGate {α : Type} (rootBeadID : String) (nextKey : WispKey) (md : LoopMeta) :
    Call σ α := do
  let pending ← validPendingNextWisp S rootBeadID nextKey md.pendingNextWisp
  burnAfter S (.text "gate mode is \"condition\" but no condition path configured") rootBeadID
    pending

def needsManualWithoutGate : Bool :=
  cfg.mode == .manual || (cfg.mode == .hybrid && HybridNeedsManual cfg)

/-- The next wisp is not poured ahead of a decision that is left to an operator or to a trigger. -/
def speculate (rootBeadID : String) (nextKey : WispKey) (wispIteration : Nat) (cfg : GateConfig)
    (tc : TriggerConfig) (md : LoopMeta) (pending : String) : Call σ Speculation :=
  if (wispIteration : Int) < md.maxIterations.getD 0 ∧
      ¬ (needsManualWithoutGate cfg || tc.Enabled) ∧ pending = "" then
    pourAhead S rootBeadID nextKey md
  else .ret { wispID := pending }

def processWisp (md : LoopMeta) (script : GateResult) : Call σ HandlerResult := do
  let globalIteration ← query "deriving iteration count" (deriveIterationCount S rootBeadID)
  onlyIf ((globalIteration : Int) ≠ md.iteration.getD 0)
    (must "updating iteration count" (.setMetadata rootBeadID (.iteration globalIteration)))
  let cfg ← orThrow "parsing gate config" (ParseGateConfig md)
  let tc ← orThrow "parsing trigger config" (ParseTriggerConfig md)
  let nextKey := IdempotencyKey rootBeadID (wispIteration + 1)
  if md.gateOutcomeWisp ≠ wispID ∧ cfg.mode = .condition ∧ cfg.condition = "" then
    refuseGate S rootBeadID nextKey md
  else do
    let pending ← validPendingNextWisp S rootBeadID nextKey md.pendingNextWisp
    let ahead ← speculate S rootBeadID nextKey wispIteration cfg tc md pending
    evaluateAndSettle S rootBeadID wispID wispIteration cfg tc md script ahead

def HandleWispClosed (script : GateResult) : Call σ HandlerResult := do
  let md ← query "reading root bead metadata" (S.GetMetadata · rootBeadID)
  if md.state = .terminated then do
    attempt (.closeBead rootBeadID .handlerCleanup)
    return { action := .skipped }
  else do
    let wispInfo ← query "reading wisp info" (S.GetBead · wispID)
    match ParseIterationFromKey wispInfo.idempotencyKey with
    | none => .fail (.text "parsing iteration from wisp key")
    | some wispIteration => do
      let lastProcessed ← look (lastProcessedIteration S md)
      if wispIteration ≤ lastProcessed then return { action := .skipped }
      else processWisp S rootBeadID wispID wispIteration md script

end Handler

end GasCity
