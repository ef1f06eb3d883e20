import GasCity.Bead

namespace GasCity

inductive LoopState where
  | missing
  | creating
  | active
  | waitingManual
  | waitingTrigger
  | terminated
  | unknown (text : String)
  deriving DecidableEq

def LoopState.text : LoopState → String
  | .missing => ""
  | .creating => "creating"
  | .active => "active"
  | .waitingManual => "waiting_manual"
  | .waitingTrigger => "waiting_trigger"
  | .terminated => "terminated"
  | .unknown text => text

def quoted (text : String) : String := "\"" ++ text ++ "\""

inductive GateMode where
  | manual
  | condition
  | hybrid
  deriving DecidableEq

inductive TimeoutAction where
  | iterate
  | retry
  | manual
  | terminate
  deriving DecidableEq

inductive TriggerMode where
  | event
  deriving DecidableEq

inductive TerminalReason where
  | approved
  | noConvergence
  | stopped
  | partialCreation
  deriving DecidableEq

inductive GateOutcome where
  | pass
  | fail
  | timeout
  | error
  deriving DecidableEq

inductive WaitReason where
  | manual
  | hybridNoCondition
  | timeout
  | slingFailure
  deriving DecidableEq

/-- A configured value as the metadata has it: no text, a text with a meaning, or another text. -/
inductive Setting (α : Type) where
  | absent
  | valid (value : α)
  | invalid (text : String)
  deriving DecidableEq

structure GateResult where
  outcome : Option GateOutcome := none
  exitCode : Option Int := none
  retryCount : Int := 0
  stdout : String := ""
  stderr : String := ""
  durationMs : Int := 0
  truncated : Bool := false

/-- The metadata of a convergence root. A text that is absent reads as the empty one, a number that
is absent or malformed as `none`. -/
structure LoopMeta where
  state : LoopState := .missing
  iteration : Option Int := none
  maxIterations : Option Int := none
  formula : String := ""
  target : String := ""
  gateMode : Setting GateMode := .absent
  gateCondition : String := ""
  gateTimeout : Setting Int := .absent
  gateTimeoutAction : Setting TimeoutAction := .absent
  activeWisp : String := ""
  lastProcessedWisp : String := ""
  agentVerdict : String := ""
  agentVerdictWisp : String := ""
  gateOutcome : Option GateOutcome := none
  gateExitCode : Option Int := none
  gateOutcomeWisp : String := ""
  gateRetryCount : Option Int := none
  terminalReason : Option TerminalReason := none
  terminalActor : String := ""
  waitingReason : Option WaitReason := none
  retrySource : String := ""
  cityPath : String := ""
  rig : String := ""
  evaluatePrompt : String := ""
  gateStdout : String := ""
  gateStderr : String := ""
  gateDurationMs : Option Int := none
  gateTruncated : Bool := false
  pendingNextWisp : String := ""
  trigger : Setting TriggerMode := .absent
  triggerCondition : String := ""
  vars : StringMap := ∅

inductive MetaWrite where
  | state (value : LoopState)
  | iteration (value : Int)
  | maxIterations (value : Int)
  | formula (value : String)
  | target (value : String)
  | gateMode (value : Setting GateMode)
  | gateCondition (value : String)
  | gateTimeout (value : Setting Int)
  | gateTimeoutAction (value : Setting TimeoutAction)
  | activeWisp (value : String)
  | lastProcessedWisp (value : String)
  | agentVerdict (value : String)
  | agentVerdictWisp (value : String)
  | gateOutcome (value : Option GateOutcome)
  | gateExitCode (value : Option Int)
  | gateOutcomeWisp (value : String)
  | gateRetryCount (value : Int)
  | terminalReason (value : TerminalReason)
  | terminalActor (value : String)
  | waitingReason (value : Option WaitReason)
  | retrySource (value : String)
  | cityPath (value : String)
  | rig (value : String)
  | evaluatePrompt (value : String)
  | gateStdout (value : String)
  | gateStderr (value : String)
  | gateDurationMs (value : Int)
  | gateTruncated (value : Bool)
  | pendingNextWisp (value : String)
  | trigger (value : Setting TriggerMode)
  | triggerCondition (value : String)
  | var (name value : String)
  deriving DecidableEq

variable (md : LoopMeta)

def MetaWrite.apply : MetaWrite → LoopMeta
  | .state v => { md with state := v }
  | .iteration v => { md with iteration := some v }
  | .maxIterations v => { md with maxIterations := some v }
  | .formula v => { md with formula := v }
  | .target v => { md with target := v }
  | .gateMode v => { md with gateMode := v }
  | .gateCondition v => { md with gateCondition := v }
  | .gateTimeout v => { md with gateTimeout := v }
  | .gateTimeoutAction v => { md with gateTimeoutAction := v }
  | .activeWisp v => { md with activeWisp := v }
  | .lastProcessedWisp v => { md with lastProcessedWisp := v }
  | .agentVerdict v => { md with agentVerdict := v }
  | .agentVerdictWisp v => { md with agentVerdictWisp := v }
  | .gateOutcome v => { md with gateOutcome := v }
  | .gateExitCode v => { md with gateExitCode := v }
  | .gateOutcomeWisp v => { md with gateOutcomeWisp := v }
  | .gateRetryCount v => { md with gateRetryCount := some v }
  | .terminalReason v => { md with terminalReason := some v }
  | .terminalActor v => { md with terminalActor := v }
  | .waitingReason v => { md with waitingReason := v }
  | .retrySource v => { md with retrySource := v }
  | .cityPath v => { md with cityPath := v }
  | .rig v => { md with rig := v }
  | .evaluatePrompt v => { md with evaluatePrompt := v }
  | .gateStdout v => { md with gateStdout := v }
  | .gateStderr v => { md with gateStderr := v }
  | .gateDurationMs v => { md with gateDurationMs := some v }
  | .gateTruncated v => { md with gateTruncated := v }
  | .pendingNextWisp v => { md with pendingNextWisp := v }
  | .trigger v => { md with trigger := v }
  | .triggerCondition v => { md with triggerCondition := v }
  | .var k v => { md with vars := md.vars.insert k v }

inductive StoreError where
  | notFound (id : String)
  | failure (text : String)

/-- An error of a handler: its own text, or what it was doing when a store call failed. -/
inductive HandlerError where
  | text (message : String)
  | wrapped (doing : String) (cause : HandlerError)
  | store (cause : StoreError)
  | also (first second : HandlerError)

structure GateConfig where
  mode : GateMode
  condition : String
  timeout : Int
  timeoutAction : TimeoutAction

def defaultGateTimeout : Int := 300000

def parseGateTimeout : Except HandlerError Int :=
  match md.gateTimeout with
  | .absent => .ok defaultGateTimeout
  | .invalid raw => .error (.text ("parsing gate config: invalid gate timeout " ++ quoted raw))
  | .valid d =>
    if d ≤ 0 then .error (.text "parsing gate config: gate timeout must be positive") else .ok d

def parseTimeoutAction : Except HandlerError TimeoutAction :=
  match md.gateTimeoutAction with
  | .absent => .ok .iterate
  | .invalid raw =>
    .error (.text ("parsing gate config: invalid gate timeout action " ++ quoted raw))
  | .valid action => .ok action

def parseGateMode : Except HandlerError GateMode :=
  match md.gateMode with
  | .absent => .ok .manual
  | .invalid raw => .error (.text ("parsing gate config: invalid gate mode " ++ quoted raw))
  | .valid mode => .ok mode

def ParseGateConfig : Except HandlerError GateConfig := do
  let mode ← parseGateMode md
  let timeout ← parseGateTimeout md
  let timeoutAction ← parseTimeoutAction md
  return { mode, condition := md.gateCondition, timeout, timeoutAction }

structure TriggerConfig where
  mode : Option TriggerMode := none
  condition : String := ""

def TriggerConfig.Enabled (tc : TriggerConfig) : Bool := tc.mode == some .event

def ParseTriggerConfig : Except HandlerError TriggerConfig :=
  match md.trigger with
  | .absent => .ok {}
  | .valid .event =>
    if md.triggerCondition = "" then
      .error (.text
        "parsing trigger config: trigger mode \"event\" requires a trigger condition path")
    else .ok { mode := some .event, condition := md.triggerCondition }
  | .invalid raw => .error (.text ("parsing trigger config: invalid trigger mode " ++ quoted raw))

def HybridNeedsManual (cfg : GateConfig) : Bool := cfg.condition == ""

inductive BeadStatus where
  | isOpen
  | inProgress
  | closed
  | other (text : String)
  deriving DecidableEq

/-- An idempotency key: `converge:<bead>:iter:<N>`, where N need not be a number, or another text. -/
inductive WispKey where
  | wisp (bead : String) (iteration : Option Nat)
  | other (text : String)
  deriving DecidableEq

variable (beadID : String)

def IdempotencyKey (iteration : Nat) : WispKey := .wisp beadID (some iteration)

def ParseIterationFromKey : WispKey → Option Nat
  | .wisp _ iteration => iteration
  | .other _ => none

def WispKey.belongsTo : WispKey → Bool
  | .wisp bead _ => bead == beadID
  | .other _ => false

structure BeadInfo where
  id : String
  status : BeadStatus
  parentID : String := ""
  idempotencyKey : WispKey := .other ""

structure ChildStats where
  closedCount : Nat := 0
  highestClosed : Option BeadInfo := none
  highestClosedIter : Int := -1
  highestOpen : Option BeadInfo := none
  highestOpenIter : Int := -1

def childStatsItem (stats : ChildStats) (child : BeadInfo) : ChildStats :=
  if child.idempotencyKey.belongsTo beadID = false then stats
  else
    match child.status with
    | .closed =>
      let stats := { stats with closedCount := stats.closedCount + 1 }
      match ParseIterationFromKey child.idempotencyKey with
      | some iter =>
        if stats.highestClosedIter < (iter : Int) then
          { stats with highestClosed := some child, highestClosedIter := iter }
        else stats
      | none => stats
    | .isOpen | .inProgress =>
      match ParseIterationFromKey child.idempotencyKey with
      | some iter =>
        if stats.highestOpenIter < (iter : Int) then
          { stats with highestOpen := some child, highestOpenIter := iter }
        else stats
      | none => stats
    | .other _ => stats

def childStats (children : List BeadInfo) (beadID : String) : ChildStats :=
  children.foldl (childStatsItem beadID) {}

end GasCity
