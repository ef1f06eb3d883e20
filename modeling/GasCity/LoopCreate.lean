import GasCity.LoopHandler

namespace GasCity

structure CreateParams where
  formula : String
  target : String
  maxIterations : Int
  gateMode : Setting GateMode := .absent
  gateCondition : String := ""
  gateTimeout : Setting Int := .absent
  gateTimeoutAction : Setting TimeoutAction := .absent
  title : String := ""
  vars : StringMap := ∅
  cityPath : String := ""
  evaluatePrompt : String := ""
  trigger : Setting TriggerMode := .absent
  triggerCondition : String := ""
  rig : String := ""
  retrySource : String := ""

structure CreateResult where
  beadID : String
  firstWispID : String := ""

namespace CreateParams

variable (params : CreateParams)

def mode : Setting GateMode :=
  if params.gateMode = .absent then .valid .manual else params.gateMode

def gateMeta : LoopMeta where
  gateMode := params.mode
  gateCondition := params.gateCondition
  gateTimeout := params.gateTimeout
  gateTimeoutAction := params.gateTimeoutAction

def triggerMeta : LoopMeta where
  trigger := params.trigger
  triggerCondition := params.triggerCondition

def metaWrites : List (MetaWrite × String) :=
  [(.formula params.formula, "setting convergence.formula on convergence bead"),
    (.target params.target, "setting convergence.target on convergence bead"),
    (.maxIterations params.maxIterations, "setting convergence.max_iterations on convergence bead"),
    (.gateMode params.mode, "setting convergence.gate_mode on convergence bead"),
    (.gateCondition params.gateCondition, "setting convergence.gate_condition on convergence bead"),
    (.gateTimeout params.gateTimeout, "setting convergence.gate_timeout on convergence bead"),
    (.gateTimeoutAction params.gateTimeoutAction,
      "setting convergence.gate_timeout_action on convergence bead"),
    (.cityPath params.cityPath, "setting convergence.city_path on convergence bead"),
    (.rig params.rig, "setting convergence.rig on convergence bead"),
    (.evaluatePrompt params.evaluatePrompt,
      "setting convergence.evaluate_prompt on convergence bead"),
    (.trigger params.trigger, "setting convergence.trigger on convergence bead"),
    (.triggerCondition params.triggerCondition,
      "setting convergence.trigger_condition on convergence bead")] ++
  if params.retrySource = "" then []
  else [(.retrySource params.retrySource, "setting convergence.retry_source on convergence bead")]

def varWrites : List (MetaWrite × String) :=
  params.vars.entries.map fun kv =>
    (.var kv.1 kv.2, "setting var " ++ quoted kv.1 ++ " on convergence bead")

def closeReason : CloseReason :=
  if params.retrySource = "" then .createRollback else .retryRollback

end CreateParams

section Create

variable {σ : Type}

def populate (beadID : String) (params : CreateParams) (tc : TriggerConfig) :
    Call σ CreateResult := do
  must "setting creating state" (.setMetadata beadID (.state .creating))
  applyWrites beadID params.metaWrites
  applyWrites beadID params.varWrites
  if tc.Enabled then do
    must "setting iteration" (.setMetadata beadID (.iteration 0))
    must "setting waiting_trigger state" (.setMetadata beadID (.state .waitingTrigger))
    return { beadID }
  else do
    must "setting active state" (.setMetadata beadID (.state .active))
    let firstWispID ← mustGet "pouring first wisp"
      (.pourWisp beadID (IdempotencyKey beadID 1)
        { formula := params.formula, vars := params.vars, evaluatePrompt := params.evaluatePrompt })
    must "setting active wisp" (.setMetadata beadID (.activeWisp firstWispID))
    must "setting iteration" (.setMetadata beadID (.iteration 1))
    return { beadID, firstWispID }

def closeRootBead {α : Type} (beadID : String) (params : CreateParams) (cause : HandlerError) :
    Call σ α := do
  attempt (.setMetadata beadID (.state .terminated))
  attempt (.closeBead beadID params.closeReason)
  .fail cause

def CreateHandler (params : CreateParams) : Call σ CreateResult :=
  if params.formula = "" then .fail (.text "formula is required")
  else if params.target = "" then .fail (.text "target is required")
  else if params.maxIterations ≤ 0 then .fail (.text "max_iterations must be positive")
  else
    match ParseGateConfig params.gateMeta, ParseTriggerConfig params.triggerMeta with
    | .error e, _ => .fail e
    | .ok _, .error e => .fail e
    | .ok _, .ok tc => do
      let beadID ← mustGet "creating convergence bead" (.createConvergenceBead
        (if params.title = "" then "Convergence: " ++ params.formula else params.title))
      (populate beadID params tc).onError (closeRootBead beadID params)

end Create

end GasCity
