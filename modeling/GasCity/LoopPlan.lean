import GasCity.LoopTable

namespace GasCity

inductive Plan where
  | invalid
  | refuse
  | hold (reason : WaitReason)
  | finish (reason : TerminalReason)
  | await
  | next

def Plan.Burns : Plan → Prop
  | .refuse | .hold _ | .finish _ => True
  | .invalid | .await | .next => False

def Plan.Settles : Plan → Prop
  | .hold _ | .finish _ | .next => True
  | .invalid | .refuse | .await => False

def settlePlan (cfg : GateConfig) (tc : TriggerConfig) (iteration : Nat) (maxIterations : Int)
    (outcome : Option GateOutcome) : Plan :=
  if outcome = some .timeout ∧ cfg.timeoutAction = .manual then .hold .timeout
  else
    match terminalReasonOf outcome cfg.timeoutAction iteration maxIterations with
    | some reason => .finish reason
    | none => if tc.Enabled then .await else .next

theorem below_limit {outcome : Option GateOutcome} {action : TimeoutAction} {n : Nat} {limit : Int}
    (goes_on : terminalReasonOf outcome action n limit = none) : (n : Int) + 1 ≤ limit := by
  unfold terminalReasonOf at goes_on
  split at goes_on
  next => cases goes_on
  next =>
    split at goes_on
    next => cases goes_on
    next =>
      split at goes_on
      next => cases goes_on
      next => omega

def planOf (cfg : GateConfig) (tc : TriggerConfig) (md : LoopMeta) (wispID : String)
    (iteration : Nat) (script : GateResult) : Plan :=
  if md.gateOutcomeWisp = wispID then
    settlePlan cfg tc iteration (md.maxIterations.getD 0) md.gateOutcome
  else if cfg.mode = .condition ∧ cfg.condition = "" then .refuse
  else if cfg.mode = .manual then .hold .manual
  else if cfg.mode = .hybrid ∧ HybridNeedsManual cfg then .hold .hybridNoCondition
  else settlePlan cfg tc iteration (md.maxIterations.getD 0) (evaluateGate cfg script).outcome

def plan (md : LoopMeta) (wispID : String) (iteration : Nat) (script : GateResult) : Plan :=
  match ParseGateConfig md, ParseTriggerConfig md with
  | .ok cfg, .ok tc => planOf cfg tc md wispID iteration script
  | _, _ => .invalid

def poursAhead (md : LoopMeta) (iteration : Nat) : Bool :=
  match ParseGateConfig md, ParseTriggerConfig md with
  | .ok cfg, .ok tc =>
    decide ((iteration : Int) < md.maxIterations.getD 0) &&
      !(needsManualWithoutGate cfg || tc.Enabled)
  | _, _ => false

structure Scripted (cfg : GateConfig) : Prop where
  condition : ¬ (cfg.mode = .condition ∧ cfg.condition = "")
  manual : cfg.mode ≠ .manual
  hybrid : ¬ (cfg.mode = .hybrid ∧ HybridNeedsManual cfg = true)

variable {md md' : LoopMeta}

theorem Scripted.planOf_eq {cfg : GateConfig} (scripted : Scripted cfg) {tc : TriggerConfig} {w : Wisp}
    {script : GateResult} (fresh : md.gateOutcomeWisp ≠ w.id) :
    planOf cfg tc md w.id w.iteration script =
      settlePlan cfg tc w.iteration (md.maxIterations.getD 0) (evaluateGate cfg script).outcome := by
  unfold planOf
  rw [if_neg fresh, if_neg scripted.condition, if_neg scripted.manual, if_neg scripted.hybrid]

def Evaluates (md : LoopMeta) : Prop := ∃ cfg, ParseGateConfig md = .ok cfg ∧ Scripted cfg

/-- The metadata agree on all that the handler commits and on the configuration. -/
structure Undecided (md md' : LoopMeta) : Prop where
  state : md'.state = md.state
  maxIterations : md'.maxIterations = md.maxIterations
  gateMode : md'.gateMode = md.gateMode
  gateCondition : md'.gateCondition = md.gateCondition
  gateTimeout : md'.gateTimeout = md.gateTimeout
  gateTimeoutAction : md'.gateTimeoutAction = md.gateTimeoutAction
  activeWisp : md'.activeWisp = md.activeWisp
  lastProcessedWisp : md'.lastProcessedWisp = md.lastProcessedWisp
  terminalReason : md'.terminalReason = md.terminalReason
  waitingReason : md'.waitingReason = md.waitingReason
  trigger : md'.trigger = md.trigger
  triggerCondition : md'.triggerCondition = md.triggerCondition

def MetaWrite.prepares : MetaWrite → Bool
  | .iteration _ | .pendingNextWisp _ | .agentVerdict _ | .agentVerdictWisp _ | .gateOutcome _
  | .gateExitCode _ | .gateOutcomeWisp _ | .gateRetryCount _ | .gateStdout _ | .gateStderr _
  | .gateDurationMs _ | .gateTruncated _ => true
  | _ => false

def MetaWrite.neutral : MetaWrite → Bool
  | .iteration _ | .agentVerdict _ | .agentVerdictWisp _ | .gateExitCode _ | .gateRetryCount _
  | .gateStdout _ | .gateStderr _ | .gateDurationMs _ | .gateTruncated _ => true
  | _ => false

theorem Undecided.refl (md : LoopMeta) : Undecided md md :=
  ⟨rfl, rfl, rfl, rfl, rfl, rfl, rfl, rfl, rfl, rfl, rfl, rfl⟩

theorem Undecided.write (same : Undecided md md') {m : MetaWrite} (prepares : m.prepares = true) :
    Undecided md (m.apply md') := by
  cases m with
  | iteration | pendingNextWisp | agentVerdict | agentVerdictWisp | gateOutcome | gateExitCode
  | gateOutcomeWisp | gateRetryCount | gateStdout | gateStderr | gateDurationMs | gateTruncated =>
    exact { same with }
  | _ => cases prepares

theorem Undecided.parseGate (same : Undecided md md') :
    ParseGateConfig md' = ParseGateConfig md := by
  unfold ParseGateConfig parseGateMode parseGateTimeout parseTimeoutAction
  rw [same.gateMode, same.gateTimeout, same.gateTimeoutAction, same.gateCondition]

theorem Undecided.parseTrigger (same : Undecided md md') :
    ParseTriggerConfig md' = ParseTriggerConfig md := by
  unfold ParseTriggerConfig
  rw [same.trigger, same.triggerCondition]

theorem Undecided.poursAhead (same : Undecided md md') (n : Nat) :
    GasCity.poursAhead md' n = GasCity.poursAhead md n := by
  unfold GasCity.poursAhead
  rw [same.parseGate, same.parseTrigger, same.maxIterations]

namespace LoopStore

structure Unprocessed (s : LoopStore) (w : Wisp) : Prop where
  created : s.created = true
  running : s.metadata.state ≠ .terminated
  found : s.wisps.find w.id = some w
  closed : w.status = .closed
  later : s.lastIteration < w.iteration

def planFor (s : LoopStore) (w : Wisp) (script : GateResult) : Plan :=
  plan s.metadata w.id w.iteration script

def PendingValid (s : LoopStore) (n : Nat) : Prop :=
  ∃ x, s.wispAt n = some x ∧ x.id = s.metadata.pendingNextWisp ∧ x.status ≠ .closed

/-- The wisp of iteration `n + 1` is there once the plan for iteration `n` has been carried out. -/
def Leftover (p : Plan) (s : LoopStore) (n : Nat) : Prop :=
  match p with
  | .invalid | .await => (s.wispAt (n + 1)).isSome
  | .refuse => ¬ s.PendingValid (n + 1) ∧ (s.wispAt (n + 1)).isSome
  | .hold _ | .finish _ =>
    poursAhead s.metadata n = false ∧ ¬ s.PendingValid (n + 1) ∧ (s.wispAt (n + 1)).isSome
  | .next => True

/-- A wisp that the handler has poured for the next iteration: ahead of the gate, or once the plan
was to go on. -/
structure NewNext (s : LoopStore) (w : Wisp) (script : GateResult) (x : Wisp) : Prop where
  isOpen : x.status = .isOpen
  now : x.live = true → s.planFor w script = .next ∧ poursAhead s.metadata w.iteration = false
  ahead : x.live = false → poursAhead s.metadata w.iteration = true ∧ (s.planFor w script).Settles

structure Prep (s : LoopStore) (w : Wisp) (script : GateResult) (t : LoopStore) : Prop where
  rootID : t.rootID = s.rootID
  created : t.created = true
  status : t.status = s.status
  undecided : Undecided s.metadata t.metadata
  plan : t.planFor w script = s.planFor w script
  others : ∀ i, i ≠ w.iteration + 1 → t.wispAt i = s.wispAt i
  last : (t.wisps.find s.metadata.lastProcessedWisp).map (fun x => x.iteration) =
    (s.wisps.find s.metadata.lastProcessedWisp).map (fun x => x.iteration)
  successor : ∀ x, t.wispAt (w.iteration + 1) = some x →
    s.wispAt (w.iteration + 1) = some x ∨ NewNext s w script x
  evaluated : t.metadata.gateOutcomeWisp = s.metadata.gateOutcomeWisp ∨
    t.metadata.gateOutcomeWisp = w.id ∧ Evaluates s.metadata
  leftover : Leftover (s.planFor w script) t w.iteration ↔
    Leftover (s.planFor w script) s w.iteration

variable {s t : LoopStore} {w x : Wisp} {script : GateResult}

theorem Unprocessed.prep (due : s.Unprocessed w) : Prep s w script s :=
  ⟨rfl, due.created, rfl, Undecided.refl _, rfl, fun _ _ => rfl, rfl, fun _ h => .inl h,
    .inl rfl, Iff.rfl⟩

theorem Unprocessed.wispAt (due : s.Unprocessed w) : s.wispAt w.iteration = some w :=
  wispAt_of_find due.found

theorem Prep.lastIteration (prep : Prep s w script t) : t.lastIteration = s.lastIteration := by
  unfold LoopStore.lastIteration
  rw [prep.undecided.lastProcessedWisp, prep.last]

theorem Prep.found (prep : Prep s w script t) (due : s.Unprocessed w) :
    t.wisps.find w.id = some w := by
  have same := prep.others w.iteration (by omega)
  rw [due.wispAt] at same
  exact find_of_wispAt same

theorem Prep.unprocessed (prep : Prep s w script t) (due : s.Unprocessed w) : t.Unprocessed w where
  created := prep.created
  running := by
    rw [prep.undecided.state]
    exact due.running
  found := prep.found due
  closed := due.closed
  later := by
    rw [prep.lastIteration]
    exact due.later

variable {m : MetaWrite}

theorem undecided_note {md : LoopMeta} (same : Undecided md t.metadata)
    (prepares : m.prepares = true) : Undecided md (t.note m).metadata := same.write prepares

theorem Prep.note (prep : Prep s w script t) (prepares : m.prepares = true)
    (plan : (t.note m).planFor w script = t.planFor w script)
    (evaluated : (t.note m).metadata.gateOutcomeWisp = t.metadata.gateOutcomeWisp ∨
      (t.note m).metadata.gateOutcomeWisp = w.id ∧ Evaluates s.metadata)
    (leftover : Leftover (s.planFor w script) (t.note m) w.iteration ↔
      Leftover (s.planFor w script) t w.iteration) : Prep s w script (t.note m) where
  rootID := prep.rootID
  created := prep.created
  status := prep.status
  undecided := prep.undecided.write prepares
  plan := plan.trans prep.plan
  others := prep.others
  last := prep.last
  successor := prep.successor
  evaluated := by
    rcases evaluated with same | new
    · rw [same]
      exact prep.evaluated
    · exact .inr new
  leftover := leftover.trans prep.leftover

theorem Unprocessed.last_iteration (due : s.Unprocessed w)
    (found : s.wisps.find s.metadata.lastProcessedWisp = some x) : x.iteration < w.iteration := by
  have later := due.later
  unfold LoopStore.lastIteration at later
  rw [found] at later
  exact later

/-- The same wisps, with the same outcome and the same pending wisp noted. -/
structure Alike (t u : LoopStore) : Prop where
  wispAt : ∀ n, u.wispAt n = t.wispAt n
  pendingNextWisp : u.metadata.pendingNextWisp = t.metadata.pendingNextWisp
  gateOutcome : u.metadata.gateOutcome = t.metadata.gateOutcome
  gateOutcomeWisp : u.metadata.gateOutcomeWisp = t.metadata.gateOutcomeWisp

theorem Alike.refl (t : LoopStore) : Alike t t := ⟨fun _ => rfl, rfl, rfl, rfl⟩

theorem Alike.trans {u v : LoopStore} (first : Alike t u) (second : Alike u v) : Alike t v :=
  ⟨fun n => (second.wispAt n).trans (first.wispAt n),
    second.pendingNextWisp.trans first.pendingNextWisp,
    second.gateOutcome.trans first.gateOutcome, second.gateOutcomeWisp.trans first.gateOutcomeWisp⟩

theorem Alike.pendingValid {u : LoopStore} (alike : Alike t u) (n : Nat) :
    u.PendingValid n ↔ t.PendingValid n := by
  unfold PendingValid
  rw [alike.wispAt, alike.pendingNextWisp]

theorem Leftover.congr {p : Plan} {n : Nat} (ahead : poursAhead t.metadata n = poursAhead s.metadata n)
    (pending : t.PendingValid (n + 1) ↔ s.PendingValid (n + 1))
    (there : (t.wispAt (n + 1)).isSome = (s.wispAt (n + 1)).isSome) :
    Leftover p t n ↔ Leftover p s n := by
  unfold Leftover
  cases p <;> simp only [ahead, pending, there]

theorem alike_note (neutral : m.neutral = true) : Alike t (t.note m) := by
  cases m with
  | iteration | agentVerdict | agentVerdictWisp | gateExitCode | gateRetryCount | gateStdout
  | gateStderr | gateDurationMs | gateTruncated => exact ⟨fun _ => rfl, rfl, rfl, rfl⟩
  | _ => cases neutral

theorem MetaWrite.neutral_prepares (neutral : m.neutral = true) :
    m.prepares = true := by
  cases m with
  | iteration | agentVerdict | agentVerdictWisp | gateExitCode | gateRetryCount | gateStdout
  | gateStderr | gateDurationMs | gateTruncated => rfl
  | _ => cases neutral

theorem planFor_congr (same : Undecided s.metadata t.metadata) (alike : Alike s t) :
    t.planFor w script = s.planFor w script := by
  unfold planFor plan planOf
  rw [same.parseGate, same.parseTrigger, same.maxIterations, alike.gateOutcome,
    alike.gateOutcomeWisp]

theorem Prep.neutral (prep : Prep s w script t) (neutral : m.neutral = true) :
    Prep s w script (t.note m) := by
  have prepares := MetaWrite.neutral_prepares neutral
  have same := (Undecided.refl t.metadata).write prepares
  have alike := alike_note (t := t) neutral
  refine prep.note prepares (planFor_congr same alike) (.inl alike.gateOutcomeWisp) ?_
  exact Leftover.congr (same.poursAhead w.iteration) (alike.pendingValid _) rfl

end LoopStore

end GasCity
