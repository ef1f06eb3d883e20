import GasCity.MemStore

namespace GasCity

open Function

/-- The reasons of a wake decision; `unset` is the empty text. -/
inductive WakeReason where
  | unset
  | pendingCreate
  | explicitWake
  | namedAlways
  | namedDemand
  | routedDemand
  | workQuery
  | scaledDemand
  | scaledCreating
  | manual
  | assignedWork
  | minActive
  | resetPending
  | attached
  | pending
  | waitReady
  | onDemandRunning
  | pin
  | idleSleep
  | held
  | quarantined
  deriving DecidableEq

inductive AwakeState where
  | startPending
  | creating
  | active
  | asleep
  | suspended
  | drained
  | closed
  | other (text : String)
  deriving DecidableEq

inductive SleepReason where
  | none
  | idleTimeout
  | cityStop
  | other (text : String)
  deriving DecidableEq

inductive NamedMode where
  | always
  | onDemand
  | other (text : String)
  deriving DecidableEq

/-- An agent of the configuration. Times and durations are in nanoseconds. -/
structure AwakeAgent where
  qualifiedName : String
  suspended : Bool := false
  sleepAfterIdle : Int := 0
  minActiveSessions : Int := 0

structure AwakeNamedSession where
  identity : String
  template : String
  mode : NamedMode
  runtimeName : String := ""

structure AwakeSessionBead where
  id : String
  sessionName : String
  template : String
  state : AwakeState
  sleepReason : SleepReason := .none
  manualSession : Bool := false
  pendingCreate : Bool := false
  explicitWake : Bool := false
  dependencyOnly : Bool := false
  namedIdentity : String := ""
  configuredNamedSession : Bool := false
  pinned : Bool := false
  drained : Bool := false
  waitHold : Bool := false
  heldUntil : Option Int := none
  quarantinedUntil : Option Int := none
  idleSince : Option Int := none
  createdAt : Option Int := none
  restartRequested : Bool := false
  continuationResetPending : Bool := false
  currentlyProcessingBeadID : String := ""
  postCreateProtected : Bool := false

inductive WorkStatus where
  | isOpen
  | inProgress
  | other (text : String)
  deriving DecidableEq

structure AwakeWorkBead where
  id : String
  assignee : String
  status : WorkStatus
  ready : Bool := false
  blocked : Bool := false

/-- Everything a wake decision is made from. The two maps that are walked have their entries in the
order of the walk, which is not fixed. -/
structure AwakeInput where
  agents : List AwakeAgent := []
  namedSessions : List AwakeNamedSession := []
  sessionBeads : List AwakeSessionBead := []
  workBeads : List AwakeWorkBead := []
  scaleCheckCounts : KeyedList (Prod.fst : String × Int → String) := KeyedList.empty
  namedSessionDemand : String → Bool := fun _ => false
  namedSessionRoutedDemand : String → Bool := fun _ => false
  namedSessionWorkQ : String → Bool := fun _ => false
  workSet : KeyedList (Prod.fst : String × Bool → String) := KeyedList.empty
  runningSessions : String → Bool := fun _ => false
  attachedSessions : String → Bool := fun _ => false
  pendingSessions : String → Bool := fun _ => false
  readyWaitSet : String → Bool := fun _ => false
  chatIdleTimeout : Int := 0
  manualGracePeriod : Int := 0
  now : Int := 0

structure AwakeDecision where
  shouldWake : Bool := false
  reason : WakeReason := .unset
  hasAssignedWork : Bool := false
  assignedWorkBeadID : String := ""
  requiresFreshCycle : Bool := false
  deriving DecidableEq

namespace Awake

section Agents

def awakeAgentBaseName (name : String) : String :=
  String.ofList (name.toList.reverse.takeWhile (· ≠ '/')).reverse

structure AgentIndex where
  byName : String → Option AwakeAgent := fun _ => none
  byBaseName : String → Option AwakeAgent := fun _ => none
  duplicateBaseNames : String → Bool := fun _ => false

namespace AgentIndex

def add (index : AgentIndex) (a : AwakeAgent) : AgentIndex :=
  let base := awakeAgentBaseName a.qualifiedName
  let index := { index with byName := update index.byName a.qualifiedName (some a) }
  if (index.byBaseName base).any fun existing => existing.qualifiedName ≠ a.qualifiedName then
    { index with duplicateBaseNames := update index.duplicateBaseNames base true }
  else if !index.duplicateBaseNames base then
    { index with byBaseName := update index.byBaseName base (some a) }
  else index

def lookupAgent (index : AgentIndex) (name : String) : Option AwakeAgent :=
  match index.byName name with
  | some agent => some agent
  | none =>
    let base := awakeAgentBaseName name
    if index.duplicateBaseNames base then none else index.byBaseName base

end AgentIndex

end Agents

section Sessions

variable (beads : List AwakeSessionBead) (named : List AwakeNamedSession)

def findNamedSessionName (identity : String) : String :=
  match beads.find? fun b => b.namedIdentity = identity with
  | some b => b.sessionName
  | none => ""

def findBeadBySessionName (name : String) : Option AwakeSessionBead :=
  beads.find? fun b => b.sessionName = name

/-- The session name of the bead of a named session: that of the bead with its identity or, where that
is missing, of the configured bead under its runtime name. -/
def resolveNamedSessionBeadName (ns : AwakeNamedSession) : String :=
  let sn := findNamedSessionName beads ns.identity
  if sn ≠ "" then sn
  else if ns.runtimeName = "" then ""
  else
    match findBeadBySessionName beads ns.runtimeName with
    | none => ""
    | some bead =>
      if !bead.configuredNamedSession then ""
      else if ns.template ≠ "" ∧ bead.template ≠ ns.template then ""
      else if bead.namedIdentity ≠ "" ∧ bead.namedIdentity ≠ ns.identity then ""
      else bead.sessionName

variable (bead : AwakeSessionBead)

def namedSessionMatches (mode : NamedMode) : Bool :=
  named.any fun ns => ns.mode = mode &&
    ((bead.namedIdentity ≠ "" && ns.identity = bead.namedIdentity) ||
      (bead.namedIdentity = "" && bead.configuredNamedSession && ns.runtimeName ≠ "" &&
        ns.runtimeName = bead.sessionName && (ns.template = "" || ns.template = bead.template)))

def isOnDemandSession : Bool := namedSessionMatches named bead .onDemand

def isAlwaysNamedSession : Bool := namedSessionMatches named bead .always

variable (template : String)

def isNamedSessionTemplate : Bool := named.any fun ns => ns.template = template

/-- A bead of the pool of a template: neither of a named session nor a manual one, and not drained, kept
for dependencies or closed. -/
def isMinActivePoolBead (b : AwakeSessionBead) (template : String) : Bool :=
  b.template = template && b.namedIdentity = "" && !b.configuredNamedSession && !b.manualSession &&
    !b.drained && !b.dependencyOnly && b.state ≠ .closed

def before (now : Int) (until_ : Option Int) : Bool := until_.any fun t => now < t

def minActiveHardBlocked (b : AwakeSessionBead) (now : Int) : Bool :=
  b.waitHold || before now b.heldUntil || before now b.quarantinedUntil

def isCreatingCandidateState : AwakeState → Bool
  | .startPending => true
  | .creating => true
  | _ => false

/-- The zero time is before every other. -/
def createdBefore : Option Int → Option Int → Bool
  | _, none => false
  | none, some _ => true
  | some a, some b => a < b

def activeBefore (a b : AwakeSessionBead) : Bool :=
  if a.postCreateProtected ≠ b.postCreateProtected then a.postCreateProtected
  else if !a.postCreateProtected then false
  else if a.createdAt ≠ b.createdAt then createdBefore a.createdAt b.createdAt
  else a.id < b.id

def collectActiveBeads (now : Int) : List AwakeSessionBead :=
  (beads.filter fun b => b.template = template && b.state = .active && b.namedIdentity = "" &&
    !b.configuredNamedSession && !b.manualSession && !b.drained && !b.dependencyOnly &&
    !minActiveHardBlocked b now).insertionSort fun a b => activeBefore b a = false

def collectCreatingBeads : List AwakeSessionBead :=
  beads.filter fun b => b.template = template && isCreatingCandidateState b.state &&
    b.namedIdentity = "" && !b.configuredNamedSession && !b.manualSession && !b.drained &&
    !b.dependencyOnly

def cityStopPoolBeads : List AwakeSessionBead :=
  (beads.filter fun b => isMinActivePoolBead b template && b.state = .asleep &&
    b.sleepReason = .cityStop).insertionSort fun a b => a.id ≤ b.id

end Sessions

section Work

variable (workBeads : List AwakeWorkBead) (named : List AwakeNamedSession)

def workBeadHasAwakeDemand (work : AwakeWorkBead) : Bool :=
  match work.status with
  | .inProgress => !work.blocked
  | .isOpen => work.ready
  | .other _ => false

variable (bead : AwakeSessionBead)

def sessionAssigneeMatches (assignee : String) : Bool :=
  if assignee = "" then false
  else if assignee = bead.id ∨ assignee = bead.sessionName then true
  else if bead.namedIdentity ≠ "" then assignee = bead.namedIdentity
  else if !bead.configuredNamedSession then false
  else named.any fun ns => ns.runtimeName ≠ "" && ns.runtimeName = bead.sessionName &&
    (ns.template = "" || ns.template = bead.template) && assignee = ns.identity

def assignedWork : List AwakeWorkBead :=
  workBeads.filter fun work => trimSpace work.assignee ≠ "" && workBeadHasAwakeDemand work &&
    sessionAssigneeMatches named bead (trimSpace work.assignee)

def sessionHasAssignedWork : Bool := assignedWork workBeads named bead ≠ []

def sessionHasClaimedInProgressWork : Bool :=
  workBeads.any fun work => work.status = .inProgress &&
    sessionAssigneeMatches named bead (trimSpace work.assignee)

def countAssignedScaleSlots (beads : List AwakeSessionBead) (template : String) : Nat :=
  beads.countP fun b => b.template = template && b.state ≠ .closed && b.namedIdentity = "" &&
    !b.configuredNamedSession && !b.manualSession && sessionHasAssignedWork workBeads named b

/-- The work bead a session is anchored on: the one it was processing if that is still assigned to it,
or else the first one. -/
def anchorBead : Option String :=
  match assignedWork workBeads named bead with
  | [] => none
  | first :: rest =>
    if bead.currentlyProcessingBeadID ≠ "" ∧
        (first :: rest).any fun work => work.id = bead.currentlyProcessingBeadID then
      some bead.currentlyProcessingBeadID
    else some (((first :: rest).map AwakeWorkBead.id).find? (· ≠ "")|>.getD "")

end Work

abbrev Desired := String → Option WakeReason

def writeAll {α : Type} (m : String → Option α) (ws : List (String × α)) : String → Option α :=
  ws.foldl (fun m w => update m w.1 (some w.2)) m

section Passes

variable (input : AwakeInput)

def index : AgentIndex := input.agents.foldl AgentIndex.add {}

def lookupAgent (name : String) : Option AwakeAgent := (index input).lookupAgent name

def isSuspended (agent : Option AwakeAgent) : Bool := agent.any AwakeAgent.suspended

def isAwakeable (agent : Option AwakeAgent) : Bool := agent.any fun a => !a.suspended

def pendingCreateWrites : List (String × WakeReason) :=
  (input.sessionBeads.filter AwakeSessionBead.pendingCreate).map fun b => (b.sessionName, .pendingCreate)

def explicitWakeWrites : List (String × WakeReason) :=
  (input.sessionBeads.filter fun b => b.explicitWake && b.state ≠ .closed && !b.dependencyOnly &&
    isAwakeable ((index input).byName b.template)).map fun b => (b.sessionName, .explicitWake)

def onDemandReason (ns : AwakeNamedSession) : Option WakeReason :=
  if input.namedSessionDemand ns.identity then some .namedDemand
  else if input.namedSessionRoutedDemand ns.identity then some .routedDemand
  else if input.namedSessionWorkQ ns.identity then some .workQuery
  else none

/-- What a named session asks for, with the name it asks under: that of its bead or, without one, its
identity. A session that always runs is asked for even when its bead is drained or closed. -/
def namedWrite (ns : AwakeNamedSession) : Option (String × WakeReason) :=
  if isSuspended (lookupAgent input ns.identity) then none
  else
    match ns.mode with
    | .always =>
      let sn := resolveNamedSessionBeadName input.sessionBeads ns
      if sn ≠ "" then
        match findBeadBySessionName input.sessionBeads sn with
        | some bead => if !bead.dependencyOnly then some (sn, .namedAlways) else none
        | none => none
      else some (ns.identity, .namedAlways)
    | .onDemand =>
      match onDemandReason input ns with
      | none => none
      | some reason =>
        if isSuspended ((index input).byName ns.template) then none
        else
          let sn := resolveNamedSessionBeadName input.sessionBeads ns
          if sn ≠ "" then
            match findBeadBySessionName input.sessionBeads sn with
            | some bead =>
              if !bead.dependencyOnly ∧ !bead.drained ∧ bead.state ≠ .closed then some (sn, reason)
              else none
            | none => none
          else some (ns.identity, reason)
    | .other _ => none

def namedWrites : List (String × WakeReason) := input.namedSessions.filterMap (namedWrite input)

/-- Hand out slots in order until they are used up. A session with work of its own takes none. -/
def fillSlots (count : Int) : List AwakeSessionBead → Int → List AwakeSessionBead × Int
  | [], filled => ([], filled)
  | b :: rest, filled =>
    if count ≤ filled then ([], filled)
    else if sessionHasAssignedWork input.workBeads input.namedSessions b then fillSlots count rest filled
    else
      let later := fillSlots count rest (filled + 1)
      (b :: later.1, later.2)

/-- The sessions of a template that its demand wakes: active ones and then those being created, after
the slots of the sessions with assigned work. -/
def scaledBeads (template : String) (count : Int) : List AwakeSessionBead × List AwakeSessionBead :=
  let filled := countAssignedScaleSlots input.workBeads input.namedSessions input.sessionBeads template
  let active := fillSlots input count (collectActiveBeads input.sessionBeads template input.now) filled
  let creating := fillSlots input count (collectCreatingBeads input.sessionBeads template) active.2
  (active.1, creating.1)

def scaledTemplateWrites (entry : String × Int) : List (String × WakeReason) :=
  if entry.2 ≤ 0 then []
  else if !isAwakeable (lookupAgent input entry.1) then []
  else
    (scaledBeads input entry.1 entry.2).1.map (fun b => (b.sessionName, .scaledDemand)) ++
      (scaledBeads input entry.1 entry.2).2.map fun b => (b.sessionName, .scaledCreating)

def scaledWrites : List (String × WakeReason) :=
  input.scaleCheckCounts.rows.flatMap (scaledTemplateWrites input)

def scaleCheckCount (template : String) : Int :=
  ((input.scaleCheckCounts.find template).map Prod.snd).getD 0

def workSetWrite (entry : String × Bool) : Option (String × WakeReason) :=
  if !entry.2 then none
  else if 0 < scaleCheckCount input entry.1 then none
  else if !isAwakeable (lookupAgent input entry.1) then none
  else if isNamedSessionTemplate input.namedSessions entry.1 then none
  else
    match collectActiveBeads input.sessionBeads entry.1 input.now with
    | b :: _ => some (b.sessionName, .workQuery)
    | [] =>
      match collectCreatingBeads input.sessionBeads entry.1 with
      | b :: _ => some (b.sessionName, .workQuery)
      | [] => none

def workSetWrites : List (String × WakeReason) := input.workSet.rows.filterMap (workSetWrite input)

def manualWrites : List (String × WakeReason) :=
  (input.sessionBeads.filter fun b => b.manualSession && b.state ≠ .closed && !b.drained &&
    ((index input).byName b.template).isSome).map fun b => (b.sessionName, .manual)

def anchorWrite (b : AwakeSessionBead) : Option (String × String) :=
  if b.state = .closed then none
  else if isSuspended (lookupAgent input b.template) then none
  else (anchorBead input.workBeads input.namedSessions b).map fun anchor => (b.sessionName, anchor)

def anchorWrites : List (String × String) := input.sessionBeads.filterMap (anchorWrite input)

def assignedWorkWrites : List (String × WakeReason) :=
  (anchorWrites input).map fun w => (w.1, .assignedWork)

variable (desired : Desired)

def countMinActiveCovered (template : String) : Nat :=
  input.sessionBeads.countP fun b => isMinActivePoolBead b template &&
    !minActiveHardBlocked b input.now &&
    (if b.state = .asleep then (desired b.sessionName).isSome
      else b.state = .active || b.state = .creating)

/-- Wake sessions that a stop of the city put to sleep until enough are warm. -/
def reviveMinActive (enough : Int) : List AwakeSessionBead → Int → Desired → Desired
  | [], _, desired => desired
  | b :: rest, covered, desired =>
    if enough ≤ covered then desired
    else if (desired b.sessionName).isSome then reviveMinActive enough rest covered desired
    else if minActiveHardBlocked b input.now then reviveMinActive enough rest covered desired
    else reviveMinActive enough rest (covered + 1) (update desired b.sessionName (some .minActive))

def minActiveStep (agent : AwakeAgent) : Desired :=
  if agent.suspended ∨ agent.minActiveSessions ≤ 0 then desired
  else
    reviveMinActive input agent.minActiveSessions
      (cityStopPoolBeads input.sessionBeads agent.qualifiedName)
      (countMinActiveCovered input desired agent.qualifiedName) desired

def resetStep (b : AwakeSessionBead) : Desired :=
  if !b.continuationResetPending ∨ b.restartRequested ∨ b.waitHold then desired
  else if desired b.sessionName = some .pendingCreate ∨ desired b.sessionName = some .explicitWake then
    desired
  else update desired b.sessionName (some .resetPending)

/-- What configuration and demand ask for, without the minimum of warm sessions and the resets. -/
def demandWrites : List (String × WakeReason) :=
  pendingCreateWrites input ++ explicitWakeWrites input ++ namedWrites input ++ scaledWrites input ++
    workSetWrites input ++ manualWrites input ++ assignedWorkWrites input

def desiredSet : Desired :=
  let demand := writeAll (fun _ => none) (demandWrites input)
  let warm := input.agents.foldl (minActiveStep input) demand
  input.sessionBeads.foldl resetStep warm

end Passes

section Decisions

variable (input : AwakeInput)

def defaultOnDemandIdleTimeout : Int := 300000000000

variable (bead : AwakeSessionBead)

def inManualGracePeriod : Bool :=
  bead.manualSession && 0 < input.manualGracePeriod &&
    bead.createdAt.any fun created => input.now - created < input.manualGracePeriod

def idleTimeout : Int :=
  if bead.manualSession ∧ 0 < input.chatIdleTimeout then input.chatIdleTimeout
  else if (lookupAgent input bead.template).any fun agent => 0 < agent.sleepAfterIdle then
    ((lookupAgent input bead.template).map AwakeAgent.sleepAfterIdle).getD 0
  else if isOnDemandSession input.namedSessions bead then defaultOnDemandIdleTimeout
  else 0

def holdsClaimedWork : Bool :=
  isAwakeable (lookupAgent input bead.template) &&
    sessionHasClaimedInProgressWork input.workBeads input.namedSessions bead

def sparesIdle : Option WakeReason → Bool
  | some .assignedWork => true
  | some .minActive => true
  | some .resetPending => true
  | some .namedDemand => true
  | some .routedDemand => true
  | some .workQuery => true
  | _ => false

def idleTooLong : Bool :=
  !input.attachedSessions bead.sessionName && !input.pendingSessions bead.sessionName && !bead.pinned &&
    !holdsClaimedWork input bead && !isAlwaysNamedSession input.namedSessions bead &&
    !inManualGracePeriod input bead &&
    bead.idleSince.any fun since => 0 < idleTimeout input bead && idleTimeout input bead ≤ input.now - since

variable (desired : Desired)

/-- The demand a session wakes for. A session that waits for an answer is not woken by demand. -/
def demandDecision (bead : AwakeSessionBead) (decision : AwakeDecision) :
    AwakeDecision :=
  match desired bead.sessionName with
  | some reason =>
    if !bead.waitHold ∨ bead.pendingCreate ∨ bead.explicitWake then
      { decision with shouldWake := true, reason := reason }
    else decision
  | none => decision

variable (decision : AwakeDecision)

def overrideDecision : AwakeDecision :=
  if input.readyWaitSet bead.id then { decision with shouldWake := true, reason := .waitReady }
  else if input.pendingSessions bead.sessionName ∧ !bead.waitHold then
    { decision with shouldWake := true, reason := .pending }
  else if input.attachedSessions bead.sessionName ∧ !bead.waitHold then
    { decision with shouldWake := true, reason := .attached }
  else decision

def runningDecision : AwakeDecision :=
  if !decision.shouldWake ∧ !bead.drained ∧ !bead.waitHold ∧ bead.sleepReason ≠ .idleTimeout ∧
      input.runningSessions bead.sessionName ∧ isOnDemandSession input.namedSessions bead then
    { decision with shouldWake := true, reason := .onDemandRunning }
  else decision

def pinDecision : AwakeDecision :=
  if !decision.shouldWake ∧ bead.pinned ∧
      ¬ (bead.state = .suspended ∨ bead.state = .closed ∨ bead.drained) ∧ !bead.dependencyOnly ∧
      !bead.waitHold ∧ isAwakeable (lookupAgent input bead.template) then
    { decision with shouldWake := true, reason := .pin }
  else decision

def idleDecision (bead : AwakeSessionBead) (decision : AwakeDecision) :
    AwakeDecision :=
  if decision.shouldWake ∧ !sparesIdle (desired bead.sessionName) ∧ idleTooLong input bead then
    { decision with shouldWake := false, reason := .idleSleep }
  else decision

def blockDecision : AwakeDecision :=
  if before input.now bead.quarantinedUntil then
    { decision with shouldWake := false, reason := .quarantined }
  else if before input.now bead.heldUntil then { decision with shouldWake := false, reason := .held }
  else decision

def assignedDecision (anchors : String → Option String) (bead : AwakeSessionBead) : AwakeDecision :=
  match anchors bead.sessionName with
  | none => {}
  | some anchor =>
    { hasAssignedWork := true
      assignedWorkBeadID := anchor
      requiresFreshCycle :=
        bead.currentlyProcessingBeadID ≠ "" && anchor ≠ bead.currentlyProcessingBeadID }

def decideBead (anchors : String → Option String) (bead : AwakeSessionBead) :
    AwakeDecision :=
  blockDecision input bead (idleDecision input desired bead (pinDecision input bead
    (runningDecision input bead (overrideDecision input bead
      (demandDecision desired bead (assignedDecision anchors bead))))))

def computeAwakeSet : String → Option AwakeDecision :=
  writeAll (fun _ => none) (input.sessionBeads.map fun b =>
    (b.sessionName, decideBead input (desiredSet input)
      (writeAll (fun _ => none) (anchorWrites input)) b))

end Decisions

end Awake

end GasCity
