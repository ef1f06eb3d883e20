import GasCity.PoolSlots
import GasCity.Admission

namespace GasCity

open Function

structure PoolRig where
  name : String
  maxActiveSessions : Option Int := none

structure RouteNames where
  /-- `normalizedSessionTemplateInfo`. -/
  sessionTemplate : SessionInfo → String
  /-- `NormalizePoolRouteTarget`, then `normalizeAgentTemplateIdentity`. -/
  route : String → String
  /-- `agentTemplateIdentitiesEquivalent`. -/
  equivalent : String → String → Bool
  /-- `isConfiguredNamedSessionIdentity`. -/
  isNamedIdentity : String → Bool

/-- A city as the pool scheduler reads it. The configuration is validated: no
two agents and no two rigs have the same name. -/
structure PoolCity where
  agents : List PoolAgent
  rigs : List PoolRig := []
  workspaceMax : Option Int := none
  names : RouteNames
  agents_distinct : (agents.map PoolAgent.qualifiedName).Nodup
  rigs_distinct : (rigs.map PoolRig.name).Nodup

structure ScaleDemand where
  workBeadIDs : List String := []
  titles : String → String := fun _ => ""
  packs : String → String := fun _ => ""
  workspaces : String → String := fun _ => ""
  storeRefs : String → String := fun _ => ""
  parentSIDs : String → String := fun _ => ""
  worktreeSpecs : String → Option String := fun _ => none
  worktreeErrors : String → String := fun _ => ""

structure PoolDesiredState where
  template : String
  requests : List SessionRequest

/-- What one pass of the scheduler is given. The zero decision time is none. -/
structure PoolInput where
  assignedWorkBeads : List PoolWork
  sessionInfos : List SessionInfo
  scaleCheckCounts : String → Option Int := fun _ => none
  scaleCheckDemand : String → ScaleDemand := fun _ => {}
  decisionTime : Option Int := none

namespace SessionInfo

variable (i : SessionInfo)

def origin : String :=
  let template := trimSpace i.template
  if trimSpace i.sessionOrigin != "" then trimSpace i.sessionOrigin
  else if i.isNamedSession then "named"
  else if i.isManual then "manual"
  else if i.poolManaged || trimSpace i.poolSlot != "" || i.dependencyOnly then "ephemeral"
  else if template != "" && (0 < resolvePoolSlot (trimSpace i.storedAgentName) template ||
      0 < resolvePoolSlot (trimSpace i.sessionNameMetadata) template) then "ephemeral"
  else ""

def isEphemeral : Bool := i.origin == "ephemeral"

def isPoolManaged : Bool := i.isEphemeral || i.poolManaged || trimSpace i.poolSlot != ""

/-- `existingPoolSlotInfo`. -/
def poolSlotFor (a : PoolAgent) : Nat :=
  if a.usesCanonicalSingletonPoolIdentity then 0
  else (recordedPoolSlot i).getD (persistedIdentitySlot a i)

def isEphemeralForAgent (a : PoolAgent) : Bool :=
  i.isEphemeral ||
    (a.supportsInstanceExpansion && !i.isNamedSession && !i.isManual && 0 < i.poolSlotFor a)

def withinPostCreateProtection (decisionTime : Option Int) : Bool :=
  match decisionTime, i.creationCompleteAt with
  | some now, some completed =>
    let state := trimSpace i.metadataState
    !i.closed && !i.isDrained && !i.isFailedCreate && !i.hasProviderTerminalError &&
      (state == "active" || state == "awake") && trimSpace i.stateReason == "creation_complete" &&
      0 ≤ now - completed && now - completed < 120000000000
  | _, _ => false

def eligibleForProtectedDemand (decisionTime : Option Int) : Bool :=
  i.withinPostCreateProtection decisionTime && !i.dependencyOnly &&
    !i.isHeld (decisionTime.getD 0)

end SessionInfo

def createdBefore (i j : SessionInfo) : Prop :=
  i.createdAt < j.createdAt ∨ (i.createdAt = j.createdAt ∧ i.id ≤ j.id)

instance : DecidableRel createdBefore := fun _ _ => inferInstanceAs (Decidable (_ ∨ _))

section resume

variable (city : PoolCity) (input : PoolInput)

def PoolInput.live : List SessionInfo :=
  input.sessionInfos.filter fun i => !i.closed && !i.hasProviderTerminalError

def deferredAliasOwner (deferred : String) : Option String :=
  input.live.foldl (fun owner i =>
    if trimSpace i.poolAliasConflict != deferred || deferred == "" || i.isNamedSession then owner
    else match owner with
      | some prior => if prior != i.id then some "" else some i.id
      | none => some i.id) none

/-- The session an assignee stands for: the last that has it as an identity, or
else the one that defers it as an alias. -/
def assigneeToSessionBeadID (assignee : String) : String :=
  match input.live.reverse.find? (·.assigneeIdentities.contains assignee) with
  | some i => i.id
  | none => (deferredAliasOwner input assignee).getD ""

def sessionBeadTemplate (id : String) : String :=
  match input.live.reverse.find? fun i =>
      i.id == id && trimSpace (city.names.sessionTemplate i) != "" with
  | some i => trimSpace (city.names.sessionTemplate i)
  | none => ""

def isNamedSessionBead (id : String) : Bool := input.live.any fun i => i.id == id && i.isNamedSession

def isKnownPoolTemplate (assignee : String) : Bool :=
  trimSpace assignee != "" && city.agents.any fun a =>
    !a.suspended && a.supportsGenericEphemeralSessions &&
      city.names.equivalent (trimSpace assignee) a.qualifiedName

variable (template : String)

def workRequest (tier : RequestTier) (sessionBeadID : String) (wb : PoolWork) :
    SessionRequest where
  template
  beadPriority := wb.priority.getD 0
  tier
  sessionBeadID
  workBeadID := wb.id
  workBeadTitle := trimSpace wb.title
  workPack := trimSpace wb.pack
  workWorkspace := trimSpace wb.packWorkspace
  brainParentSID := trimSpace wb.brainParentSID

def workRoute (wb : PoolWork) (sessionBeadID : String) : String :=
  let own :=
    if wb.routedTo == "" && sessionBeadID != "" then
      let template := sessionBeadTemplate city input sessionBeadID
      match city.agents with
      | [a] => if template == "" then a.qualifiedName else template
      | _ => template
    else wb.routedTo
  city.names.route own

def assignedRequest (wb : PoolWork) : Option SessionRequest :=
  let assignee := trimSpace wb.assignee
  if !wb.actionable || assignee == "" then none
  else
    let sessionBeadID := assigneeToSessionBeadID input assignee
    let routedTo := workRoute city input wb sessionBeadID
    let sessionTemplate := sessionBeadTemplate city input sessionBeadID
    if sessionBeadID != "" && sessionTemplate != "" && routedTo != "" &&
        !city.names.equivalent routedTo sessionTemplate then none
    else if routedTo != template then none
    else if sessionBeadID != "" then
      if isNamedSessionBead input sessionBeadID then none
      else some (workRequest template .resume sessionBeadID wb)
    else if city.names.isNamedIdentity assignee then none
    else if !city.names.equivalent assignee template || !isKnownPoolTemplate city assignee then none
    else some (workRequest template .wakeKnownIdentity "" wb)

/-- One work bead for one template. A template asks at most once to be woken. -/
def resumeStep (state : List SessionRequest × List String) (wb : PoolWork) :
    List SessionRequest × List String :=
  match assignedRequest city input template wb with
  | none => state
  | some req =>
    if req.tier == .wakeKnownIdentity then
      if template ∈ state.2 then state else (state.1 ++ [req], template :: state.2)
    else (state.1 ++ [req], state.2)

def resumeRequests : List SessionRequest :=
  (city.agents.foldl (fun state a =>
    if a.suspended || !a.supportsGenericEphemeralSessions then state
    else input.assignedWorkBeads.foldl (resumeStep city input a.qualifiedName) state) ([], [])).1

def resumeSessionBeadIDs : List String :=
  ((resumeRequests city input).map SessionRequest.sessionBeadID).filter (· != "")

end resume

section newDemand

variable (city : PoolCity) (input : PoolInput)

variable (resumeIDs : List String)

def standsForDemand (a : PoolAgent) (i : SessionInfo) : Bool :=
  i.id != "" && !i.closed && !i.hasProviderTerminalError && i.id ∉ resumeIDs &&
    i.isEphemeralForAgent a && i.isPoolManaged && city.names.sessionTemplate i == a.qualifiedName

variable (template : String)

def concreteRequest (i : SessionInfo) : SessionRequest where
  template
  tier := .new
  sessionBeadID := i.id
  workBeadID := trimSpace i.triggerBeadID
  workPack := trimSpace i.pack
  workWorkspace := trimSpace i.packWorkspace
  workStoreRef := trimSpace i.triggerBeadStoreRef
  brainParentSID := trimSpace i.brainParentSID

def servingAgents : List PoolAgent :=
  city.agents.filter fun a =>
    a.qualifiedName == template && !a.suspended && a.supportsGenericEphemeralSessions

def concreteRequests (kind : SessionInfo → Bool) (template : String) :
    List SessionRequest :=
  (servingAgents city template).flatMap fun a =>
    ((input.sessionInfos.insertionSort createdBefore).filter fun i =>
      standsForDemand city resumeIDs a i && kind i).map (concreteRequest template)

def protectedNewRequests : String → List SessionRequest :=
  concreteRequests city input resumeIDs (·.eligibleForProtectedDemand input.decisionTime)

def inFlightNewRequests : String → List SessionRequest :=
  concreteRequests city input resumeIDs fun i =>
    !i.eligibleForProtectedDemand input.decisionTime && i.consumesNewDemand

/-- A wake request without a session takes the first protected one of its
template. -/
def bindWake (state : List SessionRequest × (String → List SessionRequest)) (req : SessionRequest) :
    List SessionRequest × (String → List SessionRequest) :=
  if req.tier == .wakeKnownIdentity && req.sessionBeadID == "" then
    match state.2 req.template with
    | [] => (state.1 ++ [req], state.2)
    | first :: rest =>
      (state.1 ++ [{ req with sessionBeadID := first.sessionBeadID }],
        update state.2 req.template rest)
  else (state.1 ++ [req], state.2)

/-- The requests of assigned work with their sessions, and the protected
requests that remain. -/
def boundRequests : List SessionRequest × (String → List SessionRequest) :=
  (resumeRequests city input).foldl bindWake
    ([], protectedNewRequests city input (resumeSessionBeadIDs city input))

def aliasHeld : Bool :=
  city.agents.any fun a =>
    !a.suspended && a.usesCanonicalSingletonPoolIdentity && a.qualifiedName == template &&
      input.sessionInfos.any fun i =>
        !i.closed && !i.isPoolManaged && !i.isDrained && !i.isFailedCreate &&
          (trimSpace i.aliasName == template || (i.isNamedSession && trimSpace i.template == template))

end newDemand

section allocate

variable (demand : ScaleDemand)

def withProvenance (request : SessionRequest) (workBeadID : String) : SessionRequest :=
  let workBeadID := trimSpace workBeadID
  { request with
    workBeadID
    workBeadTitle := trimSpace (demand.titles workBeadID)
    workPack := trimSpace (demand.packs workBeadID)
    workWorkspace := trimSpace (demand.workspaces workBeadID)
    workStoreRef := trimSpace (demand.storeRefs workBeadID)
    brainParentSID := trimSpace (demand.parentSIDs workBeadID)
    worktreeSpec := demand.worktreeSpecs workBeadID
    worktreeError := trimSpace (demand.worktreeErrors workBeadID) }

def uniqueDemand : List String :=
  ((demand.workBeadIDs.map trimSpace).filter (· != "")).foldl
    (fun ids id => if id ∈ ids then ids else ids ++ [id]) []

/-- First pass: requests that carry a demanded bead cover it, the first for each
bead. The flag says whether the request is covered. -/
def matchDemand (state : List (SessionRequest × Bool) × List String) (request : SessionRequest) :
    List (SessionRequest × Bool) × List String :=
  let id := trimSpace request.workBeadID
  if id ∈ uniqueDemand demand && id ∉ state.2 then
    (state.1 ++ [(withProvenance demand request id, true)], id :: state.2)
  else (state.1 ++ [(request, false)], state.2)

def rebind : List (SessionRequest × Bool) → List String → List SessionRequest × List String
  | [], remaining => ([], remaining)
  | (request, true) :: rest, remaining =>
    let (requests, left) := rebind rest remaining
    (request :: requests, left)
  | (request, false) :: rest, [] =>
    let (requests, left) := rebind rest []
    (request :: requests, left)
  | (request, false) :: rest, id :: remaining =>
    let (requests, left) := rebind rest remaining
    (withProvenance demand request id :: requests, left)

def allocateScaleDemandToConcrete (concrete : List SessionRequest) :
    List SessionRequest × List String :=
  let (allocated, matched) := concrete.foldl (matchDemand demand) ([], [])
  rebind demand allocated ((uniqueDemand demand).filter (· ∉ matched))

def anonymousRequest (template : String) (workBeadID : Option String) : SessionRequest :=
  let bare : SessionRequest := { template, tier := .new }
  match workBeadID with
  | none => bare
  | some id =>
    { bare with
      workBeadID := id
      workBeadTitle := trimSpace (demand.titles id)
      workPack := trimSpace (demand.packs id)
      workWorkspace := trimSpace (demand.workspaces id)
      workStoreRef := trimSpace (demand.storeRefs id)
      brainParentSID := trimSpace (demand.parentSIDs id)
      worktreeSpec := demand.worktreeSpecs id
      worktreeError := trimSpace (demand.worktreeErrors id) }

end allocate

/-- The caps of a city. A cap below zero is no cap. -/
structure NestedCapLimits where
  workspaceMax : Int
  rigMax : String → Int
  agentMax : String → Int
  agentRig : String → String

def resolvedMaxActiveSessions (city : PoolCity) (a : PoolAgent) : Option Int :=
  match a.maxActiveSessions with
  | some m => some m
  | none =>
    match if a.dir == "" then none
        else city.rigs.findSome? fun rig => if rig.name == a.dir then rig.maxActiveSessions else none with
    | some m => some m
    | none => city.workspaceMax

def newNestedCapLimits (city : PoolCity) : NestedCapLimits where
  workspaceMax := city.workspaceMax.getD (-1)
  rigMax name :=
    match city.rigs.reverse.find? (·.name == name) with
    | some rig => rig.maxActiveSessions.getD (-1)
    | none => -1
  agentMax template :=
    match city.agents.reverse.find? (·.qualifiedName == template) with
    | some a => (resolvedMaxActiveSessions city a).getD (-1)
    | none => 0
  agentRig template :=
    match city.agents.reverse.find? (·.qualifiedName == template) with
    | some a => a.dir
    | none => ""

structure NestedCapUsage where
  agentCount : String → Nat := fun _ => 0
  rigCount : String → Nat := fun _ => 0
  workspaceCount : Nat := 0
  seenSessionBead : String → Bool := fun _ => false

inductive CapLevel where
  | agent (template : String)
  | rig (name : String)
  | workspace
  deriving DecidableEq

namespace NestedCapUsage

variable (u : NestedCapUsage) (limits : NestedCapLimits) (req : SessionRequest)

def isDuplicateSessionRequest : Bool :=
  req.sessionBeadID != "" && u.seenSessionBead req.sessionBeadID

def rejection : Option CapLevel :=
  let rig := limits.agentRig req.template
  if 0 ≤ limits.agentMax req.template && limits.agentMax req.template ≤ u.agentCount req.template then
    some (.agent req.template)
  else if rig != "" && 0 ≤ limits.rigMax rig && limits.rigMax rig ≤ u.rigCount rig then
    some (.rig rig)
  else if 0 ≤ limits.workspaceMax && limits.workspaceMax ≤ u.workspaceCount then some .workspace
  else none

def canAccept : Bool := !u.isDuplicateSessionRequest req && (u.rejection limits req).isNone

def accept : NestedCapUsage where
  agentCount := update u.agentCount req.template (u.agentCount req.template + 1)
  rigCount :=
    let rig := limits.agentRig req.template
    if rig == "" then u.rigCount else update u.rigCount rig (u.rigCount rig + 1)
  workspaceCount := u.workspaceCount + 1
  seenSessionBead :=
    if req.sessionBeadID == "" then u.seenSessionBead
    else update u.seenSessionBead req.sessionBeadID true

end NestedCapUsage

def precedes (r r' : SessionRequest) : Bool :=
  if r.beadPriority != r'.beadPriority then r.beadPriority > r'.beadPriority
  else r.tier != r'.tier && r.tier.isResumeLike && !r'.tier.isResumeLike

def notAfter (r r' : SessionRequest) : Prop := precedes r' r = false

instance : DecidableRel notAfter := fun r r' => inferInstanceAs (Decidable (precedes r' r = false))

section caps

variable (limits : NestedCapLimits)

abbrev Acceptance := List SessionRequest × NestedCapUsage

def acceptStep (state : Acceptance) (req : SessionRequest) : Acceptance :=
  if state.2.canAccept limits req then (state.1 ++ [req], state.2.accept limits req) else state

def acceptAll (state : Acceptance) (requests : List SessionRequest) : Acceptance :=
  requests.foldl (acceptStep limits) state

def acceptedNestedCapUsage (requests : List SessionRequest) : NestedCapUsage :=
  (acceptAll limits ([], {}) (requests.insertionSort notAfter)).2

def capRoom (cap : Int) (count : Nat) (remaining : Int) : Int :=
  if 0 ≤ cap then min remaining (cap - count) else remaining

def capNewDemandCount (usage : NestedCapUsage) (template : String) (demand : Int) : Nat :=
  let rig := limits.agentRig template
  let remaining := capRoom (limits.agentMax template) (usage.agentCount template) demand
  let remaining :=
    if rig == "" then remaining else capRoom (limits.rigMax rig) (usage.rigCount rig) remaining
  (capRoom limits.workspaceMax usage.workspaceCount remaining).toNat

/-- The floor of one template. Every round accepts one request, so that the
floor itself bounds the rounds. -/
def fillMin (template : String) (minSess : Nat) : Nat → Acceptance → Acceptance
  | 0, state => state
  | rounds + 1, state =>
    let req : SessionRequest := { template, tier := .new, floorGuarantee := true }
    if minSess ≤ state.2.agentCount template then state
    else if (state.2.rejection limits req).isSome then state
    else fillMin template minSess rounds (state.1 ++ [req], state.2.accept limits req)

end caps

section schedule

variable (city : PoolCity) (input : PoolInput)

def newRequestsFor (protectedLeft : String → List SessionRequest) (resumeIDs : List String)
    (usage : NestedCapUsage) (a : PoolAgent) : List SessionRequest :=
  let template := a.qualifiedName
  let left := protectedLeft template
  let scaleCount := input.scaleCheckCounts template
  if a.suspended || (scaleCount.isNone && left.isEmpty) || aliasHeld city input template then []
  else
    let newCount := capNewDemandCount (newNestedCapLimits city) usage template
      (max (scaleCount.getD 0) left.length)
    let protectedCount := min left.length newCount
    let inFlight := (inFlightNewRequests city input resumeIDs template).take (newCount - protectedCount)
    let demand := input.scaleCheckDemand template
    let (concrete, residual) := allocateScaleDemandToConcrete demand (left.take protectedCount ++ inFlight)
    concrete ++ (List.range (newCount - (protectedCount + inFlight.length))).map fun j =>
      anonymousRequest demand template residual[j]?

def acceptNew (limits : NestedCapLimits) (usage : NestedCapUsage) (requests : List SessionRequest) :
    NestedCapUsage :=
  requests.foldl (fun usage req => usage.accept limits req) usage

def newRequests (protectedLeft : String → List SessionRequest) (resumeIDs : List String) :
    List PoolAgent → NestedCapUsage → List SessionRequest
  | [], _ => []
  | a :: agents, usage =>
    let requests := newRequestsFor city input protectedLeft resumeIDs usage a
    requests ++ newRequests protectedLeft resumeIDs agents
      (acceptNew (newNestedCapLimits city) usage requests)

def demandRequests : List SessionRequest :=
  let (bound, protectedLeft) := boundRequests city input
  newRequests city input protectedLeft (resumeSessionBeadIDs city input) city.agents
    (acceptedNestedCapUsage (newNestedCapLimits city) bound)

def fillMins (limits : NestedCapLimits) (state : Acceptance) : Acceptance :=
  city.agents.foldl (fun state a =>
    if a.suspended || aliasHeld city input a.qualifiedName then state
    else fillMin limits a.qualifiedName a.effectiveMinActiveSessions a.effectiveMinActiveSessions state)
    state

def groupByTemplate (accepted : List SessionRequest) : List PoolDesiredState :=
  ((accepted.map SessionRequest.template).dedup.insertionSort (· ≤ ·)).map fun template =>
    ⟨template, accepted.filter (·.template = template)⟩

def applyNestedCaps (requests : List SessionRequest) : List PoolDesiredState :=
  let limits := newNestedCapLimits city
  groupByTemplate
    (fillMins city input limits (acceptAll limits ([], {}) (requests.insertionSort notAfter))).1

def computePoolDesiredStates : List PoolDesiredState :=
  applyNestedCaps city input ((boundRequests city input).1 ++ demandRequests city input)

end schedule

end GasCity
