import Mathlib.Algebra.Group.Int.Defs
import GasCity.MemStore

namespace GasCity

/-- A decimal number as Atoi reads it: the value, clamped to 64 bits, and
whether the text was a number in range. -/
def atoi (text : String) : Int × Bool :=
  let unsigned (negative : Bool) (digits : List Char) : Int × Bool :=
    if digits.isEmpty || !digits.all Char.isDigit then (0, false)
    else
      let n : Int := digits.foldl (fun n ch => n * 10 + (ch.toNat - '0'.toNat : Nat)) 0
      if negative then
        if n ≤ 2 ^ 63 then (-n, true) else (-2 ^ 63, false)
      else
        if n < 2 ^ 63 then (n, true) else (2 ^ 63 - 1, false)
  match text.toList with
  | '-' :: digits => unsigned true digits
  | '+' :: digits => unsigned false digits
  | digits => unsigned false digits

def cutPrefix (head text : String) : Option String :=
  if head.toList.isPrefixOf text.toList then some (String.ofList (text.toList.drop head.length))
  else none

structure PoolAgent where
  name : String
  bindingName : String := ""
  dir : String := ""
  suspended : Bool := false
  namepool : String := ""
  namepoolNames : List String := []
  maxActiveSessions : Option Int := none
  minActiveSessions : Option Int := none
  scaleCheck : String := ""

namespace PoolAgent

variable (a : PoolAgent)

def bindingQualifiedName : String :=
  if a.bindingName == "" then a.name else a.bindingName ++ "." ++ a.name

def qualifiedInstanceName (instanceName : String) : String :=
  let name := if a.bindingName == "" then instanceName else a.bindingName ++ "." ++ instanceName
  if a.dir == "" then name else a.dir ++ "/" ++ name

def qualifiedName : String :=
  if a.dir == "" then a.bindingQualifiedName else a.dir ++ "/" ++ a.bindingQualifiedName

def hasNamepool : Bool := trimSpace a.namepool != "" || !a.namepoolNames.isEmpty

def effectiveMinActiveSessions : Nat := (a.minActiveSessions.getD 0).toNat

def supportsGenericEphemeralSessions : Bool := a.maxActiveSessions != some 0

def supportsMultipleSessions : Bool := a.hasNamepool || a.maxActiveSessions != some 1

def usesCanonicalSingletonPoolIdentity : Bool := !a.hasNamepool && a.maxActiveSessions == some 1

def supportsInstanceExpansion : Bool :=
  a.hasNamepool ||
  match a.maxActiveSessions with
  | none => true
  | some m =>
    m < 0 || m > 1 || a.minActiveSessions.isSome || trimSpace a.scaleCheck != ""

end PoolAgent

/-- A session as the desired-state build reads it. The times are nanoseconds;
a time that is empty or cannot be read is none. -/
structure SessionInfo where
  id : String
  createdAt : Int := 0
  closed : Bool := false
  template : String := ""
  commonName : String := ""
  agentName : String := ""
  labels : List String := []
  aliasName : String := ""
  aliasHistory : List String := []
  sessionNameMetadata : String := ""
  configuredNamedSession : Bool := false
  configuredNamedIdentity : String := ""
  poolManaged : Bool := false
  poolSlot : String := ""
  poolAliasConflict : String := ""
  sessionOrigin : String := ""
  manualSessionMetadata : String := ""
  dependencyOnly : Bool := false
  metadataState : String := ""
  stateReason : String := ""
  sleepReason : String := ""
  creationCompleteAt : Option Int := none
  pendingCreateClaim : Bool := false
  waitHold : String := ""
  heldUntil : Option Int := none
  quarantinedUntil : Option Int := none
  providerTerminalError : String := ""
  healthState : String := ""
  healthReason : String := ""
  drainable : Bool := false
  triggerBeadID : String := ""
  triggerBeadStoreRef : String := ""
  pack : String := ""
  packWorkspace : String := ""
  brainParentSID : String := ""
  deriving DecidableEq

namespace SessionInfo

variable (i : SessionInfo)

def isNamedSession : Bool := i.configuredNamedSession

def isFailedCreate : Bool := trimSpace i.metadataState == "failed-create"

def isDrained : Bool :=
  let state := trimSpace i.metadataState
  state == "drained" || (state == "asleep" && trimSpace i.sleepReason == "drained")

def isManual : Bool :=
  trimSpace i.sessionOrigin == "manual" || i.manualSessionMetadata == "true"

def isLegacyManualForAgent (a : PoolAgent) : Bool :=
  a.supportsMultipleSessions && trimSpace i.sessionOrigin == "ephemeral" && !i.isNamedSession &&
    !i.poolManaged && trimSpace i.poolSlot == "" && !i.dependencyOnly

def isManualForAgent (a : PoolAgent) : Bool := i.isManual || i.isLegacyManualForAgent a

def hasProviderTerminalError : Bool :=
  trimSpace i.providerTerminalError != "" ||
    (trimSpace i.healthState == "unhealthy" && i.drainable && trimSpace i.healthReason != "")

def consumesNewDemand : Bool :=
  i.pendingCreateClaim || trimSpace i.metadataState == "creating" ||
    trimSpace i.metadataState == "start-pending"

def storedTemplate : String :=
  if trimSpace i.template != "" then trimSpace i.template else trimSpace i.commonName

def storedAgentName : String :=
  if i.agentName != "" then i.agentName
  else (i.labels.findSome? (cutPrefix "agent:")).getD ""

def assigneeIdentities : List String :=
  ([i.id, i.sessionNameMetadata, i.configuredNamedIdentity, i.aliasName] ++ i.aliasHistory).map trimSpace
    |>.filter (· != "")

/-- The name derived from the template and the id ends in the id too, so the
test against it is part of this one. -/
def ownsPoolSessionName : Bool :=
  let id := trimSpace i.id
  let sn := trimSpace i.sessionNameMetadata
  id != "" && sn != "" && ("-" ++ id).toList.isSuffixOf sn.toList

end SessionInfo

/-- `metadataTimeInFuture`. -/
def inFuture (raw : Option Int) (now : Int) : Bool :=
  match raw with
  | some t => now < t
  | none => false

def SessionInfo.isHeld (i : SessionInfo) (decisionTime : Int) : Bool :=
  trimSpace i.waitHold != "" || inFuture i.heldUntil decisionTime ||
    inFuture i.quarantinedUntil decisionTime

structure PoolWork where
  id : String
  status : String := "open"
  assignee : String := ""
  title : String := ""
  priority : Option Int := none
  routedTo : String := ""
  pack : String := ""
  packWorkspace : String := ""
  brainParentSID : String := ""

def PoolWork.actionable (wb : PoolWork) : Bool := wb.status == "open" || wb.status == "in_progress"

inductive RequestTier where
  | resume
  | wakeKnownIdentity
  | new
  deriving DecidableEq

def RequestTier.isResumeLike : RequestTier → Bool
  | .resume => true
  | .wakeKnownIdentity => true
  | .new => false

structure SessionRequest where
  template : String
  beadPriority : Int := 0
  tier : RequestTier
  sessionBeadID : String := ""
  workBeadID : String := ""
  workBeadTitle : String := ""
  workPack : String := ""
  workWorkspace : String := ""
  workStoreRef : String := ""
  brainParentSID : String := ""
  worktreeSpec : Option String := none
  worktreeError : String := ""
  floorGuarantee : Bool := false
  deriving DecidableEq

/-- How stored template names resolve against the city's configuration. -/
structure TemplateNames where
  /-- `storedTemplateMatchesPoolTemplate`, true where no city is given. -/
  matchesPool : String → String → Bool
  /-- `resolvedSessionTemplateInfo`. -/
  resolved : SessionInfo → String

end GasCity
