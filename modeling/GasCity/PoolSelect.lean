import GasCity.PoolSlots

namespace GasCity

/-- An agent whose sessions have numbered slots: it does not use the canonical
singleton identity. -/
abbrev SlottedAgent := { a : PoolAgent // a.usesCanonicalSingletonPoolIdentity = false }

/-- What a desired-state build knows when it fills a pool: the open sessions of
the primary store, the census of the open sessions of every store, and the
assigned work. -/
structure PoolBuild where
  names : TemplateNames
  openInfos : List SessionInfo
  occupancyInfos : List SessionInfo
  assignedWorkBeads : List PoolWork
  hasCompleteSessionSnapshot : Bool
  decisionTime : Int

inductive SelectError where
  | slotAlreadyClaimed (id : String)
  | sessionAlreadyUsed (id : String)
  | namedSession (id : String)
  | createPartial
  | freshSessionsDisabled
  | noFreshCapacity
  | noFreeSlot
  | metadata
  | providerRed
  | budgetExhausted
  deriving DecidableEq

/-- An accepted request together with what stops a fresh create for it once a
slot is claimed, if anything does: its metadata, a partial demand read, the
provider's health or the create budget. -/
structure PoolCall where
  request : SessionRequest
  createRefused : Option SelectError := none

structure PoolClaims where
  used : List String := []
  usedSlots : List Nat := []

inductive PoolChoice where
  | reuse (info : SessionInfo) (slot : Nat)
  | plan (slot : Nat)
  | rejected (err : SelectError)
  deriving DecidableEq

def PoolChoice.slot? : PoolChoice → Option Nat
  | .reuse _ slot => some slot
  | .plan slot => some slot
  | .rejected _ => none

def PoolChoice.session? : PoolChoice → Option String
  | .reuse info _ => some info.id
  | .plan _ => none
  | .rejected _ => none

/-- The lowest slot that is not taken. One slot more than there are taken ones
is enough to look at. -/
def lowestFreeSlot (taken : List Nat) : Nat :=
  ((List.range' 1 (taken.length + 1)).find? (· ∉ taken)).getD 0

def claimSlot (slot : Nat) (usedSlots : List Nat) : Option (Nat × List Nat) :=
  if slot ∈ usedSlots then none else some (slot, slot :: usedSlots)

section claim

variable (names : TemplateNames) (a : PoolAgent) (i : SessionInfo) (usedSlots : List Nat)

def claimPoolSlot : Option (Nat × List Nat) :=
  if 0 < existingPoolSlot names a i then claimSlot (existingPoolSlot names a i) usedSlots
  else some (lowestFreeSlot usedSlots, lowestFreeSlot usedSlots :: usedSlots)

def claimPreferredPoolSlot (preserveAboveCapacity : Bool) : Option (Nat × List Nat) :=
  if preserveAboveCapacity && 0 < slotAboveCapacity names a i then
    claimSlot (slotAboveCapacity names a i) usedSlots
  else claimPoolSlot names a i usedSlots

end claim

/-- The request is still backed by its work bead, and the bead is assigned
through some identity of the session. -/
def resumesAssignedWork (request : SessionRequest) (work : List PoolWork) (i : SessionInfo) : Bool :=
  let workBeadID := trimSpace request.workBeadID
  request.tier == .resume && request.sessionBeadID == i.id && workBeadID != "" &&
  match work.find? fun wb => wb.id == workBeadID && wb.actionable with
  | some wb => trimSpace wb.assignee != "" && i.assigneeIdentities.contains (trimSpace wb.assignee)
  | none => false

/-- Some actionable work bead is assigned to the session by its id, its session
name or its configured identity. -/
def hasAssignedWork (work : List PoolWork) (i : SessionInfo) : Bool :=
  work.any fun wb =>
    let assignee := trimSpace wb.assignee
    assignee != "" && wb.actionable &&
      (assignee == i.id || assignee == trimSpace i.sessionNameMetadata ||
        (trimSpace i.configuredNamedIdentity != "" && assignee == trimSpace i.configuredNamedIdentity))

/-- The lower of the agent's own maximum and the length of its namepool, where
there is one. -/
def freshUpper (a : PoolAgent) : Option Nat :=
  let own := a.maxActiveSessions.bind fun m => if m < 0 then none else some m.toNat
  if a.namepoolNames.isEmpty then own
  else some (own.elim a.namepoolNames.length (min a.namepoolNames.length))

def freshPoolSlotUpperBound (a : PoolAgent) : Except SelectError (Option Nat) :=
  if a.maxActiveSessions = some 0 then .error .freshSessionsDisabled
  else if freshUpper a = some 0 then .error .noFreshCapacity
  else .ok (freshUpper a)

namespace PoolBuild

variable (bp : PoolBuild) (a : SlottedAgent) (template : String)

def findInfoByID (id : String) : Option SessionInfo :=
  if trimSpace id == "" then none else bp.openInfos.find? (·.id == id)

def reusable (i : SessionInfo) : Bool :=
  !i.closed && !i.isDrained && !i.isFailedCreate && trimSpace i.metadataState != "draining" &&
    i.metadataState != "asleep" && !i.isManualForAgent a && !i.isNamedSession &&
    !hasAssignedWork bp.assignedWorkBeads i && bp.names.resolved i == template

def reusablePoolSessionInfos (used : List String) : List SessionInfo :=
  (bp.openInfos.filter fun i => bp.reusable a template i && i.id ∉ used).insertionSort fun i j =>
    i.createdAt < j.createdAt ∨ (i.createdAt = j.createdAt ∧ i.id ≤ j.id)

/-- An anonymous request passes over sessions that cannot run now, unless their
create is still pending. -/
def reusableForRequest (request : SessionRequest) (used : List String) : List SessionInfo :=
  let candidates := bp.reusablePoolSessionInfos a template used
  if request.sessionBeadID != "" then candidates
  else candidates.filter fun i => i.consumesNewDemand || !i.isHeld bp.decisionTime

def freshPoolOccupancyInfos : List SessionInfo :=
  (bp.occupancyInfos ++ bp.openInfos).foldl (fun infos i =>
    if trimSpace i.id != "" && infos.any (fun j => trimSpace j.id == trimSpace i.id) then infos
    else infos ++ [i]) []

def occupiedSlots (upper : Option Nat) (usedSlots : List Nat) : List Nat :=
  usedSlots ++ ((bp.freshPoolOccupancyInfos.filter (!·.isFailedCreate)).map
    (existingPoolSlot bp.names a)).filter fun slot =>
      0 < slot && upper.all (slot ≤ ·)

def claimFreshPoolSlot (usedSlots : List Nat) : Except SelectError (Nat × List Nat) := do
  let upper ← freshPoolSlotUpperBound a
  let occupied := bp.occupiedSlots a upper usedSlots
  match (List.range' 1 (upper.getD (occupied.length + 1))).find? (· ∉ occupied) with
  | some slot => .ok (slot, slot :: usedSlots)
  | none => .error .noFreeSlot

variable (call : PoolCall) (claims : PoolClaims)

def planFresh : PoolChoice × PoolClaims :=
  if !bp.hasCompleteSessionSnapshot then (.rejected .createPartial, claims)
  else match bp.claimFreshPoolSlot a claims.usedSlots with
    | .error err => (.rejected err, claims)
    | .ok (slot, usedSlots) =>
      match call.createRefused with
      | some err => (.rejected err, { claims with usedSlots := usedSlots.erase slot })
      | none => (.plan slot, { claims with usedSlots := usedSlots })

def claimReusable :
    Option (SessionInfo × Nat × List Nat) :=
  (bp.reusableForRequest a template call.request claims.used).findSome? fun i =>
    if trimSpace i.sessionNameMetadata == "" then none
    else (claimPoolSlot bp.names a i claims.usedSlots).map fun claimed => (i, claimed)

def selectOther : PoolChoice × PoolClaims :=
  match bp.claimReusable a template call claims with
  | some (i, slot, usedSlots) => (.reuse i slot, { claims with usedSlots := usedSlots })
  | none => bp.planFresh a call claims

def selectOrPlanPoolSession (preferred : Option SessionInfo) (call : PoolCall) (claims : PoolClaims) :
    PoolChoice × PoolClaims :=
  match preferred with
  | none => bp.selectOther a template call claims
  | some p =>
    if p.id == "" || p.id ∈ claims.used || p.isFailedCreate then
      bp.selectOther a template call claims
    else
      match claimPreferredPoolSlot bp.names a p claims.usedSlots
          (resumesAssignedWork call.request bp.assignedWorkBeads p) with
      | none => (.rejected (.slotAlreadyClaimed p.id), claims)
      | some (slot, usedSlots) => (.reuse p slot, { claims with usedSlots := usedSlots })

def preferredFor (request : SessionRequest) : Option SessionInfo :=
  if request.sessionBeadID == "" then none else bp.findInfoByID request.sessionBeadID

def markUsed : PoolChoice × PoolClaims → PoolChoice × PoolClaims
  | (.reuse i slot, claims) =>
    if i.id ∈ claims.used then (.rejected (.sessionAlreadyUsed i.id), claims)
    else (.reuse i slot, { claims with used := i.id :: claims.used })
  | (.plan slot, claims) => (.plan slot, claims)
  | (.rejected err, claims) => (.rejected err, claims)

/-- The bead of a named session is not materialised as an instance of the pool. -/
def planItem : PoolChoice × PoolClaims :=
  match (bp.preferredFor call.request).filter SessionInfo.isNamedSession with
  | some named => (.rejected (.namedSession named.id), claims)
  | none => markUsed (bp.selectOrPlanPoolSession a template (bp.preferredFor call.request) call claims)

def planItems : List PoolCall → PoolClaims → List PoolChoice
  | [], _ => []
  | call :: calls, claims =>
    let (choice, after) := bp.planItem a template call claims
    choice :: planItems calls after

def realizePoolDesiredSessions (calls : List PoolCall) : List PoolChoice :=
  bp.planItems a template calls {}

end PoolBuild

end GasCity
