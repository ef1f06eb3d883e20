import GasCity.PoolSession

namespace GasCity

/-- The slot in an instance name, of the form "template-n" or, in the legacy
form, "template-gc-n". A number that is not positive is no slot. -/
def resolvePoolSlot (agentName template : String) : Nat :=
  match cutPrefix (template ++ "-") agentName with
  | none => 0
  | some suffix =>
    match atoi suffix with
    | (slot, true) => slot.toNat
    | (_, false) =>
      match cutPrefix "gc-" suffix with
      | some legacy => (atoi legacy).1.toNat
      | none => 0

namespace PoolAgent

variable (a : PoolAgent)

def namepoolSlot (name : String) : Nat :=
  match a.namepoolNames.findIdx? fun themed =>
      let themed := trimSpace themed
      themed != "" && (themed == name || trimSpace (a.qualifiedInstanceName themed) == name) with
  | some idx => idx + 1
  | none => 0

def identitySlot (allowLocalIdentity : Bool) (candidate : String) : Nat :=
  let name := trimSpace candidate
  if name == "" then 0
  else if 0 < resolvePoolSlot name a.qualifiedName then resolvePoolSlot name a.qualifiedName
  else if a.bindingName != "" && 0 < resolvePoolSlot name a.bindingQualifiedName then
    resolvePoolSlot name a.bindingQualifiedName
  else if a.bindingName == "" && allowLocalIdentity && 0 < resolvePoolSlot name a.name then
    resolvePoolSlot name a.name
  else a.namepoolSlot name

def poolSlotHasConfiguredBound : Bool := !a.namepoolNames.isEmpty || a.maxActiveSessions.isSome

variable (slot : Nat)

def withinMax : Bool :=
  match a.maxActiveSessions with
  | some m => m ≤ 0 || (slot : Int) ≤ m
  | none => true

def withinNamepool : Bool :=
  a.namepoolNames.isEmpty || slot ≤ a.namepoolNames.length

def inBoundsPoolSlot : Bool :=
  0 < slot && a.poolSlotHasConfiguredBound && a.withinNamepool slot && a.withinMax slot

def usablePoolIdentitySlot : Bool :=
  0 < slot && (!a.poolSlotHasConfiguredBound || a.inBoundsPoolSlot slot)

end PoolAgent

section slots

variable (names : TemplateNames) (a : PoolAgent) (i : SessionInfo)

def storedTemplateMatches : Bool := names.matchesPool i.storedTemplate a.qualifiedName

def sessionNameSlot : Nat :=
  if storedTemplateMatches names a i && trimSpace i.aliasName == "" && !i.ownsPoolSessionName then
    a.identitySlot true i.sessionNameMetadata
  else 0

def recordedPoolSlot : Option Nat :=
  match atoi (trimSpace i.poolSlot) with
  | (slot, true) => if 0 < slot then some slot.toNat else none
  | (_, false) => none

def existingPoolSlot : Nat :=
  if a.usesCanonicalSingletonPoolIdentity then 0
  else
    let storedMatches := storedTemplateMatches names a i
    let agentSlot := a.identitySlot storedMatches i.storedAgentName
    let aliasSlot := a.identitySlot storedMatches i.aliasName
    let nameSlot := sessionNameSlot names a i
    match recordedPoolSlot i with
    | some slot =>
      if 0 < agentSlot && agentSlot != slot && a.usablePoolIdentitySlot agentSlot then agentSlot
      else if !storedMatches && agentSlot == 0 && aliasSlot == 0 then 0
      else if a.inBoundsPoolSlot slot then slot
      else if a.usablePoolIdentitySlot agentSlot then agentSlot
      else if a.usablePoolIdentitySlot aliasSlot then aliasSlot
      else if a.usablePoolIdentitySlot nameSlot then nameSlot
      else if a.poolSlotHasConfiguredBound then 0
      else slot
    | none =>
      if a.usablePoolIdentitySlot agentSlot then agentSlot
      else if a.usablePoolIdentitySlot aliasSlot then aliasSlot
      else if a.usablePoolIdentitySlot nameSlot then nameSlot
      else 0

def persistedIdentitySlot : Nat :=
  if a.identitySlot true i.storedAgentName != 0 then a.identitySlot true i.storedAgentName
  else if a.identitySlot true i.aliasName != 0 then a.identitySlot true i.aliasName
  else if trimSpace i.aliasName == "" && !i.ownsPoolSessionName then
    a.identitySlot true i.sessionNameMetadata
  else 0

def slotAboveCapacity : Nat :=
  if a.usesCanonicalSingletonPoolIdentity || !storedTemplateMatches names a i then 0
  else match a.maxActiveSessions with
    | none => 0
    | some m =>
      if m ≤ 0 then 0
      else if (persistedIdentitySlot a i : Int) ≤ m || !a.withinNamepool (persistedIdentitySlot a i) then 0
      else persistedIdentitySlot a i

end slots

end GasCity
