import GasCity.CacheEvents

namespace GasCity

inductive GetError where
  | notFound
  | failed

abbrev BackingGet := String → Except GetError Bead

/-- What an event's read phase saw of the cached row, under the read lock. -/
structure EventRead where
  cached : Bool := false
  conflictBase : Bead := {}
  seqBase : Nat := 0
  locallyMutated : Bool := false
  recentlyLocal : Bool := false
  locallyDeleted : Bool := false
  fieldConflictCached : Bool := false
  dependencyConflictCached : Bool := false

def EventRead.conflictsCached (r : EventRead) : Bool :=
  r.fieldConflictCached || r.dependencyConflictCached

/-- What an event carries from its reads of the backing into its commit section. -/
structure EventVerified where
  bead : Bead
  refreshedFromBacking : Bool := false
  verifiedConflict : Bool := false
  verifiedClosedBase : Bead := {}
  verifiedClosedFromBacking : Bool := false
  verifiedRecentLocal : Bool := false
  verifiedRecentLocalBase : Bead := {}
  seqBase : Nat := 0

/-- How the reads of the backing end: the event is dropped, dropped with the row marked dirty,
or goes on to its commit section. -/
inductive EventVerdict where
  | drop
  | dropDirty
  | commit (v : EventVerified)

namespace CachingStore

def depsKnownLocked (c : CachingStore) (id : String) : Bool :=
  (c.deps.lookup id).isSome || c.depsComplete

def applyEventRead (c : CachingStore) (patch : Bead) (fields : BeadPayload) (now : Time) :
    EventRead :=
  let current := c.beads.find patch.id
  let fieldConflict := current.any (fun cur => cacheEventConflictsCurrent cur patch fields)
  let dependencyConflict := current.isSome &&
    cacheEventDependencyConflict (c.depsOf patch.id) (c.depsKnownLocked patch.id) patch fields
  { cached := current.isSome
    conflictBase := if fieldConflict || dependencyConflict then current.getD {} else {}
    seqBase := c.beadSeqOf patch.id
    locallyMutated := (c.beadSeq.lookup patch.id).isSome
    recentlyLocal := recentLocalMutation (c.localBeadAtOf patch.id) now
    locallyDeleted := (c.deletedSeq.lookup patch.id).isSome
    fieldConflictCached := fieldConflict
    dependencyConflictCached := dependencyConflict }

end CachingStore

/-- A close that conflicts with the cached row must be confirmed by the backing. -/
def verifyClosedEvent (get : BackingGet) (eventType : EventType) (patch : Bead)
    (r : EventRead) : Option EventVerified :=
  if r.conflictsCached ∧ eventType = .beadClosed then
    match get patch.id with
    | .error _ => none
    | .ok fresh =>
      if fresh.status ≠ "closed" then none
      else if closedEventPayloadNeedsBackingRefresh patch fresh then
        some
          { bead := fresh, verifiedConflict := true, verifiedClosedBase := r.conflictBase
            verifiedClosedFromBacking := true, seqBase := r.seqBase }
      else
        some
          { bead := patch, verifiedConflict := true, verifiedClosedBase := r.conflictBase
            seqBase := r.seqBase }
  else some { bead := patch, seqBase := r.seqBase }

/-- A conflict with a locally mutated row must be confirmed by the backing. -/
def verifyMutatedEvent (get : BackingGet) (eventType : EventType) (patch : Bead)
    (fields : BeadPayload) (r : EventRead) (v : EventVerified) : EventVerdict :=
  if r.conflictsCached ∧ eventType ≠ .beadClosed ∧ r.locallyMutated ∧ ¬ r.recentlyLocal ∧
      ¬ v.verifiedConflict then
    match get patch.id with
    | .error _ => .drop
    | .ok fresh =>
      if cacheEventPatchMatchesBead fresh patch fields then
        .commit
          { v with verifiedRecentLocal := true, verifiedRecentLocalBase := r.conflictBase }
      else if r.fieldConflictCached then .dropDirty
      else .drop
  else if (r.fieldConflictCached ∨ r.dependencyConflictCached) ∧ eventType ≠ .beadClosed ∧
      r.locallyMutated ∧ ¬ v.verifiedConflict then .drop
  else .commit v

/-- A conflict with a recent local write is dropped unless the backing agrees or is unreadable. -/
def verifyRecentEvent (get : BackingGet) (patch : Bead) (fields : BeadPayload)
    (r : EventRead) (v : EventVerified) : Option EventVerified :=
  if r.conflictsCached ∧ r.recentlyLocal ∧ ¬ v.verifiedConflict then
    match get patch.id with
    | .ok fresh =>
      if cacheEventPatchMatchesBead fresh patch fields then
        some { v with verifiedRecentLocal := true, verifiedRecentLocalBase := r.conflictBase }
      else none
    | .error _ =>
      some { v with verifiedRecentLocal := true, verifiedRecentLocalBase := r.conflictBase }
  else some v

def refreshEventBead (get : BackingGet) (eventType : EventType) (patch : Bead)
    (r : EventRead) (v : EventVerified) : Option EventVerified :=
  if v.verifiedClosedFromBacking then some { v with refreshedFromBacking := true }
  else if !r.cached then
    match get patch.id with
    | .ok fresh => some { v with bead := fresh, refreshedFromBacking := true }
    | .error .notFound =>
      if eventType ≠ .beadCreated ∧ r.locallyDeleted then none else some v
    | .error .failed => some v
  else some v

def applyEventVerify (get : BackingGet) (eventType : EventType) (patch : Bead)
    (fields : BeadPayload) (r : EventRead) : EventVerdict :=
  match verifyClosedEvent get eventType patch r with
  | none => .drop
  | some v =>
    match verifyMutatedEvent get eventType patch fields r v with
    | .drop => .drop
    | .dropDirty => .dropDirty
    | .commit v =>
      match verifyRecentEvent get patch fields r v with
      | none => .drop
      | some v =>
        match refreshEventBead get eventType patch r v with
        | none => .drop
        | some v => .commit v

namespace CachingStore

variable (c : CachingStore)

def eventStale (eventType : EventType) (current patch : Bead)
    (fields : BeadPayload) (v : EventVerified) (now : Time) : Bool :=
  cacheEventConflictsCached current (c.depsOf patch.id) (c.depsKnownLocked patch.id) patch fields &&
    if eventType = .beadClosed then
      !v.verifiedConflict || beadChanged current v.verifiedClosedBase false
    else
      let changedSinceVerify := beadChanged current v.verifiedRecentLocalBase false ||
        c.beadSeqOf patch.id != v.seqBase
      (recentLocalMutation (c.localBeadAtOf patch.id) now || (c.beadSeq.lookup patch.id).isSome) &&
        (!v.verifiedRecentLocal || changedSinceVerify)

def eventServable : Bool := c.state == .cacheLive || c.state == .cachePartial

def applyEventCommit (eventType : EventType) (patch : Bead)
    (fields : BeadPayload) (depsAuthoritative : Bool) (v : EventVerified) (now : Time) :
    CachingStore :=
  if !c.eventServable then c
  else
    let depsKnown := v.refreshedFromBacking || depsAuthoritative
    match c.beads.find patch.id with
    | none => c.applyEventRow eventType v.bead fields depsKnown now
    | some current =>
      if c.eventStale eventType current patch fields v now then c
      else if eventType ≠ .beadClosed ∨ !v.verifiedClosedFromBacking then
        c.applyEventRow eventType (mergeCacheEventPatch current patch fields) fields depsKnown now
      else c.applyEventRow eventType v.bead fields depsKnown now

def applyEvent (get : BackingGet) (eventType : EventType)
    (payload : EventPayload) (depsAuthoritative : Bool) (now : Time) : CachingStore :=
  match decodeCacheEvent payload with
  | none => c
  | some (patch, fields) =>
    if !c.ownsBeadID patch.id then c
    else if !c.eventServable then c
    else
      match applyEventVerify get eventType patch fields (c.applyEventRead patch fields now) with
      | .drop => c
      | .dropDirty => c.markDirtyLocked patch.id
      | .commit v => c.applyEventCommit eventType patch fields depsAuthoritative v now

def ApplyEventSnapshot (get : BackingGet)
    (eventType : EventType) (payload : EventPayload) (now : Time) : CachingStore :=
  c.applyEvent get eventType payload true now

def ApplyDepEvent (beadID : String) (deps : List Dep) : CachingStore :=
  if !c.eventServable then c
  else
    let c := c.noteMutationLocked [beadID]
    let c := ((c.setDeps beadID deps).clearReadyProjectionLocked beadID).1
    c.clearStalenessMarksLocked beadID

end CachingStore

end GasCity
