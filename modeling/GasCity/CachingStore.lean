import GasCity.Bead

namespace GasCity

inductive CacheState where
  | cacheUninitialized
  | cachePartial
  | cacheLive
  | cacheDegraded
  deriving DecidableEq

/-- The cache behind its lock. A row is cached under its own id. `bdBacking` says whether the
backing is a BdStore, and `advances` counts the calls of `advanceObservationLocked`. -/
structure CachingStore where
  ownsBeadID : String → Bool := fun _ => true
  bdBacking : Bool := false
  beads : BeadMap := KeyedList.empty
  deps : FinMap String (List Dep) := ∅
  depsComplete : Bool := false
  dirty : FinMap String Unit := ∅
  beadSeq : FinMap String Nat := ∅
  localBeadAt : FinMap String Time := ∅
  deletedSeq : FinMap String Nat := ∅
  readyProjectionLost : FinMap String Unit := ∅
  state : CacheState := .cacheUninitialized
  mutationSeq : Nat := 0
  reservedMutations : Nat := 0
  observationRevision : UInt64 := 0
  advances : Nat := 0
  primePartialErr : Option String := none
  readyProjectionDegraded : Bool := false
  syncFailures : Nat := 0

namespace CachingStore

variable (c : CachingStore) (id : String)

/-- A map read with the zero value for an absent key. -/
def depsOf : List Dep := (c.deps.lookup id).getD []

def beadSeqOf : Nat := (c.beadSeq.lookup id).getD 0

def deletedSeqOf : Nat := (c.deletedSeq.lookup id).getD 0

def localBeadAtOf : Time := (c.localBeadAt.lookup id).getD 0

def setDeps (deps : List Dep) : CachingStore :=
  { c with deps := c.deps.insert id deps }

def advanceObservationLocked : CachingStore :=
  { c with
    observationRevision :=
      if c.observationRevision = 18446744073709551615 then 1 else c.observationRevision + 1
    advances := c.advances + 1 }

end CachingStore

def recentLocalMutation (mutatedAt now : Time) : Bool :=
  decide (mutatedAt ≠ 0) && decide (now - mutatedAt ≤ 5000000000)

inductive AbsorbDepsMode where
  | depsExplicit
  | depsFromFields
  | depsFromFieldsIfCarried
  | depsKeepCached
  | depsDrop

inductive AbsorbSeqMode where
  | seqKeep
  | seqClearGuarded
  | seqClearBeadSeqOnly
  deriving DecidableEq

inductive AbsorbReadyMode where
  | readyPreserveWhenDepsUnchanged
  | readyFromFresh
  deriving DecidableEq

structure AbsorbOpts where
  depsMode : AbsorbDepsMode := .depsExplicit
  deps : List Dep := []
  seqMode : AbsorbSeqMode := .seqKeep
  readyMode : AbsorbReadyMode := .readyPreserveWhenDepsUnchanged
  clearDirty : Bool := false

def effectiveAbsorbDeps (cached : List Dep) (bead : Bead) (opts : AbsorbOpts) : List Dep :=
  match opts.depsMode with
  | .depsExplicit => opts.deps
  | .depsFromFields => depsFromBeadFields bead
  | .depsFromFieldsIfCarried =>
    if beadCarriesDependencyFields bead then depsFromBeadFields bead else cached
  | .depsDrop => []
  | .depsKeepCached => cached

namespace CachingStore

variable (c : CachingStore) (id : String)

def markReadyProjectionLostLocked : CachingStore :=
  { c with readyProjectionLost := c.readyProjectionLost.insert id () }

def absorbReadyProjectionLocked (bead : Bead) (opts : AbsorbOpts) :
    CachingStore × Bead :=
  if bead.isBlocked ≠ none then
    ({ c with readyProjectionLost := c.readyProjectionLost.erase bead.id }, bead)
  else
    match c.beads.find bead.id with
    | none => (c, bead)
    | some cached =>
      if cached.isBlocked = none then (c, bead)
      else
        let freshDeps := effectiveAbsorbDeps (c.depsOf bead.id) bead opts
        if opts.readyMode = .readyPreserveWhenDepsUnchanged ∧
            depsChanged (c.depsOf bead.id) freshDeps = false then
          ({ c with readyProjectionLost := c.readyProjectionLost.erase bead.id },
            { bead with isBlocked := cached.isBlocked })
        else (c.markReadyProjectionLostLocked bead.id, bead)

def absorbDeps (deps : FinMap String (List Dep)) (bead : Bead) (opts : AbsorbOpts) :
    FinMap String (List Dep) :=
  match opts.depsMode with
  | .depsExplicit => deps.insert bead.id opts.deps
  | .depsFromFields => deps.insert bead.id (depsFromBeadFields bead)
  | .depsFromFieldsIfCarried =>
    if beadCarriesDependencyFields bead then deps.insert bead.id (depsFromBeadFields bead) else deps
  | .depsKeepCached => deps
  | .depsDrop => deps.erase bead.id

def installFresh (bead : Bead) (opts : AbsorbOpts) : CachingStore :=
  { c with
    beads := c.beads.set bead
    deps := absorbDeps c.deps bead opts
    dirty := if opts.clearDirty then c.dirty.erase bead.id else c.dirty
    deletedSeq := c.deletedSeq.erase bead.id }

def settleFences (now : Time) (mode : AbsorbSeqMode) :
    CachingStore :=
  match mode with
  | .seqKeep => c
  | .seqClearGuarded =>
    if c.reservedMutations = 0 ∧ recentLocalMutation (c.localBeadAtOf id) now = false then
      { c with beadSeq := c.beadSeq.erase id, localBeadAt := c.localBeadAt.erase id }
    else c
  | .seqClearBeadSeqOnly => { c with beadSeq := c.beadSeq.erase id }

def absorbFreshLocked (bead : Bead) (now : Time) (opts : AbsorbOpts) :
    CachingStore :=
  let c := c.advanceObservationLocked
  let (c, bead) := c.absorbReadyProjectionLocked bead opts
  (c.installFresh bead opts).settleFences bead.id now opts.seqMode

def evictLocked : CachingStore :=
  let c := c.advanceObservationLocked
  { c with
    beads := c.beads.erase id
    deps := c.deps.erase id
    dirty := c.dirty.erase id
    deletedSeq := c.deletedSeq.erase id
    beadSeq := c.beadSeq.erase id
    localBeadAt := c.localBeadAt.erase id
    readyProjectionLost := c.readyProjectionLost.erase id }

def tombstoneLocked (seq : Nat) : CachingStore :=
  let c := c.evictLocked id
  { c with deletedSeq := c.deletedSeq.insert id seq }

def markDirtyLocked : CachingStore :=
  let c := c.advanceObservationLocked
  { c with dirty := c.dirty.insert id () }

def clearStalenessMarksLocked : CachingStore :=
  { c with dirty := c.dirty.erase id, deletedSeq := c.deletedSeq.erase id }

def noteMutationLocked (ids : List String) : CachingStore :=
  let c := c.advanceObservationLocked
  let seq := c.mutationSeq + 1
  { c with
    mutationSeq := seq
    beadSeq := ids.foldl (fun m id => if id = "" then m else m.insert id seq) c.beadSeq }

def noteLocalMutationLocked (ids : List String) (now : Time) : CachingStore :=
  let c := c.noteMutationLocked ids
  { c with
    localBeadAt := ids.foldl (fun m id => if id = "" then m else m.insert id now) c.localBeadAt }

def noteReservedLocalMutationLocked (seq : Nat) (now : Time) :
    CachingStore × Bool :=
  if seq < c.beadSeqOf id ∨ seq < c.deletedSeqOf id then (c, false)
  else
    let c := c.advanceObservationLocked
    ({ c with
      beadSeq := c.beadSeq.insert id seq
      localBeadAt := c.localBeadAt.insert id now }, true)

def promoteLiveLocked : CachingStore := { c with state := .cacheLive }

def recentLocalBeadConflictLocked (fresh : Bead) (now : Time) (skipLabels : Bool) : Option Bead :=
  match c.beads.find fresh.id with
  | none => none
  | some current =>
    if recentLocalMutation (c.localBeadAtOf fresh.id) now = false then none
    else if beadChanged current fresh skipLabels = false then none
    else some current

def readyPredicateCanAnswerLocked (deps : List Dep) : Bool :=
  deps.all (fun dep =>
    isReadyBlockingDependencyType dep.type && (c.beads.find dep.dependsOnID).isSome)

def readyProjectionUnknownLocked : Bool :=
  (c.readyProjectionLost.lookup id).isSome && !c.readyPredicateCanAnswerLocked (c.depsOf id)

def cacheServableLocked : Bool :=
  (c.state == .cacheLive || c.state == .cachePartial) && c.primePartialErr == none

end CachingStore

end GasCity
