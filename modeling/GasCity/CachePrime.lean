import GasCity.ReconcilePass

namespace GasCity

/-- What a prime reads of the backing: the listed rows, their dependency sets, whether those are
all there, and the error of a partial list. -/
structure PrimeRead where
  rows : List Bead := []
  depMap : FinMap String (List Dep) := ∅
  depsComplete : Bool := false
  partialErr : Option String := none

def depsFromBeads (beadMap : BeadMap) (depMap : FinMap String (List Dep)) (useDepMap : Bool) :
    FinMap String (List Dep) :=
  beadMap.rows.foldl (fun deps b =>
    deps.insert b.id
      (if useDepMap then (depMap.lookup b.id).getD [] else depsFromBeadFields b)) ∅

def primeOpts (read : PrimeRead) (seqMode : AbsorbSeqMode) (id : String) : AbsorbOpts where
  depsMode := if read.depsComplete then .depsExplicit else .depsFromFields
  deps := if read.depsComplete then (read.depMap.lookup id).getD [] else []
  seqMode := seqMode

namespace CachingStore

def primeActiveItem (read : PrimeRead) (startSeq : Nat) (now : Time) (c : CachingStore) (b : Bead) :
    CachingStore :=
  if c.mutationSeq ≠ startSeq ∧
      (startSeq < c.deletedSeqOf b.id ∨ (c.beads.find b.id).isSome) then c
  else if (c.recentLocalBeadConflictLocked b now false).isSome then c
  else c.absorbFreshLocked b now (primeOpts read .seqClearGuarded b.id)

variable (c : CachingStore)

def primeActiveCommit (read : PrimeRead) (startSeq : Nat) (now : Time) :
    CachingStore :=
  let c := read.rows.foldl (primeActiveItem read startSeq now) c
  let c := { c with
    state := if c.state = CacheState.cacheUninitialized then .cachePartial else c.state
    primePartialErr := read.partialErr }
  c.advanceObservationLocked

structure PrimeNext where
  beads : BeadMap
  deps : FinMap String (List Dep)
  dirty : FinMap String Unit := ∅
  beadSeq : FinMap String Nat := ∅
  localBeadAt : FinMap String Time := ∅
  readyProjectionLost : FinMap String Unit := ∅

def carry {α : Type} (source target : FinMap String α) (id : String) : FinMap String α :=
  match source.lookup id with
  | some v => target.insert id v
  | none => target

/-- A cached row that a recent local write keeps through a full prime. -/
def primeKeeps (beadMap : BeadMap) (now : Time) (current : Bead) : Bool :=
  match beadMap.find current.id with
  | some fresh => (c.recentLocalBeadConflictLocked fresh now true).isSome
  | none => current.status != "closed" && recentLocalMutation (c.localBeadAtOf current.id) now

def carryRow (beadMap : BeadMap) (now : Time) (next : PrimeNext) (current : Bead) : PrimeNext :=
  if c.primeKeeps beadMap now current then
    { beads := next.beads.set current
      deps := carry c.deps next.deps current.id
      dirty := carry c.dirty next.dirty current.id
      beadSeq := carry c.beadSeq next.beadSeq current.id
      localBeadAt := carry c.localBeadAt next.localBeadAt current.id
      readyProjectionLost := carry c.readyProjectionLost next.readyProjectionLost current.id }
  else next

def primeReplace (read : PrimeRead) (now : Time) : CachingStore :=
  let beadMap : BeadMap := KeyedList.ofRows read.rows
  let next := c.beads.rows.foldl (c.carryRow beadMap now)
    { beads := beadMap, deps := depsFromBeads beadMap read.depMap read.depsComplete }
  { c with
    beads := next.beads
    deps := next.deps
    depsComplete := read.depsComplete
    dirty := next.dirty
    beadSeq := next.beadSeq
    localBeadAt := next.localBeadAt
    readyProjectionLost := next.readyProjectionLost
    deletedSeq := ∅ }

def primeAddItem (read : PrimeRead) (startSeq : Nat) (now : Time) (c : CachingStore) (b : Bead) :
    CachingStore :=
  if startSeq < c.deletedSeqOf b.id ∨ (c.beads.find b.id).isSome then c
  else c.absorbFreshLocked b now (primeOpts read .seqClearBeadSeqOnly b.id)

def primeAdd (read : PrimeRead) (startSeq : Nat) (now : Time) : CachingStore :=
  let beadMap : BeadMap := KeyedList.ofRows read.rows
  { beadMap.rows.foldl (primeAddItem read startSeq now) c with depsComplete := false }

def primeCommit (read : PrimeRead) (startSeq : Nat) (now : Time) :
    CachingStore :=
  let c := if c.mutationSeq = startSeq then c.primeReplace read now
    else c.primeAdd read startSeq now
  let c := { c with
    state := .cacheLive
    syncFailures := 0
    primePartialErr := read.partialErr }
  c.advanceObservationLocked

end CachingStore

end GasCity
