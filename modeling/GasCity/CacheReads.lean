import GasCity.ApplyEvent
import GasCity.Query

namespace GasCity.CachingStore

inductive GetRoute where
  | notFound
  | cached (b : Bead)
  | refetch (startSeq : Nat)
  | backing

variable (c : CachingStore)

def getRoute (id : String) : GetRoute :=
  let clean := (c.dirty.lookup id).isNone
  if (c.deletedSeq.lookup id).isSome then .notFound
  else
    match c.beads.find id with
    | some b =>
      if clean ∧ ((c.beadSeq.lookup id).isSome ∨ c.eventServable) then .cached b
      else if c.eventServable then .refetch c.mutationSeq
      else .backing
    | none => if c.eventServable ∧ !clean then .refetch c.mutationSeq else .backing

def dirtyReadOpts (deps : Option (List Dep)) : AbsorbOpts where
  depsMode := if deps.isSome then .depsExplicit else .depsFromFields
  deps := deps.getD []
  seqMode := .seqClearBeadSeqOnly
  clearDirty := true

def getDirtyCommit (fresh : Bead) (startSeq : Nat) (now : Time) : CachingStore :=
  if !c.eventServable then c
  else if startSeq < c.deletedSeqOf fresh.id then c
  else if startSeq < c.beadSeqOf fresh.id then c
  else c.absorbFreshLocked fresh now (dirtyReadOpts none)

def listRefreshOpts : AbsorbOpts where
  depsMode := .depsFromFieldsIfCarried
  seqMode := .seqClearGuarded
  clearDirty := true

variable (query : ListQuery) (startSeq : Nat) (now : Time)

def refreshItem (p : CachingStore × List Bead) (item : Bead) : CachingStore × List Bead :=
  let c := p.1
  let answer := fun b : Bead => if query.Matches b then [b] else []
  if startSeq < c.deletedSeqOf item.id then p
  else if startSeq < c.beadSeqOf item.id then
    (c, p.2 ++ (c.beads.find item.id).toList.flatMap answer)
  else
    match c.recentLocalBeadConflictLocked item now false with
    | some current => (c, p.2 ++ answer current)
    | none =>
      if c.beadSeqOf item.id = startSeq ∧
          (c.beads.find item.id).any (fun b => b.status == "closed") ∧ item.status ≠ "closed" then p
      else (c.absorbFreshLocked item now listRefreshOpts, p.2 ++ answer item)

def refreshMissing (c : CachingStore) (bead : Bead) : CachingStore :=
  if startSeq < c.deletedSeqOf bead.id ∨ startSeq < c.beadSeqOf bead.id then c
  else if (c.recentLocalBeadConflictLocked bead now false).isSome then c
  else c.absorbFreshLocked bead now listRefreshOpts

def removeMissing (c : CachingStore) (id : String) : CachingStore :=
  if startSeq < c.deletedSeqOf id ∨ startSeq < c.beadSeqOf id then c
  else if (c.beads.find id).any (fun b => b.status != "closed") ∧
      recentLocalMutation (c.localBeadAtOf id) now = true then c
  else c.evictLocked id

structure Refetched where
  found : List Bead := []
  removed : List String := []

def refetch (get : BackingGet) (ids : List String) : Refetched where
  found := ids.filterMap (fun id => (get id).toOption)
  removed := ids.filter (fun id => match get id with
    | .error .notFound => true
    | _ => false)

def refreshCommit (items : List Bead)
    (parents missing : Refetched) (now : Time) : CachingStore × List Bead :=
  if items.length = 0 ∧ parents.found.length = 0 ∧ parents.removed.length = 0 ∧
      missing.found.length = 0 ∧ missing.removed.length = 0 then (c, items)
  else if !c.eventServable then (c, items)
  else
    let p := items.foldl (refreshItem query startSeq now) (c, [])
    let c := parents.found.foldl (refreshMissing startSeq now) p.1
    let c := parents.removed.foldl (removeMissing startSeq now) c
    let c := missing.found.foldl (refreshMissing startSeq now) c
    (missing.removed.foldl (removeMissing startSeq now) c, p.2)

def staleParentCacheIDs (parentID : String) (fresh : List Bead) : List String :=
  if parentID = "" ∨ !c.eventServable then []
  else
    (c.beads.rows.filter (fun b =>
      b.parentID == parentID && !fresh.any (fun f => f.id == b.id))).map Bead.id

def staleLiveCacheIDs (fresh : List Bead) : List String :=
  if !query.live ∨ query.limit > 0 ∨ query.IncludesClosed ∨ !c.eventServable then []
  else
    (c.beads.rows.filter (fun b =>
      !fresh.any (fun f => f.id == b.id) && query.Matches b)).map Bead.id

def refreshCachedBeads (get : BackingGet) (query : ListQuery)
    (items : List Bead) (now : Time) : CachingStore × List Bead :=
  c.refreshCommit query c.mutationSeq items
    (refetch get (c.staleParentCacheIDs query.parentID items))
    (refetch get (c.staleLiveCacheIDs query items)) now

/-- A dirty row fetched again, with its edges where the row carried no dependency fields. -/
structure OverlayFetched where
  bead : Bead
  deps : Option (List Dep) := none

def overlayItem (c : CachingStore) (f : OverlayFetched) :
    CachingStore :=
  if startSeq < c.deletedSeqOf f.bead.id ∨ startSeq < c.beadSeqOf f.bead.id then c
  else c.absorbFreshLocked f.bead now (dirtyReadOpts f.deps)

def overlayCommit (gate : CachingStore → Bool) (c : CachingStore) (fetched : List OverlayFetched)
    (startSeq : Nat) (now : Time) : CachingStore :=
  if !gate c then c else fetched.foldl (overlayItem startSeq now) c

variable (suppressed : List String)

def dirtyToRefreshLocked : List String :=
  c.dirty.keys.filter (fun id => !suppressed.contains id)

def suppressedChurnLocked (startSeq : Nat) :
    List String :=
  suppressed.filter (fun id =>
    decide (startSeq < c.beadSeqOf id) || decide (startSeq < c.deletedSeqOf id) ||
      (c.beads.find id).isSome && (c.dirty.lookup id).isNone)

/-- Fetch dirty rows again: the rows found, and the ids to suppress. A failed read declines. -/
def fetchDirtyOverlay (get : BackingGet) (depList : String → Option (List Dep)) :
    List String → List String → Option (List OverlayFetched × List String)
  | [], suppressed => some ([], suppressed)
  | id :: todo, suppressed =>
    match get id with
    | .ok fresh =>
      if beadCarriesDependencyFields fresh then
        (fetchDirtyOverlay get depList todo suppressed).map (fun r => (⟨fresh, none⟩ :: r.1, r.2))
      else
        match depList id with
        | some deps =>
          (fetchDirtyOverlay get depList todo suppressed).map
            (fun r => (⟨fresh, some deps⟩ :: r.1, r.2))
        | none => none
    | .error .notFound => fetchDirtyOverlay get depList todo (suppressed ++ [id])
    | .error .failed => none

/-- How one pass of the overlay ends: the read is served without the suppressed rows, the pass is
to be made again, or the read falls back on the backing. -/
inductive OverlayEnd where
  | serve (c : CachingStore) (suppressed : List String)
  | retry (c : CachingStore) (suppressed : List String)
  | fallback (c : CachingStore)

def overlayServe (startSeq : Nat) : OverlayEnd :=
  let churned := c.suppressedChurnLocked suppressed startSeq
  if churned.length > 0 then .retry c (suppressed.filter (fun id => !churned.contains id))
  else .serve c suppressed

def overlayPass (gate : CachingStore → Bool) (get : BackingGet)
    (depList : String → Option (List Dep)) (now : Time) (c : CachingStore)
    (suppressed : List String) : OverlayEnd :=
  if !gate c then .fallback c
  else
    let todo := c.dirtyToRefreshLocked suppressed
    if todo.length = 0 then c.overlayServe suppressed c.mutationSeq
    else if c.dirty.keys.length > 8 then .fallback c
    else
      match fetchDirtyOverlay get depList todo suppressed with
      | none => .fallback c
      | some (fetched, suppressed) =>
        let startSeq := c.mutationSeq
        let c := overlayCommit gate c fetched startSeq now
        if (c.dirtyToRefreshLocked suppressed).length = 0 then c.overlayServe suppressed startSeq
        else .retry c suppressed

/-- A cached read after its dirty rows were fetched again: the cache it leaves, and the suppressed
ids when the read is served from it. -/
def readCacheWithOverlay (gate : CachingStore → Bool)
    (get : BackingGet) (depList : String → Option (List Dep)) (now : Time) :
    CachingStore × Option (List String) :=
  match overlayPass gate get depList now c [] with
  | .serve c suppressed => (c, some suppressed)
  | .fallback c => (c, none)
  | .retry c suppressed =>
    match overlayPass gate get depList now c suppressed with
    | .serve c suppressed => (c, some suppressed)
    | .fallback c => (c, none)
    | .retry c _ => (c, none)

end GasCity.CachingStore
