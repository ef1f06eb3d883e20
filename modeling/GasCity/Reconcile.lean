import GasCity.CacheRow

namespace GasCity

inductive EventType where
  | beadCreated
  | beadUpdated
  | beadClosed
  | beadDeleted
  | other
  deriving DecidableEq

structure CacheNotification where
  eventType : EventType
  bead : Bead

inductive MergeAction where
  | mergeAbsorb
  | mergeEvict
  | mergeSkipFenced
  | mergeSkipRecentLocal
  | mergeGCFences
  deriving DecidableEq

structure MergeDecision where
  action : MergeAction
  notification : Option EventType := none
  degradeDepsComplete : Bool := false

structure MergeRowInput where
  freshExists : Bool := false
  fresh : Bead := {}
  freshDeps : List Dep := []
  cachedExists : Bool := false
  cached : Bead := {}
  cachedDeps : List Dep := []
  hasCachedDeps : Bool := false
  deletedAtSeq : Nat := 0
  beadAtSeq : Nat := 0
  startSeq : Nat := 0
  localAt : Time := 0
  now : Time := 0
  skipLabels : Bool := false

def reconcileMergeDecision (input : MergeRowInput) : MergeDecision :=
  if input.freshExists then
    if input.startSeq < input.deletedAtSeq ∨ input.startSeq < input.beadAtSeq then
      { action := .mergeSkipFenced
        degradeDepsComplete := input.cachedExists && !input.hasCachedDeps }
    else if input.cachedExists ∧ recentLocalMutation input.localAt input.now ∧
        beadChanged input.cached input.fresh input.skipLabels then
      { action := .mergeSkipRecentLocal
        degradeDepsComplete := !input.hasCachedDeps || depsChanged input.cachedDeps input.freshDeps }
    else
      { action := .mergeAbsorb
        notification :=
          if !input.cachedExists then some .beadCreated
          else if beadChanged input.cached input.fresh input.skipLabels then some .beadUpdated
          else if depsChanged input.cachedDeps input.freshDeps then some .beadUpdated
          else none }
  else if input.cachedExists then
    if input.startSeq < input.deletedAtSeq ∨ input.startSeq < input.beadAtSeq then
      { action := .mergeSkipFenced }
    else if input.cached.status ≠ "closed" ∧ recentLocalMutation input.localAt input.now then
      { action := .mergeSkipRecentLocal }
    else
      { action := .mergeEvict
        notification := if input.cached.status ≠ "closed" then some .beadClosed else none }
  else
    if input.startSeq < input.deletedAtSeq ∨ input.startSeq < input.beadAtSeq then
      { action := .mergeSkipFenced }
    else if recentLocalMutation input.localAt input.now then { action := .mergeSkipRecentLocal }
    else { action := .mergeGCFences }

/-- What one pass reads from the backing: the active rows by id, the rows a recovery read
found closed, and the dependency sets. -/
structure Snapshot where
  freshByID : BeadMap := KeyedList.empty
  confirmedClosed : BeadMap := KeyedList.empty
  depMap : FinMap String (List Dep) := ∅
  useFreshDeps : Bool := false

@[ext]
structure MergeSectionResult where
  notifications : List CacheNotification := []
  adds : Nat := 0
  removes : Nat := 0
  updates : Nat := 0

structure MergePass where
  cache : CachingStore
  res : MergeSectionResult := {}
  nextDepsComplete : Bool

def depsForReconcile (bdBacking : Bool) (cachedDeps : Option (List Dep)) (freshBead : Bead)
    (depMap : FinMap String (List Dep)) (useFreshDeps : Bool) : List Dep :=
  if useFreshDeps then (depMap.lookup freshBead.id).getD []
  else
    let freshDeps := depsFromBeadFields freshBead
    if bdBacking then freshDeps
    else if freshDeps.length = 0 then
      match cachedDeps with
      | some deps => if 0 < deps.length then deps else freshDeps
      | none => freshDeps
    else freshDeps

namespace CachingStore

variable (c : CachingStore)

def depsForReconcileLocked (freshBead : Bead)
    (depMap : FinMap String (List Dep)) (useFreshDeps : Bool) : List Dep :=
  depsForReconcile c.bdBacking (c.deps.lookup freshBead.id) freshBead depMap useFreshDeps

def readyBlockingDependencyTargetStatusChangedLocked (deps : List Dep) (items : BeadMap) : Bool :=
  deps.any (fun dep =>
    isReadyBlockingDependencyType dep.type &&
      match items.find dep.dependsOnID, c.beads.find dep.dependsOnID with
      | none, _ => false
      | some _, none => true
      | some freshTarget, some cachedTarget => cachedTarget.status != freshTarget.status)

def preserveStep (depMap : FinMap String (List Dep)) (useFreshDeps : Bool)
    (item : Bead) (items : BeadMap) : BeadMap :=
  if item.isBlocked ≠ none then items
  else
    match c.beads.find item.id with
    | none => items
    | some cached =>
      if cached.isBlocked = none then items
      else
        let freshDeps := c.depsForReconcileLocked item depMap useFreshDeps
        if depsChanged (c.depsOf item.id) freshDeps then items
        else if c.readyBlockingDependencyTargetStatusChangedLocked freshDeps items then items
        else items.set { item with isBlocked := cached.isBlocked }

def preserveCachedReadyProjectionLocked (items : BeadMap)
    (depMap : FinMap String (List Dep)) (useFreshDeps : Bool) : BeadMap :=
  items.rows.foldl (fun acc item => c.preserveStep depMap useFreshDeps item acc) items

end CachingStore

def absorbInput (r : RowState) (freshBead : Bead) (freshDeps : List Dep) (startSeq : Nat)
    (now : Time) : MergeRowInput where
  freshExists := true
  fresh := freshBead
  freshDeps := freshDeps
  cachedExists := r.bead.isSome
  cached := r.bead.getD {}
  cachedDeps := r.depsOf
  hasCachedDeps := r.deps.isSome
  deletedAtSeq := r.deletedSeq.getD 0
  beadAtSeq := r.beadSeq.getD 0
  startSeq := startSeq
  localAt := r.localAt
  now := now
  skipLabels := true

def MergeSectionResult.noteFresh (res : MergeSectionResult) (notification : Option EventType)
    (freshBead : Bead) : MergeSectionResult :=
  match notification with
  | some .beadCreated =>
    { res with
      adds := res.adds + 1
      notifications := res.notifications ++ [⟨.beadCreated, freshBead⟩] }
  | some .beadUpdated =>
    { res with
      updates := res.updates + 1
      notifications := res.notifications ++ [⟨.beadUpdated, freshBead⟩] }
  | _ => res

def absorbLoopBody (snap : Snapshot) (startSeq : Nat) (now : Time) (freshBead : Bead)
    (p : MergePass) : MergePass :=
  let freshDeps := p.cache.depsForReconcileLocked freshBead snap.depMap snap.useFreshDeps
  let d := reconcileMergeDecision (absorbInput (p.cache.row freshBead.id) freshBead freshDeps startSeq now)
  let nextDepsComplete := if d.degradeDepsComplete then false else p.nextDepsComplete
  if d.action ≠ .mergeAbsorb then { p with nextDepsComplete := nextDepsComplete }
  else
    { cache := p.cache.absorbFreshLocked freshBead now
        { depsMode := .depsExplicit
          deps := freshDeps
          seqMode := .seqClearGuarded
          readyMode := .readyFromFresh
          clearDirty := true }
      res := p.res.noteFresh d.notification freshBead
      nextDepsComplete := nextDepsComplete }

def evictInput (r : RowState) (cached : Bead) (startSeq : Nat) (now : Time) : MergeRowInput where
  cachedExists := true
  cached := cached
  deletedAtSeq := r.deletedSeq.getD 0
  beadAtSeq := r.beadSeq.getD 0
  startSeq := startSeq
  localAt := r.localAt
  now := now
  skipLabels := true

def MergeSectionResult.noteEvicted (res : MergeSectionResult) (notification : Option EventType)
    (closed : Bead) : MergeSectionResult :=
  { res with
    removes := res.removes + 1
    notifications :=
      if notification = some .beadClosed then res.notifications ++ [⟨.beadClosed, closed⟩]
      else res.notifications }

/-- The payload of a synthesized close: the recovery read's row, or else the cached row closed. -/
def closedPayload (confirmedClosed : BeadMap) (cached : Bead) : Bead :=
  match confirmedClosed.find cached.id with
  | some freshClosed => freshClosed
  | none => { cached with status := "closed" }

def evictLoopBody (snap : Snapshot) (startSeq : Nat) (now : Time) (cached : Bead)
    (p : MergePass) : MergePass :=
  if (snap.freshByID.find cached.id).isSome then p
  else
    let d := reconcileMergeDecision (evictInput (p.cache.row cached.id) cached startSeq now)
    if d.action ≠ .mergeEvict then p
    else if 0 < p.cache.reservedMutations ∧
        (p.cache.beadSeqOf cached.id ≠ 0 ∨ p.cache.deletedSeqOf cached.id ≠ 0 ∨
          p.cache.localBeadAtOf cached.id ≠ 0) then p
    else
      { p with
        res := p.res.noteEvicted d.notification (closedPayload snap.confirmedClosed cached)
        cache := p.cache.evictLocked cached.id }

def gcInput (r : RowState) (startSeq : Nat) (now : Time) : MergeRowInput where
  deletedAtSeq := r.deletedSeq.getD 0
  beadAtSeq := r.beadSeq.getD 0
  startSeq := startSeq
  localAt := r.localAt
  now := now
  skipLabels := true

def gcLoopBody (startSeq : Nat) (now : Time) (id : String) (c : CachingStore) : CachingStore :=
  if (reconcileMergeDecision (gcInput (c.row id) startSeq now)).action ≠ .mergeGCFences then c
  else
    { c with
      deletedSeq := c.deletedSeq.erase id
      dirty := c.dirty.erase id
      beadSeq := c.beadSeq.erase id
      localBeadAt := c.localBeadAt.erase id
      deps := c.deps.erase id }

namespace CachingStore

def orphanFenceIDsLocked (c : CachingStore) (freshByID : BeadMap) : List String :=
  ((c.deletedSeq.keys ++ c.dirty.keys ++ c.beadSeq.keys ++ c.localBeadAt.keys ++ c.deps.keys).filter
    (fun id => (c.beads.find id).isNone && (freshByID.find id).isNone)).dedup

def mergeSnapshotLocked (c : CachingStore) (snap : Snapshot) (startSeq : Nat) (now : Time) :
    CachingStore × MergeSectionResult :=
  let snap := { snap with
    freshByID := c.preserveCachedReadyProjectionLocked snap.freshByID snap.depMap snap.useFreshDeps }
  let p : MergePass := { cache := c, nextDepsComplete := snap.useFreshDeps }
  let p := snap.freshByID.rows.foldl (fun p b => absorbLoopBody snap startSeq now b p) p
  let p := p.cache.beads.rows.foldl (fun p b => evictLoopBody snap startSeq now b p) p
  let c := p.cache
  let c :=
    if c.reservedMutations = 0 then
      (c.orphanFenceIDsLocked snap.freshByID).foldl (fun c id => gcLoopBody startSeq now id c) c
    else c
  let c := { c with
    syncFailures := 0
    depsComplete := p.nextDepsComplete
    primePartialErr := none }
  (c.advanceObservationLocked.promoteLiveLocked, p.res)

end CachingStore

end GasCity
