import GasCity.ApplyEvent

namespace GasCity

def applyUpdateOptsToBead (bead : Bead) (opts : UpdateOpts) : Bead :=
  { bead with
    title := opts.title.getD bead.title
    status := opts.status.getD bead.status
    type := opts.type.getD bead.type
    priority := opts.priority.or bead.priority
    description := opts.description.getD bead.description
    parentID := opts.parentID.getD bead.parentID
    assignee := opts.assignee.getD bead.assignee
    metadata := writeAll bead.metadata opts.metadata
    labels :=
      if opts.labels.length > 0 ∨ opts.removeLabels.length > 0 then
        ((bead.labels ++ opts.labels).filter (fun l => !opts.removeLabels.contains l)).eraseDups
      else bead.labels }

def writeOpts (depsMode : AbsorbDepsMode) (deps : List Dep) : AbsorbOpts where
  depsMode := depsMode
  deps := deps
  seqMode := .seqKeep
  clearDirty := true

structure TouchedBead where
  id : String
  closed : Bool := false
  read : Except GetError Bead

/-- What the backing's error of a conditional write says about the cached row. -/
inductive ConditionalFailure where
  | preconditionFailed
  | casRetriesExhausted
  | gateRefusal
  | unsupported
  | other

namespace CachingStore

abbrev Written := CachingStore × List CacheNotification

variable (c : CachingStore)

def absorbAuthoritativeCreated (created : Bead) (notify : Bool) (now : Time) :
    Written :=
  let c := c.noteLocalMutationLocked [created.id] now
  (c.absorbFreshLocked created now (writeOpts .depsFromFields []),
    if notify then [⟨.beadCreated, created⟩] else [])

def reserveMutationSequence : CachingStore × Nat :=
  ({ c with
    mutationSeq := c.mutationSeq + 1
    reservedMutations := c.reservedMutations + 1 }, c.mutationSeq + 1)

def releaseMutationReservation : CachingStore :=
  { c with reservedMutations := c.reservedMutations - 1 }

def absorbOrderedAuthoritativeCreated (created : Bead) (notify : Bool)
    (sequence : Nat) (now : Time) : Written :=
  let events := if notify then [⟨.beadCreated, created⟩] else []
  let (c, noted) := c.releaseMutationReservation.noteReservedLocalMutationLocked created.id sequence now
  if !noted then (c, events)
  else (c.absorbFreshLocked created now (writeOpts .depsFromFields []), events)

theorem absorbOrderedAuthoritativeCreated_eq (created : Bead) (notify : Bool)
    (sequence : Nat) (now : Time) :
    (c.absorbOrderedAuthoritativeCreated created notify sequence now).1 =
      if sequence < c.beadSeqOf created.id ∨ sequence < c.deletedSeqOf created.id then
        c.releaseMutationReservation
      else
        absorbFreshLocked { c.releaseMutationReservation.advanceObservationLocked with
          beadSeq := c.beadSeq.insert created.id sequence
          localBeadAt := c.localBeadAt.insert created.id now } created now
          (writeOpts .depsFromFields []) := by
  unfold absorbOrderedAuthoritativeCreated noteReservedLocalMutationLocked
  by_cases newer : sequence < c.beadSeqOf created.id ∨ sequence < c.deletedSeqOf created.id
  · have newer' : sequence < c.releaseMutationReservation.beadSeqOf created.id ∨
        sequence < c.releaseMutationReservation.deletedSeqOf created.id := newer
    rw [if_pos newer, if_pos newer']
    rfl
  · have current : ¬ (sequence < c.releaseMutationReservation.beadSeqOf created.id ∨
        sequence < c.releaseMutationReservation.deletedSeqOf created.id) := newer
    rw [if_neg newer, if_neg current]
    rfl

variable (id : String)

def updateCommit (opts : UpdateOpts) (read : Except GetError Bead) (now : Time) : Written :=
  match read with
  | .ok fresh =>
    let fresh := applyUpdateOptsToBead fresh opts
    let c := c.noteLocalMutationLocked [id] now
    let c := c.absorbFreshLocked fresh now (writeOpts .depsFromFields [])
    (if opts.status.isSome then (c.clearDependentReadyProjectionsLocked id).1 else c,
      [⟨.beadUpdated, fresh⟩])
  | .error .notFound =>
    let events := match c.beads.find id with
      | some current =>
        if current.status ≠ "closed" then [⟨.beadClosed, { current with status := "closed" }⟩] else []
      | none => []
    let c := c.noteLocalMutationLocked [id] now
    let c := c.tombstoneLocked id c.mutationSeq
    ((c.clearDependentReadyProjectionsLocked id).1, events)
  | .error .failed =>
    let c := c.noteLocalMutationLocked [id] now
    match c.beads.find id with
    | some current =>
      let fresh := applyUpdateOptsToBead current opts
      let c := c.absorbFreshLocked fresh now { writeOpts .depsFromFields [] with clearDirty := false }
      let c := if opts.status.isSome then (c.clearDependentReadyProjectionsLocked id).1 else c
      (c.markDirtyLocked id, [⟨.beadUpdated, fresh⟩])
    | none => (c.markDirtyLocked id, [])

variable (fresh : Option Bead)

def releaseCommit (now : Time) : Written :=
  let c := c.noteLocalMutationLocked [id] now
  let (c, events) : Written :=
    match fresh, c.beads.find id with
    | some fresh, _ =>
      (c.absorbFreshLocked fresh now (writeOpts .depsFromFields []), [⟨.beadUpdated, fresh⟩])
    | none, some b =>
      let b := { b with status := "open", assignee := "", updatedAt := now }
      ((c.absorbFreshLocked b now
        { writeOpts .depsKeepCached [] with clearDirty := false }).markDirtyLocked id,
        [⟨.beadUpdated, b⟩])
    | none, none => (c.markDirtyLocked id, [])
  ((c.clearDependentReadyProjectionsLocked id).1, events)

/-- The section shared by `Close` and `Reopen`: the status they have written is forced onto the
refreshed row, or onto the cached one. -/
def statusCommit (status : String) (event : EventType) (c : CachingStore) (id : String)
    (fresh : Option Bead) (now : Time) : Written :=
  let c := c.noteLocalMutationLocked [id] now
  let row := (fresh.or (c.beads.find id)).map (fun b => { b with status := status })
  let c := match row with
    | some row => c.absorbFreshLocked row now (writeOpts .depsKeepCached [])
    | none => c
  ((c.clearDependentReadyProjectionsLocked id).1, row.toList.map (⟨event, ·⟩))

def closeCommit (now : Time) : Written :=
  statusCommit "closed" .beadClosed c id fresh now

def reopenCommit (now : Time) : Written :=
  statusCommit "open" .beadUpdated c id fresh now

variable (now : Time)

def closeAllItem (p : Written) (fresh : Bead) : Written :=
  let previous := p.1.beads.find fresh.id
  let mode : AbsorbDepsMode := if fresh.status = "closed" then .depsDrop else .depsKeepCached
  let c := p.1.absorbFreshLocked fresh now (writeOpts mode [])
  let c := if fresh.status = "closed" then (c.clearDependentReadyProjectionsLocked fresh.id).1 else c
  (c, p.2 ++
    if previous.any (fun b => b.status != "closed") && fresh.status == "closed" then
      [⟨.beadClosed, fresh⟩]
    else [])

/-- The section of `CloseAll`, with what the refresh reads got: a row, or nothing for a failed one. -/
def closeAllCommit (ids : List String) (reads : List (String × Option Bead))
    (now : Time) : Written :=
  let c := c.noteLocalMutationLocked ids now
  let c := (reads.filter (fun r => r.2.isNone)).foldl (fun c r => c.markDirtyLocked r.1) c
  (reads.filterMap (·.2)).foldl (closeAllItem now) (c, [])

def setMetadataCommit (kvs : StringMap) (fresh : Option Bead) (now : Time) : Written :=
  let c := c.noteLocalMutationLocked [id] now
  match fresh, c.beads.find id with
  | some fresh, _ =>
    (c.absorbFreshLocked fresh now (writeOpts .depsFromFields []), [⟨.beadUpdated, fresh⟩])
  | none, some b =>
    let b := { b with metadata := writeAll b.metadata kvs }
    (c.absorbFreshLocked b now (writeOpts .depsKeepCached []), [⟨.beadUpdated, b⟩])
  | none, none => (c.markDirtyLocked id, [])

def setMetadataBatchFailed : CachingStore :=
  (c.noteMutationLocked [id]).markDirtyLocked id

def txItem (p : Written) (item : TouchedBead) : Written :=
  match item.read with
  | .ok fresh =>
    let previous := p.1.beads.find item.id
    let statusChanged := item.closed || fresh.status == "closed" ||
      previous.any (fun b => b.status != fresh.status)
    let c := p.1.absorbFreshLocked fresh now (writeOpts .depsFromFields [])
    let c := if statusChanged then (c.clearDependentReadyProjectionsLocked item.id).1 else c
    let event : EventType := if fresh.status = "closed" then .beadClosed else .beadUpdated
    (c, p.2 ++
      if previous.all (fun b => beadChanged b fresh false) || fresh.status == "closed" then
        [⟨event, fresh⟩]
      else [])
  | .error _ =>
    if item.closed then
      match p.1.beads.find item.id with
      | some b =>
        let b := { b with status := "closed" }
        let c := p.1.absorbFreshLocked b now (writeOpts .depsKeepCached [])
        ((c.clearDependentReadyProjectionsLocked item.id).1, p.2 ++ [⟨.beadClosed, b⟩])
      | none => p
    else (p.1.markDirtyLocked item.id, p.2)

def refreshTxTouchedBeads (items : List TouchedBead) (now : Time) : Written :=
  if items.length = 0 then (c, [])
  else items.foldl (txItem now) (c.noteLocalMutationLocked (items.map TouchedBead.id) now, [])

def withDeps (fresh : Bead) (deps : List Dep) : Bead :=
  { fresh with dependencies := deps, needs := [] }

def absorbWithDeps (fresh : Bead) (deps : List Dep) (now : Time) : CachingStore :=
  ((c.absorbFreshLocked fresh now (writeOpts .depsExplicit deps)).clearReadyProjectionLocked
    fresh.id).1

def patchAdded (issueID dependsOnID depType : String) : List Dep → List Dep
  | [] => [⟨issueID, dependsOnID, depType⟩]
  | d :: deps =>
    if d.dependsOnID = dependsOnID then { d with type := depType } :: deps
    else d :: patchAdded issueID dependsOnID depType deps

inductive DepWrite where
  | add (issueID dependsOnID depType : String)
  | remove (issueID dependsOnID : String)

def DepWrite.issueID : DepWrite → String
  | .add issueID _ _ => issueID
  | .remove issueID _ => issueID

/-- The section shared by `DepAdd` and `DepRemove`. Without a refreshed row the cached set is
patched, unless it is unknown. -/
def depWriteCommit (w : DepWrite) (fresh : Option (Bead × List Dep)) (now : Time) : Written :=
  let c := c.noteLocalMutationLocked [w.issueID] now
  match fresh with
  | some (fresh, deps) => (c.absorbWithDeps fresh deps now, [⟨.beadUpdated, fresh⟩])
  | none =>
    if !c.depsComplete && (c.deps.lookup w.issueID).isNone then
      (c.clearStalenessMarksLocked w.issueID, [])
    else
      match w with
      | .add issueID dependsOnID depType =>
        let c := c.setDeps issueID (patchAdded issueID dependsOnID depType (c.depsOf issueID))
        ((c.clearReadyProjectionLocked issueID).1.clearStalenessMarksLocked issueID, [])
      | .remove issueID dependsOnID =>
        if (c.depsOf issueID).any (fun d => d.dependsOnID == dependsOnID) then
          let c := c.setDeps issueID
            ((c.depsOf issueID).eraseP (fun d => d.dependsOnID == dependsOnID))
          ((c.clearReadyProjectionLocked issueID).1.clearStalenessMarksLocked issueID, [])
        else (c, [])

def deleteCommit : CachingStore :=
  let c := c.noteLocalMutationLocked [id] now
  let c := c.tombstoneLocked id c.mutationSeq
  (c.clearDependentReadyProjectionsLocked id).1

variable (deleted : List String)

def dropIncomingItem (c : CachingStore) (entry : Sigma fun _ : String => List Dep) : CachingStore :=
  if deleted.contains entry.1 then c
  else
    let kept := entry.2.filter (fun d => !deleted.contains d.dependsOnID)
    if kept.length = entry.2.length then c
    else
      let c := if kept.length = 0 then { c with deps := c.deps.erase entry.1 }
        else c.setDeps entry.1 kept
      (c.clearReadyProjectionLocked entry.1).1

def dropIncomingEdgesToDeletedLocked : CachingStore :=
  c.deps.entries.foldl (dropIncomingItem deleted) c

def evictBatchDeletedLocked (now : Time) :
    CachingStore :=
  let c := deleted.foldl (fun c id => c.deleteCommit id now) c
  c.dropIncomingEdgesToDeletedLocked deleted

def evictForConditionalWrite : CachingStore :=
  let c := c.noteLocalMutationLocked [id] now
  let c := { c with
    beads := c.beads.erase id
    deps := c.deps.erase id
    dirty := c.dirty.insert id () }
  (c.clearDependentReadyProjectionsLocked id).1

def applyConditionalWriteFailure (failure : ConditionalFailure) (now : Time) : CachingStore :=
  match failure with
  | .preconditionFailed => c.evictForConditionalWrite id now
  | .casRetriesExhausted => c.evictForConditionalWrite id now
  | .gateRefusal => c
  | .unsupported => c
  | .other =>
    let c := c.noteLocalMutationLocked [id] now
    { c with dirty := c.dirty.insert id () }

def graphItem (p : Written) (item : String × Option (Bead × List Dep)) : Written :=
  match item.2 with
  | some (fresh, deps) =>
    (p.1.absorbFreshLocked fresh now (writeOpts .depsExplicit deps), p.2 ++ [⟨.beadCreated, fresh⟩])
  | none => (p.1.markDirtyLocked item.1, p.2)

def refreshGraphAppliedBeads
    (items : List (String × Option (Bead × List Dep))) (now : Time) : Written :=
  if items.length = 0 then (c, [])
  else items.foldl (graphItem now) (c.noteLocalMutationLocked (items.map (·.1)) now, [])

end CachingStore

end GasCity
