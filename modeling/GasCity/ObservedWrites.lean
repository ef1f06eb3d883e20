import GasCity.CacheMoves
import GasCity.CacheWrites

namespace GasCity.CachingStore

section Folds

variable {α : Type} {next : CachingStore → α → CachingStore}

theorem moved_foldl (round : ∀ c a, Moved c (next c a)) (rows : List α) (c : CachingStore) :
    Moved c (rows.foldl next c) :=
  foldl_reaches Moved.refl Moved.trans round rows c

theorem observed_foldl (round : ∀ c a, Observed c (next c a)) (rows : List α) (c : CachingStore) :
    Observed c (rows.foldl next c) :=
  foldl_reaches Observed.refl Observed.trans round rows c

theorem moved_foldl_written {next : Written → α → Written} (round : ∀ p a, Moved p.1 (next p a).1)
    (rows : List α) (p : Written) : Moved p.1 (rows.foldl next p).1 :=
  foldl_reaches (R := fun p p' : Written => Moved p.1 p'.1) (fun p => Moved.refl p.1)
    Moved.trans round rows p

end Folds

section Writes

variable (c : CachingStore) (id : String) (now : Time)

theorem moved_clearDependent : Moved c (c.clearDependentReadyProjectionsLocked id).1 :=
  (c.observed_clearDependent id).toMoved

theorem moved_absorb (bead : Bead) (opts : AbsorbOpts) :
    Moved c (c.absorbFreshLocked bead now opts) :=
  (c.bumped_absorb bead now opts).toMoved

theorem moved_markDirty : Moved c (c.markDirtyLocked id) := (c.bumped_markDirty id).toMoved

theorem observed_absorbAuthoritativeCreated (created : Bead) (notify : Bool) :
    Observed c (c.absorbAuthoritativeCreated created notify now).1 := by
  exact ((c.bumped_noteLocal [created.id] now).then
    (moved_absorb _ now created (writeOpts .depsFromFields []))).observed

theorem observed_absorbOrdered (created : Bead) (notify : Bool) (sequence : Nat) :
    Observed c (c.absorbOrderedAuthoritativeCreated created notify sequence now).1 := by
  have released : Moved c c.releaseMutationReservation := Moved.of_same rfl rfl
  rw [absorbOrderedAuthoritativeCreated_eq]
  split
  next => exact released.observed rfl
  next =>
    have published : Bumped c { c.releaseMutationReservation.advanceObservationLocked with
        beadSeq := c.beadSeq.insert created.id sequence
        localBeadAt := c.localBeadAt.insert created.id now } := Bumped.of_next rfl rfl
    exact (published.then (moved_absorb _ now created (writeOpts .depsFromFields []))).observed

theorem observed_updateCommit (opts : UpdateOpts) (read : Except GetError Bead) :
    Observed c (c.updateCommit id opts read now).1 := by
  have noted := c.bumped_noteLocal [id] now
  cases read with
  | ok fresh =>
    refine (noted.then ?_).observed
    unfold updateCommit
    dsimp only
    refine (moved_absorb _ now (applyUpdateOptsToBead fresh opts) (writeOpts .depsFromFields [])).trans
      ?_
    split
    next => exact moved_clearDependent _ id
    next => exact .refl _
  | error kind =>
    cases kind with
    | notFound =>
      exact (noted.then ((bumped_tombstone _ id _).toMoved.trans (moved_clearDependent _ id))).observed
    | failed =>
      refine (noted.then ?_).observed
      unfold updateCommit
      dsimp only
      split
      next current _ =>
        refine (moved_absorb _ now (applyUpdateOptsToBead current opts)
          { writeOpts .depsFromFields [] with clearDirty := false }).trans ?_
        refine Moved.trans ?_ (moved_markDirty _ id)
        split
        next => exact moved_clearDependent _ id
        next => exact .refl _
      next => exact moved_markDirty _ id

theorem observed_releaseCommit (fresh : Option Bead) :
    Observed c (c.releaseCommit id fresh now).1 := by
  refine ((c.bumped_noteLocal [id] now).then ?_).observed
  unfold releaseCommit
  cases fresh with
  | some fresh =>
    exact (moved_absorb _ now fresh (writeOpts .depsFromFields [])).trans (moved_clearDependent _ id)
  | none =>
    dsimp only
    cases (c.noteLocalMutationLocked [id] now).beads.find id with
    | some b =>
      exact (moved_absorb _ now { b with status := "open", assignee := "", updatedAt := now }
        { writeOpts .depsKeepCached [] with clearDirty := false }).trans
        ((moved_markDirty _ id).trans (moved_clearDependent _ id))
    | none => exact (moved_markDirty _ id).trans (moved_clearDependent _ id)

theorem observed_statusCommit (status : String) (event : EventType) (fresh : Option Bead) :
    Observed c (statusCommit status event c id fresh now).1 := by
  refine ((c.bumped_noteLocal [id] now).then (Moved.trans ?_ (moved_clearDependent _ id))).observed
  split
  next => exact moved_absorb _ now _ _
  next => exact .refl _

theorem moved_closeAllItem (p : Written) (fresh : Bead) : Moved p.1 (closeAllItem now p fresh).1 := by
  unfold closeAllItem
  dsimp only
  split
  next => exact (moved_absorb p.1 now fresh _).trans (moved_clearDependent _ fresh.id)
  next => exact moved_absorb p.1 now fresh _

theorem observed_closeAllCommit (ids : List String) (reads : List (String × Option Bead)) :
    Observed c (c.closeAllCommit ids reads now).1 := by
  refine ((c.bumped_noteLocal ids now).then (Moved.trans ?_
    (moved_foldl_written (moved_closeAllItem now) _ (_, [])))).observed
  exact moved_foldl (fun c (r : String × Option Bead) => moved_markDirty c r.1) _ _

theorem observed_setMetadataCommit (kvs : StringMap) (fresh : Option Bead) :
    Observed c (c.setMetadataCommit id kvs fresh now).1 := by
  refine ((c.bumped_noteLocal [id] now).then ?_).observed
  unfold setMetadataCommit
  dsimp only
  split
  next =>
    dsimp only
    exact moved_absorb _ now _ _
  next =>
    dsimp only
    exact moved_absorb _ now _ _
  next => exact moved_markDirty _ id

theorem observed_setMetadataBatchFailed : Observed c (c.setMetadataBatchFailed id) :=
  ((c.bumped_note [id]).then (moved_markDirty _ id)).observed

theorem moved_txItem (p : Written) (item : TouchedBead) : Moved p.1 (txItem now p item).1 := by
  unfold txItem
  split
  next fresh _ =>
    dsimp only
    split
    next => exact (moved_absorb p.1 now fresh _).trans (moved_clearDependent _ item.id)
    next => exact moved_absorb p.1 now fresh _
  next =>
    split
    next =>
      split
      next =>
        exact (moved_absorb p.1 now _ _).trans (moved_clearDependent _ item.id)
      next => exact .refl _
    next => exact moved_markDirty _ item.id

theorem observed_refreshTxTouchedBeads (items : List TouchedBead) :
    Observed c (c.refreshTxTouchedBeads items now).1 := by
  unfold refreshTxTouchedBeads
  split
  next => exact .refl c
  next =>
    exact ((c.bumped_noteLocal _ now).then
      (moved_foldl_written (moved_txItem now) items (_, []))).observed

theorem observed_depWriteCommit (w : DepWrite) (fresh : Option (Bead × List Dep)) :
    Observed c (c.depWriteCommit w fresh now).1 := by
  refine ((c.bumped_noteLocal [w.issueID] now).then ?_).observed
  have patched : ∀ (c : CachingStore) (id : String) (deps : List Dep),
      Moved c (((c.setDeps id deps).clearReadyProjectionLocked id).1.clearStalenessMarksLocked id) :=
    fun c id deps => (moved_setDeps c id deps).trans
      ((moved_clearReadyProjection _ id).trans (moved_clearStaleness _ id))
  cases fresh with
  | some fresh =>
    exact (moved_absorb _ now fresh.1 _).trans (moved_clearReadyProjection _ fresh.1.id)
  | none =>
    unfold depWriteCommit
    dsimp only
    split
    next => exact moved_clearStaleness _ w.issueID
    next =>
      split
      next => exact patched _ _ _
      next =>
        split
        next => exact patched _ _ _
        next => exact .refl _

theorem bumped_deleteCommit : Bumped c (c.deleteCommit id now) :=
  (c.bumped_noteLocal [id] now).then
    ((bumped_tombstone _ id _).toMoved.trans (moved_clearDependent _ id))

theorem moved_dropIncomingItem (deleted : List String)
    (entry : Sigma fun _ : String => List Dep) : Moved c (dropIncomingItem deleted c entry) := by
  unfold dropIncomingItem
  split
  next => exact .refl c
  next =>
    dsimp only
    split
    next => exact .refl c
    next =>
      refine Moved.trans ?_ (moved_clearReadyProjection _ entry.1)
      split
      next => exact Moved.of_same rfl rfl
      next => exact moved_setDeps c _ _

theorem dropIncomingItem_nil (entry : Sigma fun _ : String => List Dep) :
    dropIncomingItem [] c entry = c := by
  unfold dropIncomingItem
  simp

theorem observed_evictBatchDeleted (deleted : List String) :
    Observed c (c.evictBatchDeletedLocked deleted now) := by
  have scrubbed : ∀ c : CachingStore, Moved c (c.dropIncomingEdgesToDeletedLocked deleted) :=
    fun c => moved_foldl (fun c e => moved_dropIncomingItem c deleted e) _ c
  cases deleted with
  | nil =>
    have same : c.evictBatchDeletedLocked [] now = c := by
      show c.deps.entries.foldl (dropIncomingItem []) c = c
      induction c.deps.entries with
      | nil => rfl
      | cons e es ih => rw [List.foldl_cons, dropIncomingItem_nil, ih]
    rw [same]
    exact .refl c
  | cons id deleted =>
    refine ((c.bumped_deleteCommit id now).then (Moved.trans ?_ (scrubbed _))).observed
    exact moved_foldl (fun c id => (c.bumped_deleteCommit id now).toMoved) deleted _

theorem observed_evictForConditionalWrite : Observed c (c.evictForConditionalWrite id now) := by
  refine ((c.bumped_noteLocal [id] now).then ?_).observed
  refine Moved.trans ?_ (moved_clearDependent _ id)
  exact Moved.of_same rfl rfl

theorem observed_applyConditionalWriteFailure (failure : ConditionalFailure) :
    Observed c (c.applyConditionalWriteFailure id failure now) := by
  cases failure with
  | preconditionFailed | casRetriesExhausted => exact c.observed_evictForConditionalWrite id now
  | gateRefusal | unsupported => exact .refl c
  | other =>
    refine ((c.bumped_noteLocal [id] now).then ?_).observed
    exact Moved.of_same rfl rfl

theorem observed_refreshGraphAppliedBeads (items : List (String × Option (Bead × List Dep))) :
    Observed c (c.refreshGraphAppliedBeads items now).1 := by
  have round : ∀ (p : Written) (item : String × Option (Bead × List Dep)),
      Moved p.1 (graphItem now p item).1 := by
    intro p item
    unfold graphItem
    split
    next =>
      dsimp only
      exact moved_absorb p.1 now _ _
    next => exact moved_markDirty p.1 item.1
  unfold refreshGraphAppliedBeads
  split
  next => exact .refl c
  next => exact ((c.bumped_noteLocal _ now).then (moved_foldl_written round items (_, []))).observed

end Writes

end GasCity.CachingStore
