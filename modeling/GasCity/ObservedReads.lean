import GasCity.CachePrime
import GasCity.CacheReads
import GasCity.MergePass
import GasCity.ObservedEvents

namespace GasCity.CachingStore

section Reads

variable (c : CachingStore) (startSeq : Nat) (now : Time)

theorem observed_absorb (bead : Bead) (opts : AbsorbOpts) :
    Observed c (c.absorbFreshLocked bead now opts) :=
  (c.bumped_absorb bead now opts).observed

theorem observed_getDirtyCommit (fresh : Bead) : Observed c (c.getDirtyCommit fresh startSeq now) := by
  unfold getDirtyCommit
  split
  next => exact .refl c
  next =>
    split
    next => exact .refl c
    next =>
      split
      next => exact .refl c
      next => exact c.observed_absorb now fresh _

theorem observed_refreshItem (query : ListQuery) (p : CachingStore × List Bead) (item : Bead) :
    Observed p.1 (refreshItem query startSeq now p item).1 := by
  unfold refreshItem
  dsimp only
  split
  next => exact .refl p.1
  next =>
    split
    next => exact .refl p.1
    next =>
      split
      next => exact .refl p.1
      next =>
        split
        next => exact .refl p.1
        next => exact p.1.observed_absorb now item listRefreshOpts

theorem observed_refreshMissing (bead : Bead) :
    Observed c (refreshMissing startSeq now c bead) := by
  unfold refreshMissing
  split
  next => exact .refl c
  next =>
    split
    next => exact .refl c
    next => exact c.observed_absorb now bead _

theorem observed_removeMissing (id : String) : Observed c (removeMissing startSeq now c id) := by
  unfold removeMissing
  split
  next => exact .refl c
  next =>
    split
    next => exact .refl c
    next => exact (c.bumped_evict id).observed

theorem observed_refreshCommit (query : ListQuery) (items : List Bead)
    (parents missing : Refetched) :
    Observed c (c.refreshCommit query startSeq items parents missing now).1 := by
  have listed : Observed c (items.foldl (refreshItem query startSeq now) (c, [])).1 :=
    foldl_reaches (R := fun p p' : CachingStore × List Bead => Observed p.1 p'.1)
      (fun p => Observed.refl p.1) Observed.trans (observed_refreshItem startSeq now query) items
      (c, [])
  have refreshed : ∀ (rows : List Bead) (c : CachingStore),
      Observed c (rows.foldl (refreshMissing startSeq now) c) :=
    observed_foldl fun c => c.observed_refreshMissing startSeq now
  have removed : ∀ (ids : List String) (c : CachingStore),
      Observed c (ids.foldl (removeMissing startSeq now) c) :=
    observed_foldl fun c => c.observed_removeMissing startSeq now
  unfold refreshCommit
  split
  next => exact .refl c
  next =>
    split
    next => exact .refl c
    next =>
      exact listed.trans ((refreshed _ _).trans ((removed _ _).trans
        ((refreshed _ _).trans (removed _ _))))

theorem observed_overlayCommit (gate : CachingStore → Bool) (fetched : List OverlayFetched) :
    Observed c (overlayCommit gate c fetched startSeq now) := by
  have round : ∀ (c : CachingStore) (f : OverlayFetched),
      Observed c (overlayItem startSeq now c f) := by
    intro c f
    unfold overlayItem
    split
    next => exact .refl c
    next => exact c.observed_absorb now f.bead _
  unfold overlayCommit
  split
  next => exact .refl c
  next => exact observed_foldl round fetched c

theorem observed_primeActiveCommit (read : PrimeRead) :
    Observed c (c.primeActiveCommit read startSeq now) := by
  have round : ∀ (c : CachingStore) (b : Bead),
      Moved c (primeActiveItem read startSeq now c b) := by
    intro c b
    unfold primeActiveItem
    split
    next => exact .refl c
    next =>
      split
      next => exact .refl c
      next => exact moved_absorb c now b _
  refine Bumped.observed (Moved.bumped ?_ (bumped_advance _))
  exact (moved_foldl round read.rows c).trans (Moved.of_same rfl rfl)

theorem observed_primeCommit (read : PrimeRead) : Observed c (c.primeCommit read startSeq now) := by
  have round : ∀ (c : CachingStore) (b : Bead), Moved c (primeAddItem read startSeq now c b) := by
    intro c b
    unfold primeAddItem
    split
    next => exact .refl c
    next => exact moved_absorb c now b _
  have added : Moved c (c.primeAdd read startSeq now) :=
    (moved_foldl round _ c).trans (Moved.of_same rfl rfl)
  have loaded : Moved c (if c.mutationSeq = startSeq then c.primeReplace read now
      else c.primeAdd read startSeq now) := by
    split
    next => exact Moved.of_same rfl rfl
    next => exact added
  refine Bumped.observed (Moved.bumped ?_ (bumped_advance _))
  exact loaded.trans (Moved.of_same rfl rfl)

theorem observed_reconcileListFailed (partialResult : Bool) :
    Observed c (c.reconcileListFailed partialResult) := by
  unfold reconcileListFailed
  dsimp only
  split
  next =>
    have failed : Moved c { c with
      syncFailures := c.syncFailures + 1
      state := .cacheDegraded } := Moved.of_same rfl rfl
    exact (failed.bumped (bumped_advance _)).observed
  next => exact Moved.observed (Moved.of_same rfl rfl) rfl

variable (snap : Snapshot)

theorem moved_absorbLoopBody (p : MergePass) (fresh : Bead) :
    Moved p.cache (absorbLoopBody snap startSeq now fresh p).cache := by
  unfold absorbLoopBody
  dsimp only
  split
  next => exact .refl p.cache
  next =>
    dsimp only
    exact moved_absorb p.cache now fresh _

theorem moved_evictLoopBody (p : MergePass) (cached : Bead) :
    Moved p.cache (evictLoopBody snap startSeq now cached p).cache := by
  unfold evictLoopBody
  split
  next => exact .refl p.cache
  next =>
    dsimp only
    split
    next => exact .refl p.cache
    next =>
      split
      next => exact .refl p.cache
      next => exact (p.cache.bumped_evict cached.id).toMoved

theorem moved_gcLoopBody (id : String) : Moved c (gcLoopBody startSeq now id c) := by
  unfold gcLoopBody
  split
  next => exact .refl c
  next => exact Moved.of_same rfl rfl

theorem moved_afterSweep : Moved c (c.afterSweep snap startSeq now) := by
  have passes : ∀ (body : Bead → MergePass → MergePass),
      (∀ p b, Moved p.cache (body b p).cache) → ∀ (rows : List Bead) (p : MergePass),
      Moved p.cache (rows.foldl (fun p b => body b p) p).cache :=
    fun body round rows p =>
      foldl_reaches (R := fun p p' : MergePass => Moved p.cache p'.cache)
        (fun p => Moved.refl p.cache) Moved.trans round rows p
  have absorbed : Moved c (c.afterAbsorb snap startSeq now).cache :=
    passes _ (moved_absorbLoopBody startSeq now snap) snap.freshByID.rows
      { cache := c, nextDepsComplete := snap.useFreshDeps }
  have evicted : Moved c (c.afterEvict snap startSeq now).cache :=
    absorbed.trans (passes _ (moved_evictLoopBody startSeq now snap) _ _)
  unfold afterSweep
  split
  next =>
    exact evicted.trans (moved_foldl (fun c id => c.moved_gcLoopBody startSeq now id) _ _)
  next => exact evicted

theorem observed_mergeSnapshotLocked :
    Observed c (c.mergeSnapshotLocked snap startSeq now).1 := by
  have swept : Moved c { c.afterSweep (c.preserved snap) startSeq now with
      syncFailures := 0
      depsComplete := (c.afterEvict (c.preserved snap) startSeq now).nextDepsComplete
      primePartialErr := none } :=
    (c.moved_afterSweep startSeq now _).trans (Moved.of_same rfl rfl)
  refine ((swept.bumped (bumped_advance _)).then ?_).observed
  exact Moved.of_same rfl rfl

end Reads

end GasCity.CachingStore
