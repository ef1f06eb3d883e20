import GasCity.ObservedReads
import GasCity.SortKey
import Mathlib.Data.Prod.Lex
import Mathlib.Data.String.Basic

namespace GasCity

def createdKey (b : Bead) : Lex (Int × String) := toLex (b.createdAt, b.id)

theorem createdLess_iff (a b : Bead) : createdLess a b = true ↔ createdKey a < createdKey b := by
  unfold createdLess createdKey
  rw [Prod.Lex.toLex_lt_toLex]
  split
  next same => simp [same]
  next apart => simp [apart]

theorem sortBeadsForQuery_eq_of_perm {order : SortOrder} (explicit : order ≠ .sortDefault)
    {rows rows' : List Bead} (perm : rows.Perm rows') (nodup : (rows.map Bead.id).Nodup) :
    sortBeadsForQuery rows order = sortBeadsForQuery rows' order := by
  have apart : ∀ a ∈ rows, ∀ b ∈ rows, createdKey a = createdKey b → a = b := by
    intro a left b right same
    have ids : a.id = b.id := congrArg (fun k => (ofLex k).2) same
    exact List.inj_on_of_nodup_map nodup left right ids
  cases order with
  | sortDefault => exact absurd rfl explicit
  | sortCreatedAsc =>
    refine insertionSort_eq_of_perm createdKey ?_ perm apart
    intro a b
    rw [createdLess_iff, not_lt]
  | sortCreatedDesc =>
    refine insertionSort_eq_of_perm (fun b => OrderDual.toDual (createdKey b)) ?_ perm ?_
    · intro a b
      rw [createdLess_iff, not_lt]
      exact OrderDual.toDual_le_toDual.symm
    · intro a left b right same
      exact apart a left b right (OrderDual.toDual.injective same)

namespace CachingStore

variable (c : CachingStore)

def observationAdmissibleLocked : Bool :=
  (c.state == .cacheLive || c.state == .cachePartial) && c.primePartialErr == none &&
    c.dirty.entries.isEmpty && c.observationRevision != 0

def collectCachedListLocked (ranged : List Bead) (query : ListQuery) : List Bead :=
  applyListQuery ranged query

/-- The rows of a census and its stamp, when the query and the cache admit one. -/
def ObservedList (query : ListQuery) (ranged : List Bead) :
    Option (List Bead × UInt64) :=
  if query.Validate ≠ none ∨ (!query.HasFilter && !query.allowScan) ∨ query.live ∨
      query.IncludesClosed ∨ query.parentID ≠ "" ∨ query.parentIDs.length > 0 then none
  else if !c.observationAdmissibleLocked then none
  else some (collectCachedListLocked ranged query, c.observationRevision)

def WithCurrentObservation (observation : UInt64) : Bool :=
  !(observation == 0 || observation != c.observationRevision || !c.observationAdmissibleLocked)

/-- The locked sections of the cache's operations, with whatever the calls brought into them. -/
inductive Section where
  | created (created : Bead) (notify : Bool) (now : Time)
  | reserved
  | released
  | createdOrdered (created : Bead) (notify : Bool) (sequence : Nat) (now : Time)
  | updated (id : String) (opts : UpdateOpts) (read : Except GetError Bead) (now : Time)
  | releasedIfCurrent (id : String) (fresh : Option Bead) (now : Time)
  | closed (id : String) (fresh : Option Bead) (now : Time)
  | reopened (id : String) (fresh : Option Bead) (now : Time)
  | closedAll (ids : List String) (reads : List (String × Option Bead)) (now : Time)
  | metadataSet (id : String) (kvs : StringMap) (fresh : Option Bead) (now : Time)
  | metadataFailed (id : String)
  | txRefreshed (items : List TouchedBead) (now : Time)
  | depWritten (w : DepWrite) (fresh : Option (Bead × List Dep)) (now : Time)
  | deleted (id : String) (now : Time)
  | batchDeleted (ids : List String) (now : Time)
  | conditionalEvicted (id : String) (now : Time)
  | conditionalFailed (id : String) (failure : ConditionalFailure) (now : Time)
  | graphApplied (items : List (String × Option (Bead × List Dep))) (now : Time)
  | eventDirty (id : String)
  | eventCommitted (eventType : EventType) (patch : Bead) (fields : BeadPayload)
      (depsAuthoritative : Bool) (v : EventVerified) (now : Time)
  | depEvent (id : String) (deps : List Dep)
  | depsFilled (id : String) (deps : List Dep)
  | dirtyGot (fresh : Bead) (startSeq : Nat) (now : Time)
  | listed (query : ListQuery) (startSeq : Nat) (items : List Bead) (parents missing : Refetched)
      (now : Time)
  | overlaid (gate : CachingStore → Bool) (fetched : List OverlayFetched) (startSeq : Nat)
      (now : Time)
  | projectionLatched
  | primedActive (read : PrimeRead) (startSeq : Nat) (now : Time)
  | primed (read : PrimeRead) (startSeq : Nat) (now : Time)
  | reconcileFailed (partialResult : Bool)
  | reconciled (snap : Snapshot) (startSeq : Nat) (now : Time)

def enter : Section → CachingStore
  | .created created notify now => (c.absorbAuthoritativeCreated created notify now).1
  | .reserved => c.reserveMutationSequence.1
  | .released => c.releaseMutationReservation
  | .createdOrdered created notify sequence now =>
    (c.absorbOrderedAuthoritativeCreated created notify sequence now).1
  | .updated id opts read now => (c.updateCommit id opts read now).1
  | .releasedIfCurrent id fresh now => (c.releaseCommit id fresh now).1
  | .closed id fresh now => (c.closeCommit id fresh now).1
  | .reopened id fresh now => (c.reopenCommit id fresh now).1
  | .closedAll ids reads now => (c.closeAllCommit ids reads now).1
  | .metadataSet id kvs fresh now => (c.setMetadataCommit id kvs fresh now).1
  | .metadataFailed id => c.setMetadataBatchFailed id
  | .txRefreshed items now => (c.refreshTxTouchedBeads items now).1
  | .depWritten w fresh now => (c.depWriteCommit w fresh now).1
  | .deleted id now => c.deleteCommit id now
  | .batchDeleted ids now => c.evictBatchDeletedLocked ids now
  | .conditionalEvicted id now => c.evictForConditionalWrite id now
  | .conditionalFailed id failure now => c.applyConditionalWriteFailure id failure now
  | .graphApplied items now => (c.refreshGraphAppliedBeads items now).1
  | .eventDirty id => c.markDirtyLocked id
  | .eventCommitted eventType patch fields depsAuthoritative v now =>
    c.applyEventCommit eventType patch fields depsAuthoritative v now
  | .depEvent id deps => c.ApplyDepEvent id deps
  | .depsFilled id deps => c.setDeps id deps
  | .dirtyGot fresh startSeq now => c.getDirtyCommit fresh startSeq now
  | .listed query startSeq items parents missing now =>
    (c.refreshCommit query startSeq items parents missing now).1
  | .overlaid gate fetched startSeq now => overlayCommit gate c fetched startSeq now
  | .projectionLatched => { c with readyProjectionDegraded := true }
  | .primedActive read startSeq now => c.primeActiveCommit read startSeq now
  | .primed read startSeq now => c.primeCommit read startSeq now
  | .reconcileFailed partialResult => c.reconcileListFailed partialResult
  | .reconciled snap startSeq now => (c.mergeSnapshotLocked snap startSeq now).1

theorem enter_observed (s : Section) : Observed c (c.enter s) := by
  cases s with
  | created created notify now => exact c.observed_absorbAuthoritativeCreated now created notify
  | reserved | released | projectionLatched => exact Moved.observed (Moved.of_same rfl rfl) rfl
  | createdOrdered created notify sequence now =>
    exact c.observed_absorbOrdered now created notify sequence
  | updated id opts read now => exact c.observed_updateCommit id now opts read
  | releasedIfCurrent id fresh now => exact c.observed_releaseCommit id now fresh
  | closed id fresh now | reopened id fresh now => exact c.observed_statusCommit id now _ _ fresh
  | closedAll ids reads now => exact c.observed_closeAllCommit now ids reads
  | metadataSet id kvs fresh now => exact c.observed_setMetadataCommit id now kvs fresh
  | metadataFailed id => exact c.observed_setMetadataBatchFailed id
  | txRefreshed items now => exact c.observed_refreshTxTouchedBeads now items
  | depWritten w fresh now => exact c.observed_depWriteCommit now w fresh
  | deleted id now => exact (c.bumped_deleteCommit id now).observed
  | batchDeleted ids now => exact c.observed_evictBatchDeleted now ids
  | conditionalEvicted id now => exact c.observed_evictForConditionalWrite id now
  | conditionalFailed id failure now => exact c.observed_applyConditionalWriteFailure id now failure
  | graphApplied items now => exact c.observed_refreshGraphAppliedBeads now items
  | eventDirty id => exact (c.bumped_markDirty id).observed
  | eventCommitted eventType patch fields depsAuthoritative v now =>
    exact c.observed_applyEventCommit fields now eventType patch depsAuthoritative v
  | depEvent id deps => exact c.observed_applyDepEvent id deps
  | depsFilled id deps => exact (c.moved_setDeps id deps).observed rfl
  | dirtyGot fresh startSeq now => exact c.observed_getDirtyCommit startSeq now fresh
  | listed query startSeq items parents missing now =>
    exact c.observed_refreshCommit startSeq now query items parents missing
  | overlaid gate fetched startSeq now => exact c.observed_overlayCommit startSeq now gate fetched
  | primedActive read startSeq now => exact c.observed_primeActiveCommit startSeq now read
  | primed read startSeq now => exact c.observed_primeCommit startSeq now read
  | reconcileFailed partialResult => exact c.observed_reconcileListFailed partialResult
  | reconciled snap startSeq now => exact c.observed_mergeSnapshotLocked startSeq now snap

end CachingStore

end GasCity
