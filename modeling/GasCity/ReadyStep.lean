import GasCity.ReadyReads

namespace GasCity

open CachingStore MemStore

namespace CachingStore

variable {c : CachingStore}

theorem dirty_keys_of_clean (clean : ∀ j, c.dirty.lookup j = none) : c.dirty.keys = [] := by
  apply List.eq_nil_iff_forall_not_mem.mpr
  intro j mem
  obtain ⟨v, found⟩ := FinMap.mem_keys_iff.mp mem
  rw [clean j] at found
  cases found

theorem readCacheWithOverlay_clean (clean : ∀ j, c.dirty.lookup j = none)
    (gate : CachingStore → Bool) (get : BackingGet) (depList : String → Option (List Dep)) (now : Time) :
    c.readCacheWithOverlay gate get depList now = (c, if gate c then some [] else none) := by
  have done : c.dirtyToRefreshLocked [] = [] := by
    rw [dirtyToRefreshLocked, dirty_keys_of_clean clean]
    rfl
  unfold readCacheWithOverlay overlayPass
  cases gate c with
  | false => rfl
  | true =>
    simp only [done]
    rfl

theorem getRoute_clean (clean : ∀ j, c.dirty.lookup j = none) (id : String) (startSeq : Nat) :
    c.getRoute id ≠ .refetch startSeq := by
  intro routed
  unfold getRoute at routed
  dsimp only at routed
  rw [clean id] at routed
  split at routed
  next => cases routed
  next =>
    split at routed
    next =>
      split at routed
      next => cases routed
      next stale =>
        split at routed
        next servable => exact stale ⟨rfl, .inr servable⟩
        next => cases routed
    next =>
      split at routed
      next dirty => exact absurd dirty.2 (by simp)
      next => cases routed

end CachingStore

/-- What a call needs for the cache to stay sound. A write whose refresh rebuilds the cached
dependencies from the row's fields needs them there; a reopen needs the cached ones; a live or
parent list needs the fields of the rows that carry any. No backing call fails. -/
def CacheOp.Covered (fields : RowFields) (s : CachingStore × MemStore) (call : CacheOp × Time) :
    Prop :=
  let (c, m) := s
  let now := call.2
  match call.1 with
  | .prime => True
  | .create b => ∀ created m', m.Create b now = (.ok created, m') → FieldsCover fields m' created.id
  | .update id opts => c.updateMatchesCached id opts = false →
    FieldsCover fields (m.Update id opts now).2 id
  | .setMetadata id key value => c.metadataAlreadyMatchesCached id (AList.insert key value ∅) = false →
    FieldsCover fields (m.SetMetadata id key value now).2 id
  | .setMetadataBatch id kvs => kvs.entries.length ≠ 0 →
    c.metadataAlreadyMatchesCached id kvs = false →
      (m.beads.find id).isSome ∧ FieldsCover fields (m.SetMetadataBatch id kvs now).2 id
  | .releaseIfCurrent id expectedAssignee => ∀ m',
    m.ReleaseIfCurrent id expectedAssignee now = (.ok true, m') → FieldsCover fields m' id
  | .close _ => True
  | .reopen id => Covers (m.DepList id .down) (c.depsOf id)
  | .tx ops => (∀ op ∈ ops, op.Named) ∧ ∃ t m', TxOp.runSequentialTx now ops m {} = (.ok t, m') ∧
    ∀ j ∈ t.ids, FieldsCover fields m' j
  | .depWrite w => (m.beads.find w.issueID).isSome
  | .get _ => True
  | .list query => query.live = true ∨ query.parentID ≠ "" →
    ∀ id ∈ listRefreshes fields c m query, CarriedCover fields m id

variable {fields : RowFields}

theorem SoundBut.next {s : CachingStore × MemStore} {call : CacheOp × Time}
    (sound : SoundBut [] s.1 s.2) (covered : CacheOp.Covered fields s call) :
    SoundBut [] (CacheOp.next fields s call).1 (CacheOp.next fields s call).2 := by
  obtain ⟨c, m⟩ := s
  obtain ⟨op, now⟩ := call
  unfold CacheOp.next
  cases op with dsimp only
  | prime => exact sound.prime
  | create b =>
    split
    next created m' ok => exact sound.create ok (covered created m' ok)
    next => exact sound
  | update id opts =>
    split
    next => exact sound
    next differs =>
      have covers := covered (by simpa using differs)
      split
      next u m' ok =>
        rw [ok] at covers
        exact sound.update ok covers
      next => exact sound
  | setMetadata id key value =>
    split
    next => exact sound
    next differs =>
      have covers := covered (by simpa using differs)
      split
      next u m' ok =>
        obtain ⟨row, wrote⟩ := setMetadata_wrote ok
        rw [ok] at covers
        exact sound.setMetadata wrote covers _
      next => exact sound
  | setMetadataBatch id kvs =>
    split
    next => exact sound
    next some =>
      split
      next => exact sound
      next differs =>
        obtain ⟨held, covers⟩ := covered some (by simpa using differs)
        split
        next u m' ok =>
          obtain ⟨row, wrote⟩ := setMetadataBatch_wrote some ok
          rw [ok] at covers
          exact sound.setMetadata wrote covers _
        next err m' failed =>
          obtain ⟨row, found⟩ := Option.isSome_iff_exists.mp held
          simp [MemStore.SetMetadataBatch, some, found] at failed
  | releaseIfCurrent id assignee =>
    split
    next m' ok =>
      obtain ⟨row, wrote⟩ := releaseIfCurrent_wrote ok
      exact sound.release wrote (covered m' ok)
    next => exact sound
  | close id =>
    split
    next => exact sound
    next =>
      split
      next u m' ok =>
        obtain ⟨row, closed, wrote⟩ := close_wrote ok
        exact sound.setStatus .beadClosed wrote closed fun active => absurd rfl active
      next => exact sound
  | reopen id =>
    split
    next u m' ok =>
      obtain ⟨row, opened, wrote⟩ := reopen_wrote ok
      refine sound.setStatus .beadUpdated wrote opened fun _ => ?_
      have edges : m'.DepList id .down = m.DepList id .down := reopen_deps ok
      rw [edges]
      exact covered
    next => exact sound
  | tx ops =>
    obtain ⟨named, t, m', ok, covers⟩ := covered
    rw [ok]
    exact sound.tx named ok covers
  | depWrite w => exact sound.depWrite w covered
  | get id =>
    split
    next startSeq fresh routed _ => exact absurd routed (getRoute_clean sound.clean id startSeq)
    next => exact sound
  | list query =>
    split
    next => exact sound
    next =>
      split
      next fresh => exact sound.list (covered fresh)
      next =>
        rw [readCacheWithOverlay_clean sound.clean]
        exact sound

end GasCity
