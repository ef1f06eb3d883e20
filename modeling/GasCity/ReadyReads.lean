import GasCity.ReadyPrime

namespace GasCity

open CachingStore List

variable {fields : RowFields} {c : CachingStore} {m : MemStore} {now : Time}

/-- The row the store returns for a bead carries no dependency fields, or all its blocking edges. -/
def CarriedCover (fields : RowFields) (m : MemStore) (id : String) : Prop :=
  ∀ row, m.beads.find id = some row →
    beadCarriesDependencyFields (m.returned fields row) = true → FieldsCover fields m id

def listRefreshes (fields : RowFields) (c : CachingStore) (m : MemStore) (query : ListQuery) :
    List String :=
  (m.returnedList fields query).map Bead.id ++
    c.staleParentCacheIDs query.parentID (m.returnedList fields query) ++
    c.staleLiveCacheIDs query (m.returnedList fields query)

theorem refetch_removed {ids : List String} (held : ∀ id ∈ ids, (m.beads.find id).isSome) :
    (refetch (m.returnedGet fields) ids).removed = [] := by
  unfold refetch
  rw [filter_eq_nil_iff]
  intro id mem
  obtain ⟨row, found⟩ := Option.isSome_iff_exists.mp (held id mem)
  simp [returnedGet_of_found found]

theorem mem_refetch_found {ids : List String} {b : Bead}
    (mem : b ∈ (refetch (m.returnedGet fields) ids).found) :
    ∃ row, m.beads.find row.id = some row ∧ row.id ∈ ids ∧ b = m.returned fields row := by
  obtain ⟨id, listed, read⟩ := mem_filterMap.mp mem
  cases found : m.beads.find id with
  | none => simp [MemStore.returnedGet, MemStore.returnedRow, found, Except.toOption] at read
  | some row =>
    have own : row.id = id := KeyedList.key_of_find found
    rw [returnedGet_of_found found] at read
    rw [← own] at found listed
    exact ⟨row, found, listed, (Option.some.inj read).symm⟩

structure LiveSound (c : CachingStore) (m : MemStore) : Prop where
  sound : SoundBut [] c m
  live : c.state = .cacheLive

theorem SoundBut.live_of_servable (sound : SoundBut [] c m) (servable : c.eventServable = true) :
    LiveSound c m := by
  refine ⟨sound, ?_⟩
  rcases sound.primed with cold | live
  · simp [eventServable, cold] at servable
  · exact live

namespace LiveSound

/-- A listed row keeps the cached dependencies of a bead it carries none for; a live cache has
them for every active bead. -/
theorem absorbListed {row : Bead} (sound : LiveSound c m)
    (found : m.beads.find row.id = some row) (covers : CarriedCover fields m row.id) :
    LiveSound (c.absorbFreshLocked (m.returned fields row) now listRefreshOpts) m := by
  have globals := (c.absorbFreshLocked_spec (m.returned fields row) now listRefreshOpts).2.1
  refine ⟨?_, (congrArg Globals.state globals).trans sound.live⟩
  have wider : SoundBut [row.id] c m := sound.sound.mono fun j none => absurd none not_mem_nil
  refine wider.absorb (m.returned fields row) now listRefreshOpts rfl found rfl fun active => ?_
  show Covers _ ((if beadCarriesDependencyFields (m.returned fields row) then
    some (depsFromBeadFields (m.returned fields row)) else c.deps.lookup row.id).getD [])
  split
  next carries => exact covers row found carries row found active
  next =>
    have before := sound.sound.rows row.id not_mem_nil
    obtain ⟨b, cached⟩ := Option.isSome_iff_exists.mp (before.held sound.live row found active)
    obtain ⟨stored, found', status⟩ := before.status b cached
    have same : stored = row := Option.some.inj (found'.symm.trans found)
    subst same
    exact before.covers b cached fun closed => active (status.trans closed)

theorem refreshItem {query : ListQuery} {startSeq : Nat} {p : CachingStore × List Bead} {row : Bead}
    (sound : LiveSound p.1 m) (found : m.beads.find row.id = some row)
    (covers : CarriedCover fields m row.id) :
    LiveSound (CachingStore.refreshItem query startSeq now p (m.returned fields row)).1 m := by
  unfold CachingStore.refreshItem
  dsimp only
  split
  next => exact sound
  next =>
    split
    next => exact sound
    next =>
      split
      next => exact sound
      next =>
        split
        next => exact sound
        next => exact sound.absorbListed found covers

theorem refreshMissing {startSeq : Nat} {row : Bead} (sound : LiveSound c m)
    (found : m.beads.find row.id = some row) (covers : CarriedCover fields m row.id) :
    LiveSound (CachingStore.refreshMissing startSeq now c (m.returned fields row)) m := by
  unfold CachingStore.refreshMissing
  split
  next => exact sound
  next =>
    split
    next => exact sound
    next => exact sound.absorbListed found covers

theorem refreshFound {ids : List String} (startSeq : Nat) (now : Time) (sound : LiveSound c m)
    (covers : ∀ id ∈ ids, CarriedCover fields m id) :
    LiveSound ((refetch (m.returnedGet fields) ids).found.foldl
      (CachingStore.refreshMissing startSeq now) c) m := by
  refine foldlRecOn (motive := fun c => LiveSound c m) _ _ sound fun c' kept b mem => ?_
  obtain ⟨row, found, listed, rfl⟩ := mem_refetch_found mem
  exact kept.refreshMissing found (covers row.id listed)

theorem refreshItems {query : ListQuery} (startSeq : Nat) (now : Time) (sound : LiveSound c m)
    (covers : ∀ id ∈ (m.returnedList fields query).map Bead.id, CarriedCover fields m id) :
    LiveSound ((m.returnedList fields query).foldl
      (CachingStore.refreshItem query startSeq now) (c, [])).1 m := by
  refine foldlRecOn (motive := fun p : CachingStore × List Bead => LiveSound p.1 m) _ _
    sound fun p kept b mem => ?_
  have listed := covers b.id (mem_map_of_mem mem)
  obtain ⟨row, found, _, rfl⟩ := mem_returnedList mem
  exact kept.refreshItem found listed

end LiveSound

namespace SoundBut

theorem stored_of_cached (sound : SoundBut [] c m) {p : Bead → Bool} {id : String}
    (mem : id ∈ (c.beads.rows.filter p).map Bead.id) : (m.beads.find id).isSome := by
  obtain ⟨b, kept, rfl⟩ := mem_map.mp mem
  have cached : c.beads.find b.id = some b :=
    KeyedList.find_key_of_mem (mem_filter.mp kept).1
  obtain ⟨row, found, _⟩ := (sound.rows b.id not_mem_nil).status b cached
  rw [found]
  rfl

theorem list {query : ListQuery} (sound : SoundBut [] c m)
    (covers : ∀ id ∈ listRefreshes fields c m query, CarriedCover fields m id) :
    SoundBut [] (c.refreshCachedBeads (m.returnedGet fields) query
      (m.returnedList fields query) now).1 m := by
  have parentsHeld : ∀ id ∈ c.staleParentCacheIDs query.parentID (m.returnedList fields query),
      (m.beads.find id).isSome := by
    intro id mem
    unfold staleParentCacheIDs at mem
    split at mem
    next => cases mem
    next => exact sound.stored_of_cached mem
  have missingHeld : ∀ id ∈ c.staleLiveCacheIDs query (m.returnedList fields query),
      (m.beads.find id).isSome := by
    intro id mem
    unfold staleLiveCacheIDs at mem
    split at mem
    next => cases mem
    next => exact sound.stored_of_cached mem
  unfold refreshCachedBeads refreshCommit
  rw [refetch_removed parentsHeld, refetch_removed missingHeld]
  split
  next => exact sound
  next =>
    split
    next => exact sound
    next servable =>
      have live := sound.live_of_servable (by simpa using servable)
      have listed := live.refreshItems c.mutationSeq now fun id mem =>
        covers id (mem_append_left _ (mem_append_left _ mem))
      have parents := listed.refreshFound c.mutationSeq now fun id mem =>
        covers id (mem_append_left _ (mem_append_right _ mem))
      have missing := parents.refreshFound c.mutationSeq now fun id mem =>
        covers id (mem_append_right _ mem)
      exact missing.sound

end SoundBut

end GasCity
