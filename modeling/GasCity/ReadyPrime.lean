import GasCity.ReadyWrites

namespace GasCity

open KeyedList List

namespace CachingStore

theorem lookup_carry {α : Type} (source target : FinMap String α) (id j : String) :
    (carry source target id).lookup j =
      if j = id then (source.lookup j).or (target.lookup j) else target.lookup j := by
  unfold carry
  split
  next v found =>
    rw [FinMap.lookup_insert_ite]
    split
    next here => rw [here, found, Option.some_or]
    next => rfl
  next none =>
    split
    next here => rw [here, none, Option.none_or]
    next => rfl

def PrimeNext.view (next : PrimeNext) (j : String) :
    Option Bead × Option (List Dep) × Option Unit :=
  (next.beads.find j, next.deps.lookup j, next.dirty.lookup j)

theorem carryRow_ownSlot (c : CachingStore) (beadMap : BeadMap) (now : Time) :
    OwnSlot Bead.id PrimeNext.view (fun _ => True) (fun _ => True)
      (fun current next => c.carryRow beadMap now next current)
      (fun current v =>
        if c.primeKeeps beadMap now current then
          (some current, (c.deps.lookup current.id).or v.2.1, (c.dirty.lookup current.id).or v.2.2)
        else v) where
  keeps _ _ _ _ := trivial
  view_body current next j _ _ := by
    unfold carryRow
    split
    next kept =>
      simp only [PrimeNext.view, find_set, lookup_carry]
      by_cases here : j = current.id
      · subst here
        simp only [if_true]
      · simp only [if_neg here]
    next => rw [ite_self]

theorem primeReplace_cases (c : CachingStore) (read : PrimeRead) (now : Time) (j : String) :
    (∃ current, c.beads.find j = some current ∧
      (c.primeReplace read now).beads.find j = some current ∧
      (c.primeReplace read now).deps.lookup j = (c.deps.lookup j).or
        ((depsFromBeads (ofRows read.rows) read.depMap read.depsComplete).lookup j) ∧
      (c.primeReplace read now).dirty.lookup j = c.dirty.lookup j) ∨
    ((c.primeReplace read now).beads.find j = (ofRows read.rows : BeadMap).find j ∧
      (c.primeReplace read now).deps.lookup j =
        (depsFromBeads (ofRows read.rows) read.depMap read.depsComplete).lookup j ∧
      (c.primeReplace read now).dirty.lookup j = none) := by
  have slot := (c.carryRow_ownSlot (ofRows read.rows) now).foldl_view c.beads
    (fun _ _ => trivial) (s := ⟨ofRows read.rows,
      depsFromBeads (ofRows read.rows) read.depMap read.depsComplete, ∅, ∅, ∅, ∅⟩)
    trivial j
  cases cached : c.beads.find j with
  | none =>
    rw [cached] at slot
    obtain ⟨beads, rest⟩ := Prod.mk.inj slot
    obtain ⟨deps, dirty⟩ := Prod.mk.inj rest
    exact .inr ⟨beads, deps, dirty⟩
  | some current =>
    rw [cached] at slot
    have own : current.id = j := key_of_find cached
    dsimp only at slot
    split at slot
    next =>
      obtain ⟨beads, rest⟩ := Prod.mk.inj slot
      obtain ⟨deps, dirty⟩ := Prod.mk.inj rest
      rw [own] at deps dirty
      exact .inl ⟨current, rfl, beads, deps, dirty.trans (Option.or_none)⟩
    next =>
      obtain ⟨beads, rest⟩ := Prod.mk.inj slot
      obtain ⟨deps, dirty⟩ := Prod.mk.inj rest
      exact .inr ⟨beads, deps, dirty⟩

end CachingStore

open CachingStore

variable {fields : RowFields} {c : CachingStore} {m : MemStore} {now : Time}

theorem mem_returnedList {query : ListQuery} {b : Bead} (mem : b ∈ m.returnedList fields query) :
    ∃ row, m.beads.find b.id = some row ∧ query.Matches row = true ∧ b = m.returned fields row := by
  obtain ⟨row, listed, rfl⟩ := mem_map.mp mem
  have sorted : row ∈ sortBeadsForQuery (m.beads.rows.filter query.Matches) query.sort := by
    unfold applyListQuery cutAt at listed
    split at listed
    next => exact mem_of_mem_take listed
    next => exact listed
  have kept : row ∈ m.beads.rows.filter query.Matches := by
    unfold sortBeadsForQuery at sorted
    split at sorted
    next => exact sorted
    next => exact (perm_insertionSort _ _).mem_iff.mp sorted
    next => exact (perm_insertionSort _ _).mem_iff.mp sorted
  obtain ⟨stored, matched⟩ := mem_filter.mp kept
  exact ⟨row, find_key_of_mem stored, matched, rfl⟩

theorem primeRead_lists {row : Bead} {j : String} (found : m.beads.find j = some row)
    (active : row.status ≠ "closed") :
    ((ofRows (m.primeRead fields).rows : BeadMap).find j).isSome := by
  rw [find_ofRows_isSome]
  have own : (m.returned fields row).id = j := show row.id = j from key_of_find found
  refine ⟨m.returned fields row, mem_map_of_mem ?_, own⟩
  exact mem_filter.mpr
    ⟨mem_of_find found, (matches_cacheFullScanQuery row).mpr active⟩

theorem primeRead_deps {b : Bead} {j : String}
    (listed : (ofRows (m.primeRead fields).rows : BeadMap).find j = some b) :
    (depsFromBeads (ofRows (m.primeRead fields).rows) (m.primeRead fields).depMap
      (m.primeRead fields).depsComplete).lookup j = some (m.DepList j .down) := by
  have mem : b ∈ (m.primeRead fields).rows := mem_of_find_ofRows listed
  have own : b.id = j := key_of_find listed
  have fetched : (m.primeRead fields).depMap.lookup j = some (m.DepList j .down) := by
    refine (FinMap.lookup_foldl_insert (fun id => id) (fun id => m.DepList id .down) _ ∅ j).trans ?_
    rw [if_pos]
    rw [map_id', ← own]
    exact mem_map_of_mem mem
  refine (FinMap.lookup_foldl_insert Bead.id
    (fun id => ((m.primeRead fields).depMap.lookup id).getD []) _ ∅ j).trans ?_
  rw [if_pos, fetched]
  · rfl
  · exact mem_keys_iff.mpr ⟨b, listed⟩

namespace SoundBut

theorem prime (sound : SoundBut [] c m) :
    SoundBut [] (c.primeCommit (m.primeRead fields) c.mutationSeq now) m := by
  have replaced : c.primeCommit (m.primeRead fields) c.mutationSeq now =
      advanceObservationLocked { c.primeReplace (m.primeRead fields) now with
        state := .cacheLive
        syncFailures := 0
        primePartialErr := none } := by
    unfold primeCommit
    rw [if_pos rfl]
    rfl
  rw [replaced]
  refine ⟨?_, ?_, .inr rfl, ?_⟩
  · intro j
    show ((c.primeReplace (m.primeRead fields) now).beads.find j).bind Bead.isBlocked = none
    rcases c.primeReplace_cases (m.primeRead fields) now j with ⟨current, cached, kept, _⟩ | ⟨put, _⟩
    · have bare := sound.bare j
      rw [RowState.cachedVerdict, row_bead, cached] at bare
      rw [kept]
      exact bare
    · rw [put]
      cases listed : (ofRows (m.primeRead fields).rows : BeadMap).find j with
      | none => rfl
      | some b =>
        obtain ⟨row, _, _, same⟩ := mem_returnedList (mem_of_find_ofRows listed)
        rw [same]
        rfl
  · intro j
    show (c.primeReplace (m.primeRead fields) now).dirty.lookup j = none
    rcases c.primeReplace_cases (m.primeRead fields) now j with ⟨_, _, _, _, kept⟩ | ⟨_, _, put⟩
    · rw [kept]
      exact sound.clean j
    · exact put
  · intro j _
    show RowSound _ ((c.primeReplace (m.primeRead fields) now).beads.find j)
      (((c.primeReplace (m.primeRead fields) now).deps.lookup j).getD []) _ _
    have before := sound.rows j not_mem_nil
    rcases c.primeReplace_cases (m.primeRead fields) now j with
      ⟨current, cached, kept, deps, _⟩ | ⟨put, deps, _⟩
    · rw [kept, deps]
      rw [cached] at before
      refine ⟨before.status, ?_, fun _ _ _ _ => rfl⟩
      intro b same active
      have covers := before.covers b same active
      rw [depsOf] at covers
      cases held : c.deps.lookup j with
      | none =>
        rw [held] at covers
        exact covers.of_empty
      | some known =>
        rw [held] at covers
        exact covers
    · rw [put]
      refine ⟨?_, ?_, fun _ row found active => primeRead_lists found active⟩
      · intro b listed
        have own : b.id = j := key_of_find listed
        obtain ⟨row, found, _, same⟩ := mem_returnedList (mem_of_find_ofRows listed)
        rw [own] at found
        exact ⟨row, found, by rw [same]; rfl⟩
      · intro b listed _
        rw [deps, primeRead_deps listed]
        exact .refl _

end SoundBut

end GasCity
