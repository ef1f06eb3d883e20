import GasCity.CacheObservation

namespace GasCity

theorem cutAt_of_le {limit : Nat} {items : List Bead} (fits : limit = 0 ∨ items.length ≤ limit) :
    cutAt limit items = items := by
  refine if_neg ?_
  omega

theorem perm_sortBeadsForQuery (items : List Bead) (order : SortOrder) :
    (sortBeadsForQuery items order).Perm items := by
  cases order with
  | sortDefault => exact List.Perm.refl items
  | sortCreatedAsc | sortCreatedDesc => exact List.perm_insertionSort _ items

/-- A query without an explicit sort sees the rows of a map up to order, where its limit cuts
nothing. -/
theorem applyListQuery_perm {query : ListQuery} {rows rows' : List Bead} (perm : rows.Perm rows')
    (fits : query.limit = 0 ∨ (rows.filter query.Matches).length ≤ query.limit) :
    (applyListQuery rows' query).Perm (applyListQuery rows query) := by
  have matching := perm.filter query.Matches
  have sorts := fun items => perm_sortBeadsForQuery items query.sort
  have length := (sorts (rows.filter query.Matches)).length_eq
  have length' := (sorts (rows'.filter query.Matches)).length_eq
  have same := matching.length_eq
  unfold applyListQuery
  rw [cutAt_of_le (by omega), cutAt_of_le (by omega)]
  exact ((sorts _).trans matching.symm).trans (sorts _).symm

namespace CachingStore

theorem run_observed (c : CachingStore) (sections : List Section) :
    Observed c (sections.foldl enter c) :=
  observed_foldl enter_observed sections c

theorem ObservedList_eq_some {c : CachingStore} {query : ListQuery} {ranged rows : List Bead}
    {observation : UInt64} (observed : c.ObservedList query ranged = some (rows, observation)) :
    rows = collectCachedListLocked ranged query ∧ observation = c.observationRevision := by
  unfold ObservedList at observed
  split at observed
  next => simp at observed
  next =>
    split at observed
    next => simp at observed
    next =>
      obtain ⟨rfl, rfl⟩ := Prod.mk.inj (Option.some.inj observed)
      exact ⟨rfl, rfl⟩

theorem beads_of_current {c c' : CachingStore} (observed : Observed c c')
    (few : c'.advances - c.advances < 18446744073709551615)
    (current : c'.WithCurrentObservation c.observationRevision = true) : c'.beads = c.beads := by
  have same : c'.observationRevision = c.observationRevision := by
    unfold WithCurrentObservation at current
    simp at current
    exact current.1.2.symm
  have unmoved := observed.stamped.unmoved noCycle_nextNonzero few same
  exact congrArg Prod.fst (observed.stamped.still unmoved)

/-- A census whose stamp is still current is the census of the moment: in the same order under an
explicit sort, and up to order where the limit cuts nothing. -/
theorem current_stamp_certifies_census (c : CachingStore) (query : ListQuery)
    (ranged ranged' rows : List Bead) (observation : UInt64) (sections : List Section)
    (ranges : ranged.Perm c.beads.rows)
    (observed : c.ObservedList query ranged = some (rows, observation))
    (few : (sections.foldl enter c).advances - c.advances < 2 ^ 64 - 1)
    (current : (sections.foldl enter c).WithCurrentObservation observation = true)
    (ranges' : ranged'.Perm (sections.foldl enter c).beads.rows) :
    (query.sort ≠ .sortDefault → collectCachedListLocked ranged' query = rows) ∧
      (query.limit = 0 ∨ (ranged.filter query.Matches).length ≤ query.limit →
        (collectCachedListLocked ranged' query).Perm rows) := by
  obtain ⟨rfl, rfl⟩ := ObservedList_eq_some observed
  have beads := beads_of_current (c.run_observed sections) few current
  rw [beads] at ranges'
  have perm : ranged.Perm ranged' := ranges.trans ranges'.symm
  have nodup : (ranged.map Bead.id).Nodup := (ranges.map Bead.id).nodup_iff.mpr c.beads.nodup
  refine ⟨?_, fun fits => applyListQuery_perm perm fits⟩
  intro explicit
  have kept : ((ranged.filter query.Matches).map Bead.id).Nodup :=
    nodup.sublist (List.filter_sublist.map Bead.id)
  have sorted := sortBeadsForQuery_eq_of_perm explicit (perm.filter query.Matches) kept
  unfold collectCachedListLocked applyListQuery
  rw [sorted]

def twoRows : CachingStore where
  beads := (KeyedList.empty.set { id := "gc-1", status := "open" }).set
    { id := "gc-2", status := "open" }
  state := .cacheLive
  observationRevision := 1

/-- Reserving a sequence number leaves the stamp current, and a sort hides the map's order. -/
theorem twoRows_census_stands :
    collectCachedListLocked twoRows.beads.rows.reverse { status := "open", sort := .sortCreatedAsc } =
      collectCachedListLocked twoRows.beads.rows { status := "open", sort := .sortCreatedAsc } :=
  (current_stamp_certifies_census twoRows { status := "open", sort := .sortCreatedAsc }
    twoRows.beads.rows twoRows.beads.rows.reverse _ 1 [.reserved] (List.Perm.refl _) rfl
    (by decide) (by decide) (List.reverse_perm _)).1 (by decide)

/-- A limit without a sort cuts the map wherever its order falls. -/
theorem census_of_limit_depends_on_order :
    ¬ ∀ (c : CachingStore) (query : ListQuery) (ranged ranged' rows : List Bead)
        (observation : UInt64) (sections : List Section), ranged.Perm c.beads.rows →
        c.ObservedList query ranged = some (rows, observation) →
        (sections.foldl enter c).advances - c.advances < 2 ^ 64 - 1 →
        (sections.foldl enter c).WithCurrentObservation observation = true →
        ranged'.Perm (sections.foldl enter c).beads.rows →
        (collectCachedListLocked ranged' query).Perm rows := by
  intro certifies
  have perm := certifies twoRows { status := "open", limit := 1 } twoRows.beads.rows
    twoRows.beads.rows.reverse _ 1 [] (List.Perm.refl _) rfl (by decide) (by decide)
    (List.reverse_perm _)
  have ids := perm.map Bead.id
  exact absurd ids (by decide)

end CachingStore

end GasCity
