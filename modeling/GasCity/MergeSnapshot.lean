import GasCity.MergeRow

namespace GasCity.CachingStore

open KeyedList

variable (c : CachingStore) (snap : Snapshot) (item : Bead)

def preserves : Prop :=
  item.isBlocked = none ∧ (c.row item.id).cachedVerdict ≠ none ∧
    depsChanged (c.depsOf item.id) (mergeDeps c.globals snap (c.row item.id) item) = false ∧
    c.readyBlockingDependencyTargetStatusChangedLocked
      (mergeDeps c.globals snap (c.row item.id) item) snap.freshByID = false

instance (c : CachingStore) (snap : Snapshot) (item : Bead) : Decidable (c.preserves snap item) :=
  inferInstanceAs (Decidable (_ ∧ _))

def preservedRow : Bead :=
  if c.preserves snap item then { item with isBlocked := (c.row item.id).cachedVerdict } else item

theorem preservedRow_id : (c.preservedRow snap item).id = item.id := by
  unfold preservedRow
  split <;> rfl

theorem preservedRow_status : (c.preservedRow snap item).status = item.status := by
  unfold preservedRow
  split <;> rfl

theorem targetStatusChanged_congr (deps : List Dep) {items items' : BeadMap}
    (same : ∀ id, (items.find id).map Bead.status = (items'.find id).map Bead.status) :
    c.readyBlockingDependencyTargetStatusChangedLocked deps items =
      c.readyBlockingDependencyTargetStatusChangedLocked deps items' := by
  unfold readyBlockingDependencyTargetStatusChangedLocked
  congr 1
  funext dep
  have h := same dep.dependsOnID
  cases a : items.find dep.dependsOnID <;> cases b : items'.find dep.dependsOnID <;> simp [a, b] at h
  · rfl
  · cases c.beads.find dep.dependsOnID <;> simp [h]

/-- The rows of the snapshot still have the statuses the snapshot came with. -/
def SameStatuses (items : BeadMap) : Prop :=
  ∀ id, (items.find id).map Bead.status = (snap.freshByID.find id).map Bead.status

theorem preserveStep_eq {items : BeadMap} (same : SameStatuses snap items) :
    c.preserveStep snap.depMap snap.useFreshDeps item items =
      if c.preserves snap item then items.set (c.preservedRow snap item) else items := by
  have target := c.targetStatusChanged_congr (mergeDeps c.globals snap (c.row item.id) item) same
  unfold preserveStep
  by_cases fresh : item.isBlocked = none
  · rw [if_neg (by simp [fresh])]
    cases cached : c.beads.find item.id with
    | none =>
      rw [if_neg (fun h => h.2.1 (by simp [RowState.cachedVerdict, cached]))]
    | some old =>
      have verdict : (c.row item.id).cachedVerdict = old.isBlocked := by
        simp [RowState.cachedVerdict, cached]
      dsimp only
      by_cases unset : old.isBlocked = none
      · rw [if_pos unset, if_neg (fun h => h.2.1 (verdict.trans unset))]
      · rw [if_neg unset]
        change (if depsChanged (c.depsOf item.id) (mergeDeps c.globals snap (c.row item.id) item)
          then _ else if c.readyBlockingDependencyTargetStatusChangedLocked
            (mergeDeps c.globals snap (c.row item.id) item) items then _ else _) = _
        rw [target]
        by_cases moved : depsChanged (c.depsOf item.id)
            (mergeDeps c.globals snap (c.row item.id) item) = true
        · rw [if_pos moved, if_neg (fun h => by simp [h.2.2.1] at moved)]
        · rw [if_neg moved]
          by_cases switched : c.readyBlockingDependencyTargetStatusChangedLocked
              (mergeDeps c.globals snap (c.row item.id) item) snap.freshByID = true
          · rw [if_pos switched, if_neg (fun h => by simp [h.2.2.2] at switched)]
          · have keeps : c.preserves snap item :=
              ⟨fresh, by rw [verdict]; exact unset, by simpa using moved, by simpa using switched⟩
            rw [if_neg switched, if_pos keeps, preservedRow, if_pos keeps, verdict]
  · rw [if_pos fresh, if_neg (fun h => fresh h.1)]

theorem preserveStep_ownSlot :
    OwnSlot Bead.id find (fun item => item ∈ snap.freshByID.rows) (SameStatuses snap)
      (c.preserveStep snap.depMap snap.useFreshDeps)
      (fun item r => if c.preserves snap item then some (c.preservedRow snap item) else r) := by
  have view : ∀ item items j, SameStatuses snap items →
      (c.preserveStep snap.depMap snap.useFreshDeps item items).find j =
        if j = item.id then
          (if c.preserves snap item then some (c.preservedRow snap item) else items.find j)
        else items.find j := by
    intro item items j same
    rw [preserveStep_eq c snap item same]
    by_cases keeps : c.preserves snap item
    · rw [if_pos keeps, if_pos keeps, find_set, preservedRow_id]
    · simp [keeps]
  refine ⟨?_, fun item items j _ same => view item items j same⟩
  intro item items mem same id
  rw [view item items id same]
  by_cases h : id = item.id
  · subst h
    by_cases keeps : c.preserves snap item
    · simp [keeps, preservedRow_status, find_key_of_mem mem]
    · simpa [keeps] using same item.id
  · simpa [h] using same id

theorem find_preserveCachedReadyProjectionLocked (j : String) :
    (c.preserveCachedReadyProjectionLocked snap.freshByID snap.depMap snap.useFreshDeps).find j =
      (snap.freshByID.find j).map (c.preservedRow snap) := by
  have := (c.preserveStep_ownSlot snap).foldl_view snap.freshByID (fun _ h => h)
    (s := snap.freshByID) (fun _ => rfl) j
  rw [preserveCachedReadyProjectionLocked, this]
  cases hf : snap.freshByID.find j with
  | none => rfl
  | some item =>
    by_cases keeps : c.preserves snap item
    · simp [keeps]
    · simp [keeps, preservedRow]

end GasCity.CachingStore
