import GasCity.FileStore

namespace GasCity

open KeyedList List

section OutOfBand

variable {counter : Bead → Int64}

theorem lookup_outOfBand_absent {rows : List Bead} {m : FinMap String Int64} {id : String}
    (absent : ∀ b ∈ rows, b.id ≠ id) :
    (rows.foldl (outOfBandItem counter) m).lookup id = m.lookup id := by
  induction rows generalizing m with
  | nil => rfl
  | cons a rows ih =>
    rw [foldl_cons, ih (fun b h => absent b (mem_cons_of_mem a h))]
    have other := absent a mem_cons_self
    unfold outOfBandItem
    split
    next => rw [FinMap.lookup_insert_ite, if_neg other.symm]
    next => rfl

theorem getD_lookup_outOfBand {rows : List Bead} {m : FinMap String Int64} {b : Bead}
    (nodup : (rows.map Bead.id).Nodup) (mem : b ∈ rows) (absent : m.lookup b.id = none) :
    ((rows.foldl (outOfBandItem counter) m).lookup b.id).getD 0 = counter b := by
  induction rows generalizing m with
  | nil => simp at mem
  | cons a rows ih =>
    obtain ⟨fresh, rest⟩ := nodup_cons.mp nodup
    rw [foldl_cons]
    rcases mem_cons.mp mem with rfl | later
    · have others : ∀ c ∈ rows, c.id ≠ b.id :=
        fun c h same => fresh (mem_map.mpr ⟨c, h, same⟩)
      rw [lookup_outOfBand_absent others]
      unfold outOfBandItem
      split
      next => rw [FinMap.lookup_insert_ite, if_pos rfl, Option.getD_some]
      next zero =>
        rw [absent]
        exact (not_not.mp zero).symm
    · have other : b.id ≠ a.id := fun same => fresh (mem_map.mpr ⟨b, later, same⟩)
      apply ih rest later
      unfold outOfBandItem
      split
      next => rw [FinMap.lookup_insert_ite, if_neg other, absent]
      next => exact absent

theorem outOfBand_of_find (counter : Bead → Int64) {beads : BeadMap} {id : String} {b : Bead}
    (found : beads.find id = some b) : ((outOfBand counter beads).lookup id).getD 0 = counter b := by
  obtain ⟨mem, rfl⟩ := find_eq_some_iff.mp found
  exact getD_lookup_outOfBand beads.nodup mem rfl

end OutOfBand

section Rows

variable (beads : BeadMap) (id : String)

theorem find_onDiskRows : (onDiskRows beads).find id = (beads.find id).map onDisk :=
  find_mapRows beads onDisk _ id

theorem find_applyBeadFences (fences : FinMap String Int64) :
    (applyBeadFences beads fences).find id = (beads.find id).map (applyFence fences) :=
  find_mapRows beads (applyFence fences) _ id

theorem find_applyBeadRevisions (revs : FinMap String Int64) :
    (applyBeadRevisions beads revs).find id = (beads.find id).map (applyRevision revs) :=
  find_mapRows beads (applyRevision revs) _ id

theorem find_raiseRevisions (seed : Int64) :
    (raiseRevisions seed beads).find id = (beads.find id).map (raiseRevision seed) :=
  find_mapRows beads (raiseRevision seed) _ id

end Rows

namespace FileStore

theorem find_reload_save {s : FileStore} {m : MemStore} (flushed : s.file = some (save m))
    (id : String) : s.reloadFromDisk.beads.find id = m.beads.find id := by
  unfold reloadFromDisk
  rw [flushed]
  show (applyBeadFences (applyBeadRevisionsSealed (save m)) (beadFences m.beads)).find id = _
  have sealed : applyBeadRevisionsSealed (save m) =
      applyBeadRevisions (onDiskRows m.beads) (beadRevisions m.beads) := by
    unfold applyBeadRevisionsSealed
    exact if_pos (.inl rfl)
  rw [sealed, find_applyBeadFences, find_applyBeadRevisions, find_onDiskRows]
  cases found : m.beads.find id with
  | none => rfl
  | some b =>
    have own := key_of_find found
    have revision := outOfBand_of_find Bead.revision found
    have fence := outOfBand_of_find Bead.claimFence found
    subst own
    show some { b with
      revision := ((beadRevisions m.beads).lookup b.id).getD 0
      claimFence := ((beadFences m.beads).lookup b.id).getD 0 } = some b
    unfold beadRevisions beadFences
    rw [revision, fence]

end FileStore

section Seed

theorem le_laterStamp (seed : Int64) (t : Time) : seed ≤ laterStamp seed t := by
  unfold laterStamp
  split
  next later => exact Int64.le_of_lt later.2
  next => exact Int64.le_refl seed

theorem stamp_le_laterStamp {seed : Int64} {t : Time} (set : t ≠ 0) :
    unixNano t ≤ laterStamp seed t := by
  unfold laterStamp
  split
  next => exact Int64.le_refl _
  next early => exact Int64.not_lt.mp (fun h => early ⟨set, h⟩)

theorem le_seedRow (seed : Int64) (b : Bead) : seed ≤ seedRow seed b :=
  Int64.le_trans (le_laterStamp seed b.updatedAt) (le_laterStamp _ b.createdAt)

theorem le_foldl_seedRow (rows : List Bead) (seed : Int64) : seed ≤ rows.foldl seedRow seed := by
  induction rows generalizing seed with
  | nil => exact Int64.le_refl seed
  | cons b rows ih => exact Int64.le_trans (le_seedRow seed b) (ih (seedRow seed b))

theorem floor_le_continuitySeed (beads : BeadMap) :
    revisionContinuityFloor ≤ continuitySeed beads :=
  le_foldl_seedRow beads.rows revisionContinuityFloor

def stampedFrom (r : Int64) (b : Bead) : Prop :=
  (b.updatedAt ≠ 0 ∧ r ≤ unixNano b.updatedAt) ∨ (b.createdAt ≠ 0 ∧ r ≤ unixNano b.createdAt)

theorem stampedFrom.le_seedRow {r seed : Int64} {b : Bead} (stamped : stampedFrom r b) :
    r ≤ seedRow seed b := by
  rcases stamped with ⟨set, le⟩ | ⟨set, le⟩
  · have first : unixNano b.updatedAt ≤ laterStamp seed b.updatedAt := stamp_le_laterStamp set
    exact Int64.le_trans (Int64.le_trans le first) (le_laterStamp _ b.createdAt)
  · exact Int64.le_trans le (stamp_le_laterStamp set)

theorem stampedFrom.le_foldl_seedRow {r : Int64} {rows : List Bead} {b : Bead} (mem : b ∈ rows)
    (stamped : stampedFrom r b) (seed : Int64) : r ≤ rows.foldl seedRow seed := by
  induction rows generalizing seed with
  | nil => simp at mem
  | cons a rows ih =>
    rcases mem_cons.mp mem with rfl | later
    · exact Int64.le_trans stamped.le_seedRow (GasCity.le_foldl_seedRow rows _)
    · exact ih later _

theorem stampedFrom.le_continuitySeed {r : Int64} {beads : BeadMap} {b : Bead} (mem : b ∈ beads.rows)
    (stamped : stampedFrom r b) : r ≤ continuitySeed beads :=
  stamped.le_foldl_seedRow mem revisionContinuityFloor

end Seed

namespace FileStore

def reseeded (seed : Int64) (b : Bead) : Bead := { b with revision := seed, claimFence := 0 }

theorem reload_onDisk {seed : Int64} (low : 0 < seed) (b : Bead) :
    applyFence ∅ (raiseRevision seed (applyRevision ∅ (onDisk b))) = reseeded seed b := by
  have zero : (applyRevision ∅ (onDisk b)).revision = 0 := rfl
  unfold raiseRevision
  rw [zero, if_pos low]
  rfl

theorem find_reload_rewrite (s : FileStore) (ops : List LegacyOp) (id : String) :
    (s.rewrite ops).reloadFromDisk.beads.find id =
      ((s.legacyRows ops).beads.find id).map
        (reseeded (continuitySeed (onDiskRows (s.legacyRows ops).beads))) := by
  generalize rows : s.legacyRows ops = m
  unfold rewrite reloadFromDisk
  rw [rows]
  show (applyBeadFences (applyBeadRevisionsSealed (legacySave m)) ∅).find id = _
  have unsealed : applyBeadRevisionsSealed (legacySave m) =
      if (false = true) ∨ (onDiskRows m.beads).rows.length = 0 then
        applyBeadRevisions (onDiskRows m.beads) ∅
      else raiseRevisions (continuitySeed (onDiskRows m.beads))
        (applyBeadRevisions (onDiskRows m.beads) ∅) := rfl
  rw [unsealed]
  have kept : (onDiskRows m.beads).find id = (m.beads.find id).map onDisk := find_onDiskRows _ id
  cases found : m.beads.find id with
  | none =>
    rw [found] at kept
    rw [find_applyBeadFences]
    split
    next => rw [find_applyBeadRevisions, kept]; rfl
    next => rw [find_raiseRevisions, find_applyBeadRevisions, kept]; rfl
  | some b =>
    rw [found] at kept
    have nonempty : ¬ ((false = true) ∨ (onDiskRows m.beads).rows.length = 0) := by
      rintro (h | h)
      · simp at h
      · have mem := mem_of_find kept
        rw [length_eq_zero_iff.mp h] at mem
        simp at mem
    have low : (0 : Int64) < continuitySeed (onDiskRows m.beads) :=
      Int64.lt_of_lt_of_le (by decide) (floor_le_continuitySeed _)
    rw [if_neg nonempty, find_applyBeadFences, find_raiseRevisions, find_applyBeadRevisions, kept]
    exact congrArg some (reload_onDisk low b)

end FileStore

end GasCity
