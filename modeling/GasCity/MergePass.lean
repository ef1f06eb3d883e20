import Mathlib.Data.List.Dedup
import Mathlib.Tactic.Tauto
import GasCity.MergeSnapshot

namespace GasCity.CachingStore

def preserved (c : CachingStore) (snap : Snapshot) : Snapshot :=
  { snap with
    freshByID := c.preserveCachedReadyProjectionLocked snap.freshByID snap.depMap snap.useFreshDeps }

theorem find_preserved (c : CachingStore) (snap : Snapshot) (j : String) :
    (c.preserved snap).freshByID.find j = (snap.freshByID.find j).map (c.preservedRow snap) :=
  c.find_preserveCachedReadyProjectionLocked snap j

section

variable (c : CachingStore) (snap : Snapshot) (startSeq : Nat) (now : Time)

def afterAbsorb : MergePass :=
  snap.freshByID.rows.foldl (fun p b => absorbLoopBody snap startSeq now b p)
    { cache := c, nextDepsComplete := snap.useFreshDeps }

def afterEvict : MergePass :=
  (c.afterAbsorb snap startSeq now).cache.beads.rows.foldl
    (fun p b => evictLoopBody snap startSeq now b p) (c.afterAbsorb snap startSeq now)

def afterSweep : CachingStore :=
  if (c.afterEvict snap startSeq now).cache.reservedMutations = 0 then
    ((c.afterEvict snap startSeq now).cache.orphanFenceIDsLocked snap.freshByID).foldl
      (fun c id => gcLoopBody startSeq now id c) (c.afterEvict snap startSeq now).cache
  else (c.afterEvict snap startSeq now).cache

theorem mergeSnapshotLocked_eq :
    c.mergeSnapshotLocked snap startSeq now =
      ({ c.afterSweep (c.preserved snap) startSeq now with
          syncFailures := 0
          depsComplete := (c.afterEvict (c.preserved snap) startSeq now).nextDepsComplete
          primePartialErr := none }.advanceObservationLocked.promoteLiveLocked,
        (c.afterEvict (c.preserved snap) startSeq now).res) := rfl

theorem absorbLoopBody_ownSlot (g : Globals) :
    OwnSlot Bead.id (fun (p : MergePass) id => p.cache.row id) (fun _ => True)
      (fun p => p.cache.globals = g)
      (absorbLoopBody snap startSeq now) (mergeAbsorbRow g snap startSeq now) :=
  ⟨fun fresh p _ globals => (absorbLoopBody_spec g snap startSeq now fresh p globals).1,
    fun fresh p j _ globals => (absorbLoopBody_spec g snap startSeq now fresh p globals).2.1 j⟩

theorem evictLoopBody_ownSlot (g : Globals) :
    OwnSlot Bead.id (fun (p : MergePass) id => p.cache.row id) (fun _ => True)
      (fun p => p.cache.globals = g)
      (evictLoopBody snap startSeq now) (mergeEvictRow g snap startSeq now) :=
  ⟨fun cached p _ globals => (evictLoopBody_spec g snap startSeq now cached p globals).1,
    fun cached p j _ globals => (evictLoopBody_spec g snap startSeq now cached p globals).2.1 j⟩

theorem gcLoopBody_ownSlot (g : Globals) (reserved : g.reservedMutations = 0) :
    OwnSlot id row (fun _ => True) (fun c => c.globals = g)
      (gcLoopBody startSeq now) (fun _ => sweepRow g startSeq now) :=
  ⟨fun id c _ globals => (gcLoopBody_spec g startSeq now id c reserved).1.trans globals,
    fun id c j _ _ => (gcLoopBody_spec g startSeq now id c reserved).2 j⟩

theorem afterAbsorb_globals : (c.afterAbsorb snap startSeq now).cache.globals = c.globals :=
  (absorbLoopBody_ownSlot snap startSeq now c.globals).foldl_good (fun _ _ => trivial) rfl

variable (j : String)

theorem afterAbsorb_row : (c.afterAbsorb snap startSeq now).cache.row j =
      match snap.freshByID.find j with
      | some b => mergeAbsorbRow c.globals snap startSeq now b (c.row j)
      | none => c.row j := by
  have looped := (absorbLoopBody_ownSlot snap startSeq now c.globals).foldl_view snap.freshByID
    (fun _ _ => trivial) (s := { cache := c, nextDepsComplete := snap.useFreshDeps }) rfl j
  refine looped.trans ?_
  cases snap.freshByID.find j <;> rfl

theorem afterEvict_globals : (c.afterEvict snap startSeq now).cache.globals = c.globals :=
  (evictLoopBody_ownSlot snap startSeq now c.globals).foldl_good (fun _ _ => trivial)
    (c.afterAbsorb_globals snap startSeq now)

theorem afterEvict_row : (c.afterEvict snap startSeq now).cache.row j =
      match snap.freshByID.find j, (c.row j).bead with
      | some b, _ => mergeAbsorbRow c.globals snap startSeq now b (c.row j)
      | none, some cached =>
        if (c.row j).evictHeld cached c.reservedMutations startSeq now then c.row j else {}
      | none, none => c.row j := by
  have evicted := (evictLoopBody_ownSlot snap startSeq now c.globals).foldl_view
    (c.afterAbsorb snap startSeq now).cache.beads (fun _ _ => trivial)
    (c.afterAbsorb_globals snap startSeq now) j
  have absorbed := c.afterAbsorb_row snap startSeq now j
  rw [afterEvict, evicted]
  cases fresh : snap.freshByID.find j with
  | some b =>
    simp only [fresh] at absorbed
    cases cached : (c.afterAbsorb snap startSeq now).cache.beads.find j with
    | none => exact absorbed
    | some old => simpa [mergeEvictRow, KeyedList.key_of_find cached, fresh] using absorbed
  | none =>
    simp only [fresh] at absorbed
    rw [show (c.afterAbsorb snap startSeq now).cache.beads.find j = (c.row j).bead from
      congrArg RowState.bead absorbed]
    cases cached : (c.row j).bead with
    | none => exact absorbed
    | some old =>
      have same : old.id = j := KeyedList.key_of_find cached
      simp only [mergeEvictRow, same, fresh, Option.isSome_none, Bool.false_eq_true, false_or,
        absorbed]
      rfl

theorem mem_orphanFenceIDsLocked {d : CachingStore} {freshByID : BeadMap} {id : String} :
    id ∈ d.orphanFenceIDsLocked freshByID ↔
      (d.row id).bead = none ∧ freshByID.find id = none ∧
        ¬ ((d.row id).deletedSeq = none ∧ (d.row id).dirty = none ∧ (d.row id).beadSeq = none ∧
          (d.row id).localBeadAt = none ∧ (d.row id).deps = none) := by
  have present : ∀ {α : Type} (m : FinMap String α), id ∈ m.keys ↔ ¬ m.lookup id = none := by
    intro α m
    rw [FinMap.mem_keys_iff, ← ne_eq, Option.ne_none_iff_exists']
  simp only [orphanFenceIDsLocked, List.mem_dedup, List.mem_filter, List.mem_append, present,
    Bool.and_eq_true, Option.isNone_iff_eq_none, row]
  tauto

theorem sweepRow_of_no_fence {g : Globals} {r : RowState}
    (none : r.deletedSeq = none ∧ r.dirty = none ∧ r.beadSeq = none ∧ r.localBeadAt = none ∧
      r.deps = none) : sweepRow g startSeq now r = r := by
  unfold sweepRow
  split
  next => rfl
  next =>
    cases r
    simp_all

theorem afterSweep_row_of_evict : (c.afterSweep snap startSeq now).row j =
      if ((c.afterEvict snap startSeq now).cache.row j).bead = none ∧ snap.freshByID.find j = none
      then sweepRow c.globals startSeq now ((c.afterEvict snap startSeq now).cache.row j)
      else (c.afterEvict snap startSeq now).cache.row j := by
  have globals := c.afterEvict_globals snap startSeq now
  have reserved : (c.afterEvict snap startSeq now).cache.reservedMutations =
      c.globals.reservedMutations := congrArg Globals.reservedMutations globals
  unfold afterSweep
  by_cases none : c.globals.reservedMutations = 0
  · rw [if_pos (reserved.trans none)]
    have slots := gcLoopBody_ownSlot startSeq now c.globals none
    by_cases orphan : j ∈ (c.afterEvict snap startSeq now).cache.orphanFenceIDsLocked snap.freshByID
    · have alone := mem_orphanFenceIDsLocked.mp orphan
      rw [if_pos ⟨alone.1, alone.2.1⟩]
      exact slots.foldl_view_of_mem (fun _ _ => trivial)
        (by simpa [orphanFenceIDsLocked] using List.nodup_dedup _) globals orphan
    · have unmapped : j ∉ ((c.afterEvict snap startSeq now).cache.orphanFenceIDsLocked
          snap.freshByID).map id := by simpa using orphan
      refine (slots.foldl_view_of_not_mem (fun _ _ => trivial) globals unmapped).trans ?_
      split
      next alone =>
        have bare := mt (fun h => mem_orphanFenceIDsLocked.mpr ⟨alone.1, alone.2, h⟩) orphan
        exact (sweepRow_of_no_fence startSeq now (not_not.mp bare)).symm
      next => rfl
  · rw [if_neg (fun h => none (reserved.symm.trans h))]
    have held : ((c.afterEvict snap startSeq now).cache.row j).sweepHeld
        c.globals.reservedMutations startSeq now := .inr (.inr (by omega))
    simp [sweepRow, held]

theorem afterSweep_row : (c.afterSweep snap startSeq now).row j =
      mergeRow c.globals snap startSeq now (snap.freshByID.find j) (c.row j) := by
  have evicted := c.afterEvict_row snap startSeq now j
  rw [afterSweep_row_of_evict]
  unfold mergeRow
  cases fresh : snap.freshByID.find j with
  | some b =>
    simpa [fresh] using evicted
  | none =>
    cases cached : (c.row j).bead with
    | none =>
      simp only [fresh, cached] at evicted
      rw [if_pos ⟨by rw [evicted]; exact cached, rfl⟩, evicted]
    | some old =>
      simp only [fresh, cached] at evicted
      by_cases held : (c.row j).evictHeld old c.reservedMutations startSeq now
      · rw [if_pos held] at evicted
        rw [if_neg (by rw [evicted, cached]; simp), evicted]
        exact (if_pos held).symm
      · rw [if_neg held] at evicted
        rw [evicted, sweepRow_of_no_fence startSeq now ⟨rfl, rfl, rfl, rfl, rfl⟩]
        exact (if_neg held).symm

theorem mergeSnapshotLocked_row : (c.mergeSnapshotLocked snap startSeq now).1.row j =
      mergeRow c.globals snap startSeq now ((snap.freshByID.find j).map (c.preservedRow snap))
        (c.row j) := by
  rw [← c.find_preserved snap j]
  exact c.afterSweep_row (c.preserved snap) startSeq now j

end

end GasCity.CachingStore
