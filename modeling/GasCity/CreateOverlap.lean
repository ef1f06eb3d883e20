import GasCity.Interleave
import GasCity.MergeFrame
import GasCity.ReconcilePass

namespace GasCity

open KeyedList RowState

theorem MemStore.createDeterministic_new {m : MemStore} {want : CreateRequest} (now : Time)
    (unused : m.beads.find want.row.id = none) :
    ∃ row m', m.createDeterministic want now = (some (row, true), m') ∧ row.id = want.row.id ∧
      row.status = "open" ∧ m'.beads.find want.row.id = some row := by
  have free : (newRow want.row want.row.id now).id ∉ m.beads.keys :=
    find_eq_none_iff.mp unused
  unfold createDeterministic createLocked
  simp only [unused, want.unpadded, want.named, ne_eq, not_false_eq_true, and_self, if_true]
  rw [insertLocked, dif_neg free]
  refine ⟨newRow want.row want.row.id now, _, rfl, rfl, rfl, ?_⟩
  exact (find_push m.beads _ free _).trans (if_pos rfl)

theorem listed_iff (m : MemStore) (verdicts : String → Option Bool) (id : String) :
    ∃ rows, m.List cacheFullScanQuery = .ok rows ∧
      (((ofRows (rows.map (withVerdict verdicts)) : BeadMap).find id).isSome ↔
        ∃ row, m.beads.find id = some row ∧ row.status ≠ "closed") := by
  have scanned : m.List cacheFullScanQuery = .ok (m.beads.rows.filter cacheFullScanQuery.Matches) := by
    rfl
  refine ⟨_, scanned, ?_⟩
  rw [find_ofRows_isSome]
  constructor
  · rintro ⟨b, mem, own⟩
    obtain ⟨row, listed, rfl⟩ := List.mem_map.mp mem
    obtain ⟨stored, kept⟩ := List.mem_filter.mp listed
    exact ⟨row, find_eq_some_iff.mpr ⟨stored, own⟩, (matches_cacheFullScanQuery row).mp kept⟩
  · rintro ⟨row, found, opened⟩
    have own : (withVerdict verdicts row).id = id := show row.id = id from key_of_find found
    refine ⟨withVerdict verdicts row, List.mem_map_of_mem ?_, own⟩
    exact List.mem_filter.mpr ⟨mem_of_find found,
      (matches_cacheFullScanQuery row).mpr opened⟩

variable {fresh : BeadMap} {read : Except GetError Bead}

theorem mem_recoveryCandidates {c : CachingStore} {b : Bead} :
    b ∈ c.recoveryCandidates fresh ↔
      c.beads.find b.id = some b ∧ fresh.find b.id = none ∧ b.status ≠ "closed" := by
  unfold CachingStore.recoveryCandidates
  rw [find_eq_some_iff]
  simp

theorem recoverItem_own {closed : BeadMap} {cached bead : Bead} (own : bead.id = cached.id)
    (opened : bead.status ≠ "closed") (answer : read = .ok bead ∨ read = .error .failed) :
    ((recoverItem fresh closed cached read).1.find cached.id).isSome := by
  rcases answer with rfl | rfl <;> simp [recoverItem, own, opened]

theorem recoverItem_other {closed : BeadMap} {cached : Bead} {id : String} (other : cached.id ≠ id) :
    (recoverItem fresh closed cached read).1.find id = fresh.find id := by
  have kept : ∀ b : Bead, b.id = cached.id → (fresh.set b).find id = fresh.find id := by
    intro b own
    rw [find_set, own, if_neg other.symm]
  unfold recoverItem
  split
  next bead =>
    split
    next => exact kept cached rfl
    next own =>
      split
      next => rfl
      next => exact kept bead (not_not.mp own)
  next => rfl
  next => exact kept cached rfl

namespace CachingStore

theorem absorbOrdered_spec {c : CachingStore} {row : Bead} {sequence : Nat} (notify : Bool)
    (now : Time) (mutated : c.beadSeqOf row.id ≤ sequence)
    (deleted : c.deletedSeqOf row.id ≤ sequence) :
    let c' := (c.absorbOrderedAuthoritativeCreated row notify sequence now).1
    (∃ b, c'.beads.find row.id = some b ∧ b.status = row.status) ∧
      c'.beadSeqOf row.id = sequence ∧ c'.deletedSeqOf row.id = 0 ∧
      c'.mutationSeq = c.mutationSeq := by
  have current : ¬ (sequence < c.beadSeqOf row.id ∨ sequence < c.deletedSeqOf row.id) := by omega
  have absorbed := c.absorbOrderedAuthoritativeCreated_eq row notify sequence now
  rw [if_neg current] at absorbed
  obtain ⟨rows, globals, -⟩ := absorbFreshLocked_spec
    { c.releaseMutationReservation.advanceObservationLocked with
      beadSeq := c.beadSeq.insert row.id sequence
      localBeadAt := c.localBeadAt.insert row.id now } row now (writeOpts .depsFromFields [])
  have own := (rows row.id).trans (if_pos rfl)
  rw [← absorbed] at own globals
  refine ⟨⟨_, congrArg bead own, ?_⟩, ?_, ?_, congrArg Globals.mutationSeq globals⟩
  · unfold absorbedBead
    split <;> rfl
  · have fence := congrArg (fun r => r.beadSeq.getD 0) own
    simpa [absorb, clearsStamp, writeOpts, beadSeqOf] using fence
  · exact congrArg (fun r => r.deletedSeq.getD 0) own

section Merge

variable (c : CachingStore) (snap : Snapshot) (startSeq : Nat) (now : Time) {id : String}

theorem merge_fences_le (id : String) :
    (c.mergeSnapshotLocked snap startSeq now).1.beadSeqOf id ≤ c.beadSeqOf id ∧
      (c.mergeSnapshotLocked snap startSeq now).1.deletedSeqOf id ≤ c.deletedSeqOf id := by
  have merged := c.mergeSnapshotLocked_row snap startSeq now id
  have fences : ∀ r, r = c.row id → ∀ fresh,
      (mergeRow c.globals snap startSeq now fresh r).beadSeq.getD 0 ≤ r.beadSeq.getD 0 ∧
        (mergeRow c.globals snap startSeq now fresh r).deletedSeq.getD 0 ≤ r.deletedSeq.getD 0 := by
    intro r _ fresh
    unfold mergeRow mergeAbsorbRow sweepRow
    split <;> split <;> simp [absorb]
    split <;> simp
  have le := fences _ rfl ((snap.freshByID.find id).map (c.preservedRow snap))
  rw [← merged] at le
  exact le

/-- A pass keeps an open cached row with a fence exactly when its snapshot has the row, the fence is
above its start, the row was written just before, or a reservation is in flight. -/
theorem merge_keeps_iff {row : Bead} (cached : c.beads.find id = some row)
    (opened : row.status ≠ "closed") (marked : c.beadSeqOf id ≠ 0)
    (deleted : c.deletedSeqOf id ≤ c.beadSeqOf id) :
    ((c.mergeSnapshotLocked snap startSeq now).1.beads.find id).isSome ↔
      startSeq < c.beadSeqOf id ∨ (snap.freshByID.find id).isSome ∨
        recentLocalMutation (c.localBeadAtOf id) now = true ∨ 0 < c.reservedMutations := by
  have merged := congrArg bead (c.mergeSnapshotLocked_row snap startSeq now id)
  rw [row_bead] at merged
  rw [merged]
  have bead : (c.row id).bead = some row := cached
  cases found : snap.freshByID.find id with
  | some fresh =>
    have kept : (mergeAbsorbRow c.globals snap startSeq now (c.preservedRow snap fresh)
        (c.row id)).bead.isSome := by
      unfold mergeAbsorbRow
      split
      next => rw [bead]; rfl
      next => rfl
    simp [mergeRow, kept]
  | none =>
    have held : (c.row id).evictHeld row c.globals.reservedMutations startSeq now ↔
        startSeq < c.beadSeqOf id ∨ recentLocalMutation (c.localBeadAtOf id) now = true ∨
          0 < c.reservedMutations := by
      show (startSeq < c.deletedSeqOf id ∨ startSeq < c.beadSeqOf id) ∨
        row.status ≠ "closed" ∧ recentLocalMutation (c.localBeadAtOf id) now = true ∨
          0 < c.reservedMutations ∧
            (c.beadSeqOf id ≠ 0 ∨ c.deletedSeqOf id ≠ 0 ∨ c.localBeadAtOf id ≠ 0) ↔ _
      have below : startSeq < c.deletedSeqOf id ∨ startSeq < c.beadSeqOf id ↔
          startSeq < c.beadSeqOf id := by omega
      rw [below, and_iff_right opened, and_iff_left (.inl marked)]
    unfold mergeRow
    simp only [Option.map_none, bead]
    by_cases keep : (c.row id).evictHeld row c.globals.reservedMutations startSeq now
    · rw [if_pos keep, bead]
      simp [held.mp keep]
    · rw [if_neg keep]
      simpa using fun h => keep (held.mpr h)

theorem evicted_of_closed_note {n : CacheNotification}
    (noted : n ∈ (c.mergeSnapshotLocked snap startSeq now).2.notifications)
    (closed : n.eventType = .beadClosed) :
    (c.beads.find n.bead.id).isSome ∧
      (c.mergeSnapshotLocked snap startSeq now).1.beads.find n.bead.id = none := by
  rcases (c.mem_notifications snap startSeq now).mp noted with
    ⟨fresh, -, -, kind, -⟩ | ⟨cached, absent, found, free, -, -, sent⟩
  · rw [closed] at kind
    rcases absorbNotification_cases (c.row fresh.id) (c.preservedRow snap fresh)
      (mergeDeps c.globals snap (c.row fresh.id) (c.preservedRow snap fresh)) with h | h | h <;>
      simp [h] at kind
  · have own : n.bead.id = cached.id := by rw [sent, closedPayload_id]
    have merged := congrArg bead (c.mergeSnapshotLocked_row snap startSeq now cached.id)
    have bead : (c.row cached.id).bead = some cached := found
    unfold mergeRow at merged
    simp only [absent, Option.map_none, bead] at merged
    have gone : ¬ (c.row cached.id).evictHeld cached c.globals.reservedMutations startSeq now := free
    rw [if_neg gone] at merged
    rw [own]
    exact ⟨by rw [found]; rfl, merged⟩

end Merge

end CachingStore

end GasCity
