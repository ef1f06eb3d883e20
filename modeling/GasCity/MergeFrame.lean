import GasCity.MergeResult

namespace GasCity.CachingStore

open KeyedList

/-- Local state under an id is newer than the snapshot: a fence is above the start sequence, or
a recent local write disagrees with the snapshot row as the pre-pass leaves it, or a recent
local write put there an open row the snapshot lacks. -/
def LocallyNewer (c : CachingStore) (snap : Snapshot) (startSeq : Nat) (now : Time)
    (id : String) : Prop :=
  startSeq < c.beadSeqOf id ∨ startSeq < c.deletedSeqOf id ∨
    recentLocalMutation (c.localBeadAtOf id) now = true ∧
      ∃ cached, c.beads.find id = some cached ∧
        ((∃ fresh, snap.freshByID.find id = some fresh ∧
            beadChanged cached (c.preservedRow snap fresh) true = true) ∨
          snap.freshByID.find id = none ∧ cached.status ≠ "closed")

variable {c : CachingStore} {snap : Snapshot} {startSeq : Nat} {now : Time} {id : String}

variable (newer : c.LocallyNewer snap startSeq now id)

include newer

theorem absorbHeld_of_locallyNewer {fresh : Bead}
    (found : snap.freshByID.find id = some fresh) :
    (c.row id).absorbHeld (c.preservedRow snap fresh) startSeq now := by
  rcases newer with h | h | ⟨recent, cached, cachedAt, ⟨other, otherAt, changed⟩ | ⟨absent, -⟩⟩
  · exact .inl (.inr h)
  · exact .inl (.inl h)
  · obtain rfl : other = fresh := Option.some.inj (otherAt.symm.trans found)
    exact .inr ⟨recent, cached, cachedAt, changed⟩
  · simp [found] at absent

theorem evictHeld_of_locallyNewer {cached : Bead}
    (cachedAt : c.beads.find id = some cached) (absent : snap.freshByID.find id = none) :
    (c.row id).evictHeld cached c.reservedMutations startSeq now := by
  rcases newer with h | h | ⟨recent, other, otherAt, ⟨fresh, found, -⟩ | ⟨-, opened⟩⟩
  · exact .inl (.inr h)
  · exact .inl (.inl h)
  · simp [found] at absent
  · obtain rfl : other = cached := Option.some.inj (otherAt.symm.trans cachedAt)
    exact .inr (.inl ⟨opened, recent⟩)

theorem row_of_locallyNewer : (c.mergeSnapshotLocked snap startSeq now).1.row id = c.row id := by
  rw [mergeSnapshotLocked_row]
  unfold mergeRow
  cases found : snap.freshByID.find id with
  | some fresh => exact if_pos (absorbHeld_of_locallyNewer newer found)
  | none =>
    cases cachedAt : (c.row id).bead with
    | some cached => exact if_pos (evictHeld_of_locallyNewer newer cachedAt found)
    | none =>
      rcases newer with h | h | ⟨-, cached, present, -⟩
      · exact if_pos (.inl (.inr h))
      · exact if_pos (.inl (.inl h))
      · rw [row_bead, present] at cachedAt
        simp at cachedAt

theorem silent_of_locallyNewer
    {n : CacheNotification} (noted : n ∈ (c.mergeSnapshotLocked snap startSeq now).2.notifications) :
    n.bead.id ≠ id := by
  rintro rfl
  rcases (c.mem_notifications snap startSeq now).mp noted with
    ⟨fresh, found, free, -, sent⟩ | ⟨cached, absent, cachedAt, free, -, -, sent⟩
  · rw [sent, preservedRow_id] at newer
    exact free (absorbHeld_of_locallyNewer newer found)
  · rw [sent, closedPayload_id] at newer
    exact free (evictHeld_of_locallyNewer newer cachedAt absent)

omit newer

/-- Reconcile never clobbers a newer local state: all seven per-row maps keep what they hold
under the id, and nobody is notified about it. -/
theorem mergeSnapshotLocked_keeps_locally_newer (c : CachingStore) (snap : Snapshot)
    (startSeq : Nat) (now : Time) (id : String) (newer : c.LocallyNewer snap startSeq now id) :
    (c.mergeSnapshotLocked snap startSeq now).1.row id = c.row id ∧
      ∀ n ∈ (c.mergeSnapshotLocked snap startSeq now).2.notifications, n.bead.id ≠ id :=
  ⟨row_of_locallyNewer newer, fun _ noted => silent_of_locallyNewer newer noted⟩

/-- A row written locally one nanosecond before the pass, whose assignee the snapshot lacks. -/
def claimedLocally : CachingStore where
  beads := empty.set { id := "gc-1", status := "open", assignee := "worker" }
  localBeadAt := AList.insert "gc-1" 1 ∅

def unclaimedSnapshot : Snapshot where
  freshByID := empty.set { id := "gc-1", status := "open" }
  useFreshDeps := true

theorem claimedLocally_keeps :
    (claimedLocally.mergeSnapshotLocked unclaimedSnapshot 0 2).1.row "gc-1" =
        claimedLocally.row "gc-1" ∧
      ∀ n ∈ (claimedLocally.mergeSnapshotLocked unclaimedSnapshot 0 2).2.notifications,
        n.bead.id ≠ "gc-1" :=
  mergeSnapshotLocked_keeps_locally_newer claimedLocally unclaimedSnapshot 0 2 "gc-1"
    (.inr (.inr ⟨by decide, { id := "gc-1", status := "open", assignee := "worker" }, rfl,
      .inl ⟨{ id := "gc-1", status := "open" }, rfl, by decide⟩⟩))

/-- A row written locally one nanosecond before the pass, dirty, with a verdict that the
snapshot row does not carry. -/
def verdictHeld : CachingStore where
  beads := empty.set { id := "gc-1", status := "open", isBlocked := some false }
  deps := AList.insert "gc-1" [] ∅
  dirty := AList.insert "gc-1" () ∅
  localBeadAt := AList.insert "gc-1" 1 ∅

/-- The pre-pass copies the cached verdict into the snapshot row, so a row that differs from
its snapshot row in the verdict alone is absorbed although its local write is recent. -/
theorem recent_row_without_verdict_is_absorbed :
    ¬ ∀ (c : CachingStore) (snap : Snapshot) (startSeq : Nat) (now : Time) (id : String)
        (cached fresh : Bead), c.beads.find id = some cached →
        snap.freshByID.find id = some fresh → beadChanged cached fresh true = true →
        recentLocalMutation (c.localBeadAtOf id) now = true →
        (c.mergeSnapshotLocked snap startSeq now).1.row id = c.row id := by
  intro keeps
  have same := keeps verdictHeld unclaimedSnapshot 0 2 "gc-1"
    { id := "gc-1", status := "open", isBlocked := some false } { id := "gc-1", status := "open" }
    rfl rfl (by decide) (by decide)
  have cleaned : ((verdictHeld.mergeSnapshotLocked unclaimedSnapshot 0 2).1.row "gc-1").dirty =
      none := by decide
  rw [same] at cleaned
  cases cleaned

end GasCity.CachingStore
