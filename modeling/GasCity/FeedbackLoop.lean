import GasCity.EchoFrame

namespace GasCity

open KeyedList

/-- The snapshot is of this backing: a row the backing has and the snapshot lacks is closed. -/
structure Snapshot.TakenFrom (snap : Snapshot) (get : BackingGet) : Prop where
  own : ∀ id b, get id = .ok b → b.id = id
  inactive : ∀ id b, get id = .ok b → snap.freshByID.find id = none → b.status = "closed"
  confirmed : ∀ id b, snap.confirmedClosed.find id = some b → b.status = "closed"

theorem cacheEventHasDependencyField_marshalBead (b : Bead) :
    cacheEventHasDependencyField (marshalBead b) = beadCarriesDependencyFields b := by
  cases h : b.dependencies <;> cases h' : b.needs <;>
    simp [cacheEventHasDependencyField, marshalBead, beadCarriesDependencyFields, h, h']

theorem Snapshot.TakenFrom.closedPayload_status {snap : Snapshot}
    {get : BackingGet} (taken : snap.TakenFrom get) (cached : Bead) :
    (closedPayload snap.confirmedClosed cached).status = "closed" := by
  unfold closedPayload
  split
  next found => exact taken.confirmed cached.id _ found
  next => rfl

namespace CachingStore

variable (c : CachingStore)

/-- The echo of an eviction costs no verdict: with dependency fields in its payload it clears the
rows that wait for it, without them it clears every row. -/
def CloseSafe (snap : Snapshot) (cached : Bead) : Prop :=
  if beadCarriesDependencyFields (closedPayload snap.confirmedClosed cached) then
    ¬ c.VerdictWaitsFor snap cached.id
  else ∀ row, ¬ c.InstallsVerdict snap row

structure FeedbackSafe (c : CachingStore) (snap : Snapshot) : Prop where
  updated : ∀ fresh, snap.freshByID.find fresh.id = some fresh → c.ownsBeadID fresh.id = true →
    (depsFromBeadFields fresh).Perm ((snap.depMap.lookup fresh.id).getD []) ∨
      absorbNotification (c.row fresh.id) (c.preservedRow snap fresh)
        ((snap.depMap.lookup fresh.id).getD []) ≠ some .beadUpdated
  created : ∀ fresh, snap.freshByID.find fresh.id = some fresh → c.ownsBeadID fresh.id = true →
    c.beads.find fresh.id = none → ¬ c.VerdictWaitsFor snap fresh.id
  closed : ∀ cached, c.beads.find cached.id = some cached → cached.status ≠ "closed" →
    snap.freshByID.find cached.id = none → c.ownsBeadID cached.id = true →
    c.CloseSafe snap cached

variable {c c' : CachingStore} {snap : Snapshot} {get : BackingGet} {now : Time} {startSeq : Nat}

theorem Echoing.closed (echoing : Echoing c c' snap) (taken : snap.TakenFrom get)
    (safe : c.FeedbackSafe snap) {cached : Bead} (absent : snap.freshByID.find cached.id = none)
    (cachedAt : c.beads.find cached.id = some cached) (opened : cached.status ≠ "closed") :
    Echoing c (c'.ApplyEventSnapshot get .beadClosed
      (.raw (marshalBead (closedPayload snap.confirmedClosed cached))) now) snap := by
  obtain ⟨p, hp⟩ : ∃ p, p = closedPayload snap.confirmedClosed cached := ⟨_, rfl⟩
  have id : p.id = cached.id := by rw [hp, closedPayload_id]
  have status : p.status = "closed" := by rw [hp, taken.closedPayload_status]
  rw [← hp]
  rcases c'.applyEventSnapshot_cases get .beadClosed p now with
    same | dirty | ⟨owned, m, known, row, result⟩
  · rw [same]
    exact echoing
  · rw [dirty]
    exact echoing.markDirty p.id
  · rw [echoing.owns, id] at owned
    have closeSafe := safe.closed cached cachedAt opened absent owned
    rw [CloseSafe, ← hp, ← cacheEventHasDependencyField_marshalBead] at closeSafe
    have written : m.id = cached.id ∧ m.status = "closed" := by
      rcases row with rfl | backing | ⟨current, found, rfl⟩
      · exact ⟨id, status⟩
      · rw [id] at backing
        exact ⟨taken.own cached.id m backing, taken.inactive cached.id m backing absent⟩
      · exact ⟨(key_of_find found).trans id, status⟩
    rw [result]
    apply echoing.applyEventRow_closed
    · rw [written.1]
      exact absent
    · exact written.2
    · rw [written.1]
      exact closeSafe

theorem Quiet.echoing (quiet : c.Quiet startSeq now) (complete : snap.useFreshDeps = true) :
    Echoing c (c.mergeSnapshotLocked snap startSeq now).1 snap := by
  have globals := c.mergeSnapshotLocked_globals snap startSeq now
  have reserved := congrArg Globals.reservedMutations globals
  have unmarked : ∀ id, (c.mergeSnapshotLocked snap startSeq now).1.beadSeq.lookup id = none ∧
      (c.mergeSnapshotLocked snap startSeq now).1.deletedSeq.lookup id = none ∧
      (c.mergeSnapshotLocked snap startSeq now).1.localBeadAt.lookup id = none := by
    intro id
    obtain ⟨lost, merged⟩ := quiet.row_merged snap id
    rw [← row_beadSeq, ← row_deletedSeq, ← row_localBeadAt, merged]
    cases snap.freshByID.find id <;> exact ⟨rfl, rfl, rfl⟩
  exact
    { installed := quiet.installed complete
      owns := congrArg Globals.ownsBeadID globals
      live := congrArg Globals.state globals
      reserved := reserved.trans quiet.reserved
      seqs := by
        intro id
        rw [beadSeqOf, (unmarked id).1]
        exact Nat.zero_le _
      undeleted := fun id => (unmarked id).2.1
      unstamped := fun id => (unmarked id).2.2
      unfenced := fun id _ _ => (unmarked id).1
      complete := .inl (quiet.depsComplete_merged complete) }

theorem Echoing.quiet (echoing : Echoing c c' snap) (now : Time) : c'.Quiet c'.mutationSeq now := by
  refine ⟨echoing.reserved, ?_, ?_⟩
  · intro id
    refine ⟨echoing.seqs id, ?_⟩
    rw [deletedSeqOf, echoing.undeleted]
    exact Nat.zero_le _
  · intro id
    rw [localBeadAtOf, echoing.unstamped]
    rfl

end CachingStore

end GasCity
