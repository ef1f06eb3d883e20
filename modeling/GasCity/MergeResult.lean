import GasCity.MergePass

namespace GasCity

open MergeSectionResult

section

variable (g : Globals) (snap : Snapshot) (startSeq : Nat) (now : Time)

def absorbNotes (fresh : Bead) (r : RowState) : List CacheNotification :=
  if r.absorbHeld fresh startSeq now then []
  else (absorbNotification r fresh (mergeDeps g snap r fresh)).toList.map (⟨·, fresh⟩)

def evictNotes (cached : Bead) (r : RowState) : List CacheNotification :=
  if (snap.freshByID.find cached.id).isSome ∨ r.evictHeld cached g.reservedMutations startSeq now
  then []
  else (evictNotification cached).toList.map (⟨·, closedPayload snap.confirmedClosed cached⟩)

theorem absorbNotification_cases (r : RowState) (fresh : Bead) (freshDeps : List Dep) :
    absorbNotification r fresh freshDeps = none ∨
      absorbNotification r fresh freshDeps = some .beadCreated ∨
      absorbNotification r fresh freshDeps = some .beadUpdated := by
  unfold absorbNotification
  cases r.bead with
  | none => simp
  | some cached =>
    split <;> simp

theorem absorbResult_notifications (fresh : Bead) (r : RowState) (res : MergeSectionResult) :
    (absorbResult g snap startSeq now fresh r res).notifications =
      res.notifications ++ absorbNotes g snap startSeq now fresh r := by
  unfold absorbResult absorbNotes
  by_cases held : r.absorbHeld fresh startSeq now
  · simp [held]
  · rw [if_neg held, if_neg held]
    rcases absorbNotification_cases r fresh (mergeDeps g snap r fresh) with h | h | h <;>
      simp [h, noteFresh]

theorem evictResult_notifications (cached : Bead) (r : RowState) (res : MergeSectionResult) :
    (evictResult g snap startSeq now cached r res).notifications =
      res.notifications ++ evictNotes g snap startSeq now cached r := by
  unfold evictResult evictNotes
  split
  next => simp
  next =>
    unfold noteEvicted evictNotification
    by_cases closed : cached.status = "closed" <;> simp [closed]

variable {g snap startSeq now} in
theorem mem_absorbNotes {fresh : Bead} {r : RowState} {n : CacheNotification} :
    n ∈ absorbNotes g snap startSeq now fresh r ↔
      ¬ r.absorbHeld fresh startSeq now ∧
        absorbNotification r fresh (mergeDeps g snap r fresh) = some n.eventType ∧
        n.bead = fresh := by
  unfold absorbNotes
  by_cases held : r.absorbHeld fresh startSeq now
  · simp [held]
  · rw [if_neg held, List.mem_map]
    simp only [Option.mem_toList, held, not_false_eq_true, true_and]
    constructor
    · rintro ⟨e, sent, rfl⟩
      exact ⟨sent, rfl⟩
    · rintro ⟨sent, rfl⟩
      exact ⟨n.eventType, sent, rfl⟩

variable {g snap startSeq now} in
theorem mem_evictNotes {cached : Bead} {r : RowState} {n : CacheNotification} :
    n ∈ evictNotes g snap startSeq now cached r ↔
      snap.freshByID.find cached.id = none ∧
        ¬ r.evictHeld cached g.reservedMutations startSeq now ∧ cached.status ≠ "closed" ∧
        n.eventType = .beadClosed ∧ n.bead = closedPayload snap.confirmedClosed cached := by
  unfold evictNotes evictNotification
  cases found : snap.freshByID.find cached.id with
  | some b => simp
  | none =>
    by_cases held : r.evictHeld cached g.reservedMutations startSeq now
    · simp [held]
    · by_cases closed : cached.status = "closed"
      · simp [closed]
      · simp only [Option.isSome_none, Bool.false_eq_true, held, or_self, if_false, ne_eq, closed,
          not_false_eq_true, if_true, Option.toList_some, List.map_cons, List.map_nil,
          List.mem_singleton, true_and]
        constructor
        · rintro rfl
          exact ⟨rfl, rfl⟩
        · cases n
          simp_all

/-- The counters agree with the notifications: one add for each creation and one
update for each update. -/
structure MergeSectionResult.Counted (res : MergeSectionResult) : Prop where
  adds : res.adds = res.notifications.countP (fun n => n.eventType = .beadCreated)
  updates : res.updates = res.notifications.countP (fun n => n.eventType = .beadUpdated)

theorem counted_absorbResult {res : MergeSectionResult} (counted : res.Counted) (fresh : Bead)
    (r : RowState) : (absorbResult g snap startSeq now fresh r res).Counted := by
  unfold absorbResult
  split
  next => exact counted
  next =>
    obtain ⟨adds, updates⟩ := counted
    rcases absorbNotification_cases r fresh (mergeDeps g snap r fresh) with h | h | h <;> rw [h] <;>
      exact ⟨by simp [noteFresh, adds], by simp [noteFresh, updates]⟩

theorem counted_evictResult {res : MergeSectionResult} (counted : res.Counted) (cached : Bead)
    (r : RowState) : (evictResult g snap startSeq now cached r res).Counted := by
  unfold evictResult
  split
  next => exact counted
  next =>
    obtain ⟨adds, updates⟩ := counted
    unfold noteEvicted
    by_cases closed : evictNotification cached = some .beadClosed <;>
      exact ⟨by simp [closed, adds], by simp [closed, updates]⟩

end

namespace CachingStore

variable (c : CachingStore) (snap : Snapshot) (startSeq : Nat) (now : Time)

theorem afterAbsorb_res :
    (c.afterAbsorb snap startSeq now).res =
      snap.freshByID.rows.foldl
        (fun res b => absorbResult c.globals snap startSeq now b (c.row b.id) res) {} :=
  (absorbLoopBody_ownSlot snap startSeq now c.globals).foldl_acc MergePass.res
    (absorbResult c.globals snap startSeq now)
    (fun fresh p _ globals => (absorbLoopBody_spec c.globals snap startSeq now fresh p globals).2.2.1)
    (fun _ _ => trivial) snap.freshByID.nodup
    (s := { cache := c, nextDepsComplete := snap.useFreshDeps }) rfl

theorem afterEvict_res :
    (c.afterEvict snap startSeq now).res =
      (c.afterAbsorb snap startSeq now).cache.beads.rows.foldl
        (fun res b => evictResult c.globals snap startSeq now b
          ((c.afterAbsorb snap startSeq now).cache.row b.id) res)
        (c.afterAbsorb snap startSeq now).res :=
  (evictLoopBody_ownSlot snap startSeq now c.globals).foldl_acc MergePass.res
    (evictResult c.globals snap startSeq now)
    (fun cached p _ globals =>
      (evictLoopBody_spec c.globals snap startSeq now cached p globals).2.2.1)
    (fun _ _ => trivial) (c.afterAbsorb snap startSeq now).cache.beads.nodup
    (c.afterAbsorb_globals snap startSeq now)

theorem afterEvict_counted : (c.afterEvict snap startSeq now).res.Counted := by
  rw [afterEvict_res]
  apply foldl_keeps MergeSectionResult.Counted
  · intro cached _ res counted
    exact counted_evictResult c.globals snap startSeq now counted cached _
  · rw [afterAbsorb_res]
    apply foldl_keeps MergeSectionResult.Counted
    · intro fresh _ res counted
      exact counted_absorbResult c.globals snap startSeq now counted fresh _
    · exact ⟨rfl, rfl⟩

theorem afterEvict_notifications :
    (c.afterEvict snap startSeq now).res.notifications =
      snap.freshByID.rows.flatMap (fun b => absorbNotes c.globals snap startSeq now b (c.row b.id)) ++
        (c.afterAbsorb snap startSeq now).cache.beads.rows.flatMap
          (fun b => evictNotes c.globals snap startSeq now b
            ((c.afterAbsorb snap startSeq now).cache.row b.id)) := by
  have evicted := foldl_output notifications _ _
    (fun cached res => evictResult_notifications c.globals snap startSeq now cached
      ((c.afterAbsorb snap startSeq now).cache.row cached.id) res)
  have absorbed := foldl_output notifications _ _
    (fun fresh res => absorbResult_notifications c.globals snap startSeq now fresh
      (c.row fresh.id) res)
  rw [afterEvict_res, evicted, afterAbsorb_res, absorbed]
  rfl

theorem mem_afterAbsorb_of_absent {cached : Bead} (absent : snap.freshByID.find cached.id = none) :
    cached ∈ (c.afterAbsorb snap startSeq now).cache.beads.rows ↔
      c.beads.find cached.id = some cached := by
  have same := c.afterAbsorb_row snap startSeq now cached.id
  simp only [absent] at same
  have beadSame : (c.afterAbsorb snap startSeq now).cache.beads.find cached.id =
      c.beads.find cached.id := congrArg RowState.bead same
  rw [← beadSame, KeyedList.find_eq_some_iff]
  simp

theorem mem_afterEvict_notifications {n : CacheNotification} :
    n ∈ (c.afterEvict snap startSeq now).res.notifications ↔
      (∃ fresh, snap.freshByID.find fresh.id = some fresh ∧
        n ∈ absorbNotes c.globals snap startSeq now fresh (c.row fresh.id)) ∨
      ∃ cached, snap.freshByID.find cached.id = none ∧ c.beads.find cached.id = some cached ∧
        n ∈ evictNotes c.globals snap startSeq now cached (c.row cached.id) := by
  rw [afterEvict_notifications, List.mem_append, List.mem_flatMap, List.mem_flatMap]
  apply or_congr
  · apply exists_congr
    intro fresh
    rw [KeyedList.find_eq_some_iff]
    simp
  · apply exists_congr
    intro cached
    cases present : snap.freshByID.find cached.id with
    | some b => simp [evictNotes, present]
    | none =>
      rw [c.mem_afterAbsorb_of_absent snap startSeq now present]
      have same := c.afterAbsorb_row snap startSeq now cached.id
      simp only [present] at same
      simp [same]

theorem mem_notifications {n : CacheNotification} :
    n ∈ (c.mergeSnapshotLocked snap startSeq now).2.notifications ↔
      (∃ fresh, snap.freshByID.find fresh.id = some fresh ∧
        ¬ (c.row fresh.id).absorbHeld (c.preservedRow snap fresh) startSeq now ∧
        absorbNotification (c.row fresh.id) (c.preservedRow snap fresh)
          (mergeDeps c.globals snap (c.row fresh.id) (c.preservedRow snap fresh)) =
            some n.eventType ∧
        n.bead = c.preservedRow snap fresh) ∨
      ∃ cached, snap.freshByID.find cached.id = none ∧ c.beads.find cached.id = some cached ∧
        ¬ (c.row cached.id).evictHeld cached c.reservedMutations startSeq now ∧
        cached.status ≠ "closed" ∧ n.eventType = .beadClosed ∧
        n.bead = closedPayload snap.confirmedClosed cached := by
  rw [mergeSnapshotLocked_eq]
  refine (c.mem_afterEvict_notifications (c.preserved snap) startSeq now).trans ?_
  apply or_congr
  · constructor
    · rintro ⟨fresh, found, noted⟩
      rw [find_preserved, Option.map_eq_some_iff] at found
      obtain ⟨item, found, rfl⟩ := found
      rw [preservedRow_id] at found noted
      exact ⟨item, found, mem_absorbNotes.mp noted⟩
    · rintro ⟨item, found, noted⟩
      refine ⟨c.preservedRow snap item, ?_, ?_⟩
      · rw [find_preserved, preservedRow_id, found]
        rfl
      · rw [preservedRow_id]
        exact mem_absorbNotes.mpr noted
  · apply exists_congr
    intro cached
    rw [find_preserved, Option.map_eq_none_iff, mem_evictNotes, find_preserved,
      Option.map_eq_none_iff]
    apply and_congr_right
    intro absent
    simp only [absent, true_and]
    rfl

theorem mergeSnapshotLocked_counted :
    (c.mergeSnapshotLocked snap startSeq now).2.Counted :=
  c.afterEvict_counted (c.preserved snap) startSeq now

theorem counts_of_no_notification
    (silent : (c.mergeSnapshotLocked snap startSeq now).2.notifications = []) :
    (c.mergeSnapshotLocked snap startSeq now).2.adds = 0 ∧
      (c.mergeSnapshotLocked snap startSeq now).2.updates = 0 := by
  obtain ⟨adds, updates⟩ := c.mergeSnapshotLocked_counted snap startSeq now
  rw [silent] at adds updates
  exact ⟨adds, updates⟩

theorem removes_of_no_eviction
    (kept : ∀ cached, c.beads.find cached.id = some cached → snap.freshByID.find cached.id = none →
      (c.row cached.id).evictHeld cached c.reservedMutations startSeq now) :
    (c.mergeSnapshotLocked snap startSeq now).2.removes = 0 := by
  have started : (c.afterAbsorb (c.preserved snap) startSeq now).res.removes = 0 := by
    rw [afterAbsorb_res]
    apply foldl_keeps (fun res : MergeSectionResult => res.removes = 0)
    · intro fresh _ res zero
      unfold absorbResult
      split
      next => exact zero
      next =>
        rcases absorbNotification_cases (c.row fresh.id) fresh
          (mergeDeps c.globals (c.preserved snap) (c.row fresh.id) fresh) with h | h | h <;>
          exact h ▸ zero
    · rfl
  rw [mergeSnapshotLocked_eq]
  rw [afterEvict_res]
  apply foldl_keeps (fun res : MergeSectionResult => res.removes = 0)
  · intro cached mem res zero
    unfold evictResult
    split
    next => exact zero
    next free =>
      have absent : (c.preserved snap).freshByID.find cached.id = none := by
        cases found : (c.preserved snap).freshByID.find cached.id with
        | none => rfl
        | some b => exact absurd (.inl (by simp [found])) free
      have cachedBefore := (c.mem_afterAbsorb_of_absent _ startSeq now absent).mp mem
      have same := c.afterAbsorb_row (c.preserved snap) startSeq now cached.id
      simp only [absent] at same
      rw [find_preserved, Option.map_eq_none_iff] at absent
      refine absurd (.inr ?_) free
      rw [same]
      exact kept cached cachedBefore absent
  · exact started

theorem afterEvict_nextDepsComplete :
    (c.afterEvict snap startSeq now).nextDepsComplete =
      (snap.useFreshDeps && snap.freshByID.rows.all
        (fun b => !absorbDegrades c.globals snap startSeq now b (c.row b.id))) := by
  have evicted := foldl_keeps
    (fun p : MergePass => p.cache.globals = c.globals ∧
      p.nextDepsComplete = (c.afterAbsorb snap startSeq now).nextDepsComplete)
    (c.afterAbsorb snap startSeq now).cache.beads.rows
    (fun cached _ p held =>
      have step := evictLoopBody_spec c.globals snap startSeq now cached p held.1
      ⟨step.1, step.2.2.2.trans held.2⟩)
    ⟨c.afterAbsorb_globals snap startSeq now, rfl⟩
  have absorbed := (absorbLoopBody_ownSlot snap startSeq now c.globals).foldl_acc
    MergePass.nextDepsComplete
    (fun fresh r b => b && !absorbDegrades c.globals snap startSeq now fresh r)
    (fun fresh p _ globals => (absorbLoopBody_spec c.globals snap startSeq now fresh p globals).2.2.2)
    (fun _ _ => trivial) snap.freshByID.nodup
    (s := { cache := c, nextDepsComplete := snap.useFreshDeps }) rfl
  have all (degrades : Bead → Bool) (rows : List Bead) (b : Bool) :
      rows.foldl (fun b fresh => b && !degrades fresh) b = (b && rows.all (!degrades ·)) := by
    induction rows generalizing b with
    | nil => simp
    | cons fresh rows ih => rw [List.foldl_cons, ih, List.all_cons, Bool.and_assoc]
  refine evicted.2.trans ?_
  rw [afterAbsorb, absorbed, all]

theorem afterSweep_globals : (c.afterSweep snap startSeq now).globals = c.globals := by
  have globals := c.afterEvict_globals snap startSeq now
  unfold afterSweep
  split
  next none =>
    have reserved : c.globals.reservedMutations = 0 := by
      rw [← globals]
      exact none
    exact (gcLoopBody_ownSlot startSeq now c.globals reserved).foldl_good (fun _ _ => trivial) globals
  next => exact globals

theorem mergeSnapshotLocked_globals :
    (c.mergeSnapshotLocked snap startSeq now).1.globals =
      { c.globals with
        syncFailures := 0
        depsComplete := (c.afterEvict (c.preserved snap) startSeq now).nextDepsComplete
        primePartialErr := none
        state := .cacheLive } := by
  rw [← c.afterSweep_globals (c.preserved snap) startSeq now]
  rfl

end CachingStore

end GasCity
