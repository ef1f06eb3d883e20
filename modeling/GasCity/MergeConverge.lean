import GasCity.MergeResult

namespace GasCity

open KeyedList RowState

/-- Two snapshots of the same active rows and dependency sets, whatever order they list them in. -/
structure Snapshot.SameRows (snap snap' : Snapshot) : Prop where
  rows : ∀ id, snap'.freshByID.find id = snap.freshByID.find id
  deps : ∀ id, snap'.depMap.lookup id = snap.depMap.lookup id
  useFreshDeps : snap'.useFreshDeps = snap.useFreshDeps

namespace CachingStore

/-- Nothing holds a row back from a pass: no reservation, no fence, no recent local write. -/
structure Quiet (c : CachingStore) (startSeq : Nat) (now : Time) : Prop where
  reserved : c.reservedMutations = 0
  unfenced : ∀ id, c.beadSeqOf id ≤ startSeq ∧ c.deletedSeqOf id ≤ startSeq
  settled : ∀ id, recentLocalMutation (c.localBeadAtOf id) now = false

variable {c : CachingStore} {snap : Snapshot} {startSeq : Nat} {now : Time}

theorem Quiet.not_fenced (quiet : c.Quiet startSeq now) (id : String) :
    ¬ (c.row id).fenced startSeq := by
  have := quiet.unfenced id
  rintro (h | h)
  · exact absurd h (Nat.not_lt.mpr this.2)
  · exact absurd h (Nat.not_lt.mpr this.1)

theorem Quiet.not_recent (quiet : c.Quiet startSeq now) (id : String) :
    ¬ (c.row id).recent now := by
  intro recent
  exact Bool.false_ne_true ((quiet.settled id).symm.trans recent)

theorem Quiet.not_absorbHeld (quiet : c.Quiet startSeq now) (id : String) (fresh : Bead) :
    ¬ (c.row id).absorbHeld fresh startSeq now := by
  rintro (fenced | ⟨recent, -⟩)
  · exact quiet.not_fenced id fenced
  · exact quiet.not_recent id recent

theorem Quiet.row_merged (quiet : c.Quiet startSeq now) (snap : Snapshot) (id : String) :
    ∃ lost, (c.mergeSnapshotLocked snap startSeq now).1.row id =
      match snap.freshByID.find id with
      | some fresh =>
        { bead := some (c.preservedRow snap fresh)
          deps := some (mergeDeps c.globals snap (c.row id) (c.preservedRow snap fresh))
          readyLost := lost }
      | none => { readyLost := lost } := by
  rw [mergeSnapshotLocked_row]
  unfold mergeRow
  cases found : snap.freshByID.find id with
  | some fresh =>
    have free := quiet.not_absorbHeld id (c.preservedRow snap fresh)
    have clears : (c.row id).clearsStamp c.globals.reservedMutations now .seqClearGuarded :=
      ⟨rfl, quiet.reserved, quiet.settled id⟩
    refine ⟨(c.row id).absorbedLost (c.preservedRow snap fresh)
      (mergeAbsorbOpts (mergeDeps c.globals snap (c.row id) (c.preservedRow snap fresh))), ?_⟩
    simp only [Option.map_some, mergeAbsorbRow, free, if_false, absorb, mergeAbsorbOpts,
      clears, true_or, if_true]
    simp only [absorbedBead, keepsVerdict, absorbedDeps, reduceCtorEq,
      false_and, and_false, if_false]
  | none =>
    cases cachedAt : (c.row id).bead with
    | some cached =>
      have free : ¬ (c.row id).evictHeld cached c.globals.reservedMutations startSeq now := by
        rintro (fenced | ⟨-, recent⟩ | ⟨reserved, -⟩)
        · exact quiet.not_fenced id fenced
        · exact quiet.not_recent id recent
        · exact absurd quiet.reserved (Nat.ne_of_gt reserved)
      exact ⟨none, if_neg free⟩
    | none =>
      have free : ¬ (c.row id).sweepHeld c.globals.reservedMutations startSeq now := by
        rintro (fenced | recent | reserved)
        · exact quiet.not_fenced id fenced
        · exact quiet.not_recent id recent
        · exact absurd quiet.reserved (Nat.ne_of_gt reserved)
      refine ⟨(c.row id).readyLost, ?_⟩
      simp only [Option.map_none, sweepRow, free, if_false, cachedAt]

theorem mergeDeps_of_complete (complete : snap.useFreshDeps = true) (g : Globals) (r : RowState)
    {fresh : Bead} {id : String} (own : fresh.id = id) :
    mergeDeps g snap r fresh = (snap.depMap.lookup id).getD [] := by
  subst own
  simp [mergeDeps, depsForReconcile, complete]

theorem Quiet.find_merged (quiet : c.Quiet startSeq now) (snap : Snapshot) (id : String) :
    (c.mergeSnapshotLocked snap startSeq now).1.beads.find id =
      (snap.freshByID.find id).map (c.preservedRow snap) := by
  obtain ⟨lost, merged⟩ := quiet.row_merged snap id
  refine (congrArg bead merged).trans ?_
  cases snap.freshByID.find id <;> rfl

theorem Quiet.lookup_deps_merged (quiet : c.Quiet startSeq now)
    (complete : snap.useFreshDeps = true) (id : String) :
    (c.mergeSnapshotLocked snap startSeq now).1.deps.lookup id =
      (snap.freshByID.find id).map (fun _ => (snap.depMap.lookup id).getD []) := by
  obtain ⟨lost, merged⟩ := quiet.row_merged snap id
  refine (congrArg RowState.deps merged).trans ?_
  cases found : snap.freshByID.find id with
  | none => rfl
  | some fresh =>
    have own : (c.preservedRow snap fresh).id = id :=
      (c.preservedRow_id snap fresh).trans (key_of_find found)
    simp only [mergeDeps_of_complete complete _ _ own, Option.map_some]

theorem targetStatusChanged_of_same_statuses {items : BeadMap} (deps : List Dep)
    (same : ∀ id fresh, items.find id = some fresh →
      ∃ cached, c.beads.find id = some cached ∧ cached.status = fresh.status) :
    c.readyBlockingDependencyTargetStatusChangedLocked deps items = false := by
  apply List.any_eq_false.mpr
  intro dep _
  cases fresh : items.find dep.dependsOnID with
  | none => simp
  | some new =>
    obtain ⟨old, cached, status⟩ := same dep.dependsOnID new fresh
    simp [cached, status]

/-- A later cache still holds the snapshot as a pass from `c` installed it; what else it holds is
closed. -/
structure Installed (c c' : CachingStore) (snap : Snapshot) : Prop where
  rows : ∀ id fresh, snap.freshByID.find id = some fresh →
    c'.beads.find id = some (c.preservedRow snap fresh)
  deps : ∀ id fresh, snap.freshByID.find id = some fresh →
    c'.deps.lookup id = some ((snap.depMap.lookup id).getD [])
  others : ∀ id b, snap.freshByID.find id = none → c'.beads.find id = some b → b.status = "closed"

theorem Quiet.installed (quiet : c.Quiet startSeq now) (complete : snap.useFreshDeps = true) :
    Installed c (c.mergeSnapshotLocked snap startSeq now).1 snap := by
  refine ⟨?_, ?_, ?_⟩
  · intro id fresh found
    rw [quiet.find_merged, found]
    rfl
  · intro id fresh found
    rw [quiet.lookup_deps_merged complete, found]
    rfl
  · intro id b absent cached
    rw [quiet.find_merged, absent] at cached
    simp at cached

variable {c' : CachingStore}

theorem Installed.preservedRow_again (installed : Installed c c' snap)
    (complete : snap.useFreshDeps = true) {snap' : Snapshot} (same : snap.SameRows snap')
    {fresh : Bead} (found : snap.freshByID.find fresh.id = some fresh) :
    c'.preservedRow snap' fresh = c.preservedRow snap fresh := by
  have complete' : snap'.useFreshDeps = true := same.useFreshDeps.trans complete
  have cached := installed.rows fresh.id fresh found
  have verdict : (c'.row fresh.id).cachedVerdict = (c.preservedRow snap fresh).isBlocked := by
    simp [cachedVerdict, cached]
  by_cases keeps : c.preserves snap fresh
  · have again : c'.preserves snap' fresh := by
      refine ⟨keeps.1, ?_, ?_, ?_⟩
      · rw [verdict, preservedRow, if_pos keeps]
        exact keeps.2.1
      · rw [mergeDeps_of_complete complete' _ _ rfl, same.deps, depsOf,
          installed.deps fresh.id fresh found]
        exact depsChanged_self _
      · apply targetStatusChanged_of_same_statuses
        intro id target targetFound
        rw [same.rows] at targetFound
        exact ⟨c.preservedRow snap target, installed.rows id target targetFound,
          c.preservedRow_status snap target⟩
    have first : c.preservedRow snap fresh =
        { fresh with isBlocked := (c.preservedRow snap fresh).isBlocked } := by
      rw [preservedRow, if_pos keeps]
    rw [preservedRow, if_pos again, verdict]
    exact first.symm
  · have plain : c.preservedRow snap fresh = fresh := if_neg keeps
    rw [plain] at verdict ⊢
    apply if_neg
    intro again
    exact again.2.1 (verdict.trans again.1)

theorem Installed.silent_again (installed : Installed c c' snap)
    (complete : snap.useFreshDeps = true) {snap' : Snapshot} (same : snap.SameRows snap')
    (startSeq' : Nat) (now' : Time) :
    (c'.mergeSnapshotLocked snap' startSeq' now').2.notifications = [] := by
  apply List.eq_nil_iff_forall_not_mem.mpr
  intro n noted
  rcases (c'.mem_notifications snap' startSeq' now').mp noted with
    ⟨fresh, found, -, sent, -⟩ | ⟨cached, absent, cachedAt, -, opened, -⟩
  · rw [same.rows] at found
    have merged := installed.rows fresh.id fresh found
    have deps : c'.depsOf fresh.id = (snap.depMap.lookup fresh.id).getD [] := by
      rw [depsOf, installed.deps fresh.id fresh found]
      rfl
    have own := c.preservedRow_id snap fresh
    rw [installed.preservedRow_again complete same found,
      mergeDeps_of_complete (same.useFreshDeps.trans complete) _ _ own, same.deps,
      absorbNotification] at sent
    simp [merged, deps] at sent
  · rw [same.rows] at absent
    exact opened (installed.others cached.id cached absent cachedAt)

/-- Every cached row is its snapshot row, and nothing is left over from before. -/
structure Converged (c c' : CachingStore) (snap : Snapshot) : Prop where
  ids : ∀ id, id ∈ c'.beads.keys ↔ id ∈ snap.freshByID.keys
  rows : ∀ id fresh, snap.freshByID.find id = some fresh → ∃ cached,
    c'.beads.find id = some cached ∧ beadChanged cached (c.preservedRow snap fresh) false = false
  deps : ∀ id ∈ snap.freshByID.keys, (c'.depsOf id).Perm ((snap.depMap.lookup id).getD [])
  noOrphans : ∀ id, id ∉ snap.freshByID.keys → c'.deps.lookup id = none ∧
    c'.dirty.lookup id = none ∧ c'.beadSeq.lookup id = none ∧ c'.localBeadAt.lookup id = none ∧
    c'.deletedSeq.lookup id = none
  depsComplete : c'.depsComplete = true

theorem Quiet.depsComplete_merged (quiet : c.Quiet startSeq now)
    (complete : snap.useFreshDeps = true) :
    (c.mergeSnapshotLocked snap startSeq now).1.depsComplete = true := by
  have globals := congrArg Globals.depsComplete (c.mergeSnapshotLocked_globals snap startSeq now)
  refine globals.trans ?_
  rw [afterEvict_nextDepsComplete, Bool.and_eq_true, List.all_eq_true]
  refine ⟨complete, ?_⟩
  intro fresh _
  simp [absorbDegrades, absorb_decision_of_not_held (quiet.not_absorbHeld fresh.id fresh)]

theorem Quiet.converged (quiet : c.Quiet startSeq now) (complete : snap.useFreshDeps = true) :
    Converged c (c.mergeSnapshotLocked snap startSeq now).1 snap := by
  refine ⟨?_, ?_, ?_, ?_, quiet.depsComplete_merged complete⟩
  · intro id
    rw [mem_keys_iff, mem_keys_iff, quiet.find_merged]
    cases snap.freshByID.find id <;> simp
  · intro id fresh found
    refine ⟨c.preservedRow snap fresh, ?_, beadChanged_self _ _⟩
    rw [quiet.find_merged, found]
    rfl
  · intro id present
    obtain ⟨fresh, found⟩ := mem_keys_iff.mp present
    rw [depsOf, quiet.lookup_deps_merged complete, found]
    exact List.Perm.refl _
  · intro id absent
    obtain ⟨lost, merged⟩ := quiet.row_merged snap id
    simp only [find_eq_none_iff.mpr absent] at merged
    exact ⟨congrArg RowState.deps merged, congrArg RowState.dirty merged,
      congrArg RowState.beadSeq merged, congrArg RowState.localBeadAt merged,
      congrArg RowState.deletedSeq merged⟩

/-- Reconcile converges in one pass that nothing holds back, and every later pass over the same
rows is silent. -/
theorem mergeSnapshotLocked_converges (c : CachingStore) (snap : Snapshot) (startSeq : Nat)
    (now : Time) (quiet : c.Quiet startSeq now) (complete : snap.useFreshDeps = true) :
    Converged c (c.mergeSnapshotLocked snap startSeq now).1 snap ∧
      ∀ (snap' : Snapshot) (startSeq' : Nat) (now' : Time), snap.SameRows snap' →
        (c.mergeSnapshotLocked snap startSeq now).1.mutationSeq ≤ startSeq' →
        ((c.mergeSnapshotLocked snap startSeq now).1.mergeSnapshotLocked snap' startSeq' now').2 =
          {} := by
  refine ⟨quiet.converged complete, ?_⟩
  intro snap' startSeq' now' same _
  have silent := (quiet.installed complete).silent_again complete same startSeq' now'
  obtain ⟨adds, updates⟩ := counts_of_no_notification _ snap' startSeq' now' silent
  have removes := removes_of_no_eviction (c.mergeSnapshotLocked snap startSeq now).1 snap' startSeq'
    now' (by
      intro cached cachedAt absent
      rw [same.rows] at absent
      rw [quiet.find_merged, absent] at cachedAt
      simp at cachedAt)
  exact MergeSectionResult.ext silent adds removes updates

theorem mergeSnapshotLocked_converges_from_stale_row :
    let c : CachingStore :=
      { beads := empty.set { id := "gc-1", status := "open", isBlocked := some true }
        beadSeq := AList.insert "gc-1" 3 ∅
        mutationSeq := 3 }
    let snap : Snapshot :=
      { freshByID := empty.set { id := "gc-2", status := "open" }, useFreshDeps := true }
    Converged c (c.mergeSnapshotLocked snap 3 0).1 snap := by
  intro c snap
  refine (mergeSnapshotLocked_converges c snap 3 0 ⟨rfl, ?_, ?_⟩ rfl).1
  · intro id
    refine ⟨?_, Nat.zero_le 3⟩
    show ((AList.insert "gc-1" 3 ∅ : FinMap String Nat).lookup id).getD 0 ≤ 3
    rw [FinMap.lookup_insert_ite]
    split <;> simp
  · intro id
    rfl

end CachingStore

end GasCity
