import GasCity.ReadyStep

namespace GasCity

open CachingStore MemStore CacheOp

variable {fields : RowFields} {c : CachingStore} {m : MemStore}

/-- No bead of an answer has a ready-blocking dependency in the backing on a bead that is there
and not closed. -/
def Unblocked (m : MemStore) (rows : List Bead) : Prop :=
  ∀ b ∈ rows, ∀ dep ∈ m.DepList b.id .down, isReadyBlockingDependencyType dep.type = true →
    ∀ target, m.beads.find dep.dependsOnID = some target → target.status = "closed"

variable {rows : List Bead}

theorem LiveSound.readyScan {now : Time} (sound : LiveSound c m)
    (served : c.readyScan [] now = some rows) : Unblocked m rows := by
  unfold CachingStore.readyScan at served
  dsimp only at served
  split at served
  next => cases served
  next =>
    intro b mem dep edge blocking target stored
    have rowsAre := Option.some.inj served
    rw [← rowsAre] at mem
    have kept := (List.perm_insertionSort _ _).mem_iff.mp mem
    obtain ⟨candidate, ready⟩ := List.mem_filter.mp kept
    obtain ⟨cachedRow, open_⟩ := List.mem_filter.mp candidate
    have cached : c.beads.find b.id = some b := KeyedList.find_key_of_mem cachedRow
    have own := sound.sound.rows b.id List.not_mem_nil
    have active : b.status ≠ "closed" := by
      intro closed
      simp [isReadyCandidate, isReadyCandidateForTier, closed] at open_
    obtain ⟨known, held, knownBlocking, sameTarget⟩ :=
      own.covers b cached active dep edge blocking
    have bare : b.isBlocked = none := by
      have verdict := sound.sound.bare b.id
      rw [RowState.cachedVerdict, row_bead, cached] at verdict
      exact verdict
    rw [cachedBeadReady, bare] at ready
    have clear := List.all_eq_true.mp ready known held
    rw [knownBlocking, sameTarget, Bool.true_and] at clear
    by_contra unresolved
    have there := sound.sound.rows dep.dependsOnID List.not_mem_nil
    obtain ⟨t, cachedTarget⟩ := Option.isSome_iff_exists.mp
      (there.held sound.live target stored unresolved)
    obtain ⟨stored', found, status⟩ := there.status t cachedTarget
    have same : stored' = target := Option.some.inj (found.symm.trans stored)
    subst same
    have shown : c.statusByID [] dep.dependsOnID = some t.status := by
      rw [statusByID, cachedTarget]
      rfl
    rw [shown] at clear
    rw [status] at unresolved
    simp [unresolved] at clear

theorem SoundBut.servedReady {s : CachingStore × MemStore} {now : Time} (sound : SoundBut [] s.1 s.2)
    (served : GasCity.servedReady fields s now = some rows) :
    Unblocked s.2 rows := by
  unfold GasCity.servedReady CachingStore.Ready at served
  rw [readCacheWithOverlay_clean sound.clean] at served
  split at served
  next c' suppressed gated =>
    obtain ⟨same, open_⟩ := Prod.mk.inj gated
    subst same
    split at open_
    next gate =>
      have none : [] = suppressed := Option.some.inj open_
      subst none
      have live : s.1.state = .cacheLive := by
        simp only [readyGate, Bool.and_eq_true, beq_iff_eq] at gate
        exact gate.1.1.1
      exact (LiveSound.mk sound live).readyScan served
    next => cases open_
  next => cases served

theorem SoundBut.cachedReady {now : Time} (sound : SoundBut [] c m)
    (served : c.CachedReady now = some rows) : Unblocked m rows := by
  unfold CachedReady at served
  split at served
  next => cases served
  next servable =>
    split at served
    next => cases served
    next =>
      split at served
      next => cases served
      next => exact (sound.live_of_servable (by simpa using servable)).readyScan served

/-- The cache and the backing after the calls of the only user of a new cache. -/
def CacheOp.run (fields : RowFields) (m : MemStore) (calls : List (CacheOp × Time)) :
    CachingStore × MemStore :=
  calls.foldl (next fields) ({}, m)

/-- A run of covered calls never makes the cache serve a blocked bead as ready. -/
theorem served_ready_is_unblocked (fields : RowFields) (m : MemStore)
    (calls : List (CacheOp × Time)) (now : Time) (rows : List Bead)
    (covered : Along (next fields) (CacheOp.Covered fields) ({}, m) calls)
    (served : servedReady fields (run fields m calls) now = some rows ∨
      (run fields m calls).1.CachedReady now = some rows) :
    Unblocked (run fields m calls).2 rows := by
  have keeps : ∀ s call, SoundBut [] s.1 s.2 → CacheOp.Covered fields s call →
      SoundBut [] (next fields s call).1 (next fields s call).2 :=
    fun _ _ sound covers => sound.next covers
  have sound : SoundBut [] (run fields m calls).1 (run fields m calls).2 :=
    Along.invariant keeps covered (SoundBut.empty m)
  rcases served with served | served
  · exact sound.servedReady served
  · exact sound.cachedReady served

def twoOpen : MemStore where
  beads := KeyedList.ofRows [{ id := "gc-1", status := "open", type := "task", createdAt := 1 },
    { id := "gc-2", status := "open", type := "task", createdAt := 2 }]

/-- The first bead comes to wait for the second, then a metadata write touches one of them. -/
def blockThenTouch (id : String) : List (CacheOp × Time) :=
  [(.prime, 1), (.depWrite (.add "gc-1" "gc-2" "blocks"), 2), (.setMetadata id "k" "v", 3)]

theorem touched_target_is_served_alone :
    ∃ rows, rows.map Bead.id = ["gc-2"] ∧
      servedReady ownFields
        (run ownFields twoOpen (blockThenTouch "gc-2")) 4 = some rows ∧
      Unblocked (run ownFields twoOpen (blockThenTouch "gc-2")).2 rows := by
  refine ⟨_, ?_, rfl, ?_⟩
  · rfl
  · refine served_ready_is_unblocked ownFields twoOpen (blockThenTouch "gc-2") 4 _ ?_
      (.inl rfl)
    refine ⟨trivial, rfl, ?_, trivial⟩
    intro _ row _ _ edge none
    cases none

/-- A metadata write to a waiting bead drops its edges from the cache, and it is served as ready. -/
theorem touched_waiter_is_served_blocked :
    ∃ rows,
      servedReady ownFields
        (run ownFields twoOpen (blockThenTouch "gc-1")) 4 = some rows ∧
      (run ownFields twoOpen (blockThenTouch "gc-1")).1.CachedReady 4 = some rows ∧
      ¬ Unblocked (run ownFields twoOpen (blockThenTouch "gc-1")).2 rows := by
  refine ⟨_, rfl, rfl, ?_⟩
  intro unblocked
  have closed := unblocked _ List.mem_cons_self ⟨"gc-1", "gc-2", "blocks"⟩ List.mem_cons_self rfl _
    rfl
  exact absurd closed (by decide)

end GasCity
