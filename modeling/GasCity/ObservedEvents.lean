import GasCity.ObservedWrites

namespace GasCity.CachingStore

section Events

variable (c : CachingStore) (b : Bead) (fields : BeadPayload) (now : Time)

theorem moved_setEventDeps (id : String) (deps : List Dep) :
    Moved c (c.setEventDepsLocked id deps).1 := by
  unfold setEventDepsLocked
  split
  next =>
    split
    next => exact .refl c
    next => exact (moved_setDeps c id deps).trans (moved_clearReadyProjection _ id)
  next =>
    split
    next => exact moved_clearReadyProjection c id
    next => exact (moved_setDeps c id deps).trans (moved_clearReadyProjection _ id)

theorem setEventDepsLocked_silent {id : String} {deps : List Dep}
    (silent : (c.setEventDepsLocked id deps).2 = false) : (c.setEventDepsLocked id deps).1 = c := by
  unfold setEventDepsLocked at silent ⊢
  split
  next existing known =>
    simp only [known] at silent
    split
    next => rfl
    next changed => simp [changed] at silent
  next unknown =>
    simp only [unknown] at silent
    split
    next empty =>
      rw [if_pos empty] at silent
      exact c.clearReadyProjectionLocked_silent silent
    next full =>
      rw [if_neg full] at silent
      simp at silent

variable (eventType : EventType) (depsKnown : Bool)

theorem updateEventDeps_spec :
    Moved c (c.updateEventDepsLocked eventType b fields depsKnown).1 ∧
      ((c.updateEventDepsLocked eventType b fields depsKnown).2 = false →
        (c.updateEventDepsLocked eventType b fields depsKnown).1.census = c.census) := by
  have set : Moved c (c.setEventDepsLocked b.id (depsFromBeadFields b)).1 ∧
      ((c.setEventDepsLocked b.id (depsFromBeadFields b)).2 = false →
        (c.setEventDepsLocked b.id (depsFromBeadFields b)).1.census = c.census) :=
    ⟨c.moved_setEventDeps _ _, fun silent => by rw [c.setEventDepsLocked_silent silent]⟩
  unfold updateEventDepsLocked
  split
  next => exact set
  next =>
    split
    next => exact set
    next =>
      split
      next =>
        split
        next => exact set
        next =>
          have erased : Moved c { c with deps := c.deps.erase b.id } := Moved.of_same rfl rfl
          refine ⟨?_, ?_⟩
          · refine (erased.trans (moved_clearReadyProjection _ b.id)).trans ?_
            exact Moved.of_same rfl rfl
          · intro silent
            simp only [Bool.or_eq_false_iff] at silent
            have same := clearReadyProjectionLocked_silent _ silent.1.2
            have kept := congrArg census same
            exact kept
      next =>
        split
        next => exact ⟨Moved.refl c, fun _ => rfl⟩
        next =>
          split
          next => exact ⟨Moved.refl c, fun _ => rfl⟩
          next => exact ⟨Moved.of_same rfl rfl, fun _ => rfl⟩

/-- The dependency section of an update, after a row that has changed and moved the revision or has
not changed: a report of its own is noted. -/
theorem observed_updatedDeps (row : CachingStore) {changed : Bool} (depsKnown : Bool)
    (moved : changed = true → Bumped c row) (same : changed = false → row = c) :
    let d := row.updateEventDepsLocked .beadUpdated b fields depsKnown
    Observed c (if d.2 && !changed then d.1.noteMutationLocked [b.id] else d.1) := by
  obtain ⟨moves, still⟩ := updateEventDeps_spec row b fields .beadUpdated depsKnown
  dsimp only
  cases changed with
  | true =>
    rw [Bool.not_true, Bool.and_false]
    exact ((moved rfl).then moves).observed
  | false =>
    obtain rfl := same rfl
    cases mutated : (row.updateEventDepsLocked .beadUpdated b fields depsKnown).2 with
    | true =>
      exact (moves.bumped (bumped_note _ [b.id])).observed
    | false =>
      exact moves.observed (still mutated)

theorem observed_applyEventRow_updated :
    Observed c (c.applyEventRow .beadUpdated b fields depsKnown now) := by
  have noted := c.observed_updatedDeps b fields
    (if (c.beads.find b.id).all (fun e => beadChanged e b false) then
      (c.noteMutationLocked [b.id]).absorbFreshLocked b now eventAbsorbOpts else c) depsKnown
    (fun changed => by
      rw [if_pos changed]
      exact (c.bumped_note [b.id]).then (moved_absorb _ now b _))
    (fun unchanged => if_neg (by simp [unchanged]))
  show Observed c (ite _ _ _)
  split
  next => exact noted.trans (observed_clearDependent _ b.id)
  next => exact noted

theorem observed_applyEventRow :
    Observed c (c.applyEventRow eventType b fields depsKnown now) := by
  have absorbed : Bumped c ((c.noteMutationLocked [b.id]).absorbFreshLocked b now eventAbsorbOpts) :=
    (c.bumped_note [b.id]).then (moved_absorb _ now b _)
  cases eventType with
  | beadCreated =>
    refine Observed.trans ?_ (observed_clearDependent _ b.id)
    split
    next => exact (absorbed.then (updateEventDeps_spec _ b fields _ _).1).observed
    next => exact .refl c
  | beadUpdated => exact c.observed_applyEventRow_updated b fields now depsKnown
  | beadClosed =>
    exact (absorbed.then ((updateEventDeps_spec _ b fields .beadClosed depsKnown).1.trans
      (moved_clearDependent _ b.id))).observed
  | beadDeleted =>
    refine ((c.bumped_note [b.id]).then ?_).observed
    exact (bumped_tombstone _ b.id _).toMoved.trans (moved_clearDependent _ b.id)
  | other => exact .refl c

theorem observed_applyEventCommit (patch : Bead) (depsAuthoritative : Bool) (v : EventVerified) :
    Observed c (c.applyEventCommit eventType patch fields depsAuthoritative v now) := by
  unfold applyEventCommit
  split
  next => exact .refl c
  next =>
    split
    next => exact c.observed_applyEventRow _ fields now _ _
    next =>
      split
      next => exact .refl c
      next =>
        split <;> exact c.observed_applyEventRow _ fields now _ _

theorem observed_applyDepEvent (beadID : String) (deps : List Dep) :
    Observed c (c.ApplyDepEvent beadID deps) := by
  unfold ApplyDepEvent
  split
  next => exact .refl c
  next =>
    exact ((c.bumped_note [beadID]).then ((moved_setDeps _ beadID deps).trans
      ((moved_clearReadyProjection _ beadID).trans (moved_clearStaleness _ beadID)))).observed

end Events

end GasCity.CachingStore
