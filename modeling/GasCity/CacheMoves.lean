import GasCity.EventRow
import GasCity.Stamp

namespace GasCity.CachingStore

def census (c : CachingStore) : BeadMap × FinMap String Unit × CacheState × Option String :=
  (c.beads, c.dirty, c.state, c.primePartialErr)

/-- The observation revision has moved as often as it was advanced. -/
structure Moved (c c' : CachingStore) : Prop where
  advances : c.advances ≤ c'.advances
  revision : c'.observationRevision = nextNonzero^[c'.advances - c.advances] c.observationRevision

theorem Moved.of_same {c c' : CachingStore} (revision : c'.observationRevision = c.observationRevision)
    (advances : c'.advances = c.advances) : Moved c c' := by
  refine ⟨by omega, ?_⟩
  rw [advances, Nat.sub_self]
  exact revision

theorem Moved.refl (c : CachingStore) : Moved c c := Moved.of_same rfl rfl

theorem Moved.trans {c c' c'' : CachingStore} (first : Moved c c') (second : Moved c' c'') :
    Moved c c'' := by
  obtain ⟨low, moved⟩ := first
  obtain ⟨high, moved'⟩ := second
  refine ⟨by omega, ?_⟩
  have split : c''.advances - c.advances =
      (c''.advances - c'.advances) + (c'.advances - c.advances) := by omega
  rw [moved', moved, split, Function.iterate_add_apply]

structure Bumped (c c' : CachingStore) : Prop extends Moved c c' where
  strict : c.advances < c'.advances

theorem Bumped.of_next {c c' : CachingStore}
    (revision : c'.observationRevision = nextNonzero c.observationRevision)
    (advances : c'.advances = c.advances + 1) : Bumped c c' := by
  have once : c'.advances - c.advances = 1 := by omega
  refine ⟨⟨by omega, ?_⟩, by omega⟩
  rw [once]
  exact revision

theorem Bumped.then {c c' c'' : CachingStore} (first : Bumped c c') (second : Moved c' c'') :
    Bumped c c'' := by
  have strict := first.strict
  have low := second.advances
  exact ⟨first.toMoved.trans second, by omega⟩

theorem Moved.bumped {c c' c'' : CachingStore} (first : Moved c c') (second : Bumped c' c'') :
    Bumped c c'' := by
  have low := first.advances
  have strict := second.strict
  exact ⟨first.trans second.toMoved, by omega⟩

structure Observed (c c' : CachingStore) : Prop extends Moved c c' where
  still : c'.advances = c.advances → c'.census = c.census

theorem Observed.stamped {c c' : CachingStore} (h : Observed c c') :
    Stamped nextNonzero observationRevision census (c'.advances - c.advances) c c' := by
  obtain ⟨⟨advances, revision⟩, still⟩ := h
  exact ⟨revision, fun unmoved => still (by omega)⟩

theorem Bumped.observed {c c' : CachingStore} (h : Bumped c c') : Observed c c' := by
  have strict := h.strict
  exact ⟨h.toMoved, fun same => by omega⟩

theorem Moved.observed {c c' : CachingStore} (h : Moved c c') (same : c'.census = c.census) :
    Observed c c' :=
  ⟨h, fun _ => same⟩

theorem Observed.refl (c : CachingStore) : Observed c c := (Moved.refl c).observed rfl

theorem Observed.trans {c c' c'' : CachingStore} (first : Observed c c') (second : Observed c' c'') :
    Observed c c'' := by
  refine ⟨first.toMoved.trans second.toMoved, ?_⟩
  intro same
  have low := first.advances
  have high := second.advances
  exact (second.still (by omega)).trans (first.still (by omega))

section Primitives

variable (c : CachingStore)

theorem bumped_advance : Bumped c c.advanceObservationLocked := Bumped.of_next rfl rfl

theorem bumped_absorb (bead : Bead) (now : Time) (opts : AbsorbOpts) :
    Bumped c (c.absorbFreshLocked bead now opts) := by
  obtain ⟨-, -, revision, advances⟩ := c.absorbFreshLocked_spec bead now opts
  exact Bumped.of_next revision advances

variable (id : String)

theorem bumped_evict : Bumped c (c.evictLocked id) := Bumped.of_next rfl rfl

theorem bumped_tombstone (seq : Nat) : Bumped c (c.tombstoneLocked id seq) :=
  Bumped.of_next rfl rfl

theorem bumped_markDirty : Bumped c (c.markDirtyLocked id) := Bumped.of_next rfl rfl

variable (ids : List String)

theorem bumped_note : Bumped c (c.noteMutationLocked ids) :=
  Bumped.of_next rfl rfl

theorem bumped_noteLocal (now : Time) :
    Bumped c (c.noteLocalMutationLocked ids now) :=
  Bumped.of_next rfl rfl

theorem moved_setDeps (deps : List Dep) : Moved c (c.setDeps id deps) :=
  Moved.of_same rfl rfl

theorem moved_clearStaleness : Moved c (c.clearStalenessMarksLocked id) :=
  Moved.of_same rfl rfl

theorem SameButVerdicts.moved {c c' : CachingStore} (h : SameButVerdicts c c') : Moved c c' :=
  Moved.of_same h.revision h.advances

theorem moved_clearReadyProjection : Moved c (c.clearReadyProjectionLocked id).1 :=
  (c.clearReadyProjectionLocked_same id).moved

theorem clearReadyProjectionLocked_silent {id : String}
    (silent : (c.clearReadyProjectionLocked id).2 = false) :
    (c.clearReadyProjectionLocked id).1 = c := by
  unfold clearReadyProjectionLocked at silent ⊢
  split
  next => rfl
  next b found =>
    simp only [found] at silent
    split
    next => rfl
    next blocked verdict => simp [verdict] at silent

theorem clearLoop_silent {ids : List String} (silent : (c.clearLoop ids).2.length = 0) :
    (c.clearLoop ids).1 = c := by
  have loop : ∀ (ids : List String) (p : CachingStore × List String),
      p.2.length ≤ (ids.foldl clearStep p).2.length ∧
        ((ids.foldl clearStep p).2.length = p.2.length → (ids.foldl clearStep p).1 = p.1) := by
    intro ids
    induction ids with
    | nil => exact fun p => ⟨le_rfl, fun _ => rfl⟩
    | cons id ids ih =>
      intro p
      obtain ⟨grows, stays⟩ := ih (clearStep p id)
      cases hit : (p.1.clearReadyProjectionLocked id).2 with
      | true =>
        have longer : (clearStep p id).2.length = p.2.length + 1 := by simp [clearStep, hit]
        refine ⟨by rw [List.foldl_cons]; omega, ?_⟩
        intro same
        rw [List.foldl_cons] at same
        omega
      | false =>
        have step : clearStep p id = p := by
          unfold clearStep
          rw [clearReadyProjectionLocked_silent p.1 hit, hit]
          rfl
        rw [List.foldl_cons, step]
        exact ih p
  exact (loop ids (c, [])).2 silent

theorem observed_clearReadyProjections :
    Observed c (c.clearReadyProjections ids).1 := by
  rw [clearReadyProjections_eq]
  split
  next silent =>
    rw [clearLoop_silent c silent]
    exact .refl c
  next => exact ((c.clearLoop_same ids).moved.bumped (bumped_note _ _)).observed

theorem observed_clearDependent :
    Observed c (c.clearDependentReadyProjectionsLocked id).1 := by
  unfold clearDependentReadyProjectionsLocked
  split
  next => exact .refl c
  next =>
    split <;> exact c.observed_clearReadyProjections _

end Primitives

end GasCity.CachingStore
