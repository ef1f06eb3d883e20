import GasCity.BackingWrites

namespace GasCity

open CachingStore

/-- Every ready-blocking edge of the first set has one to the same target in the second. -/
def Covers (edges deps : List Dep) : Prop :=
  ∀ edge ∈ edges, isReadyBlockingDependencyType edge.type = true →
    ∃ dep ∈ deps, isReadyBlockingDependencyType dep.type = true ∧ dep.dependsOnID = edge.dependsOnID

theorem Covers.refl (edges : List Dep) : Covers edges edges :=
  fun edge mem blocking => ⟨edge, mem, blocking, rfl⟩

theorem Covers.of_empty {edges deps : List Dep} (covers : Covers edges []) : Covers edges deps := by
  intro edge mem blocking
  obtain ⟨dep, none, _⟩ := covers edge mem blocking
  exact absurd none List.not_mem_nil

/-- What readiness needs the cache to hold of one bead, by its row and edges in the backing. -/
structure RowSound (live : Prop) (cached : Option Bead) (deps : List Dep) (stored : Option Bead)
    (edges : List Dep) : Prop where
  status : ∀ b, cached = some b → ∃ row, stored = some row ∧ row.status = b.status
  covers : ∀ b, cached = some b → b.status ≠ "closed" → Covers edges deps
  held : live → ∀ row, stored = some row → row.status ≠ "closed" → cached.isSome

/-- The cache of a single writer, sound for readiness on all beads but some. -/
structure SoundBut (ids : List String) (c : CachingStore) (m : MemStore) : Prop where
  bare : ∀ j, (c.row j).cachedVerdict = none
  clean : ∀ j, c.dirty.lookup j = none
  primed : c.state = .cacheUninitialized ∨ c.state = .cacheLive
  rows : ∀ j, j ∉ ids →
    RowSound (c.state = .cacheLive) (c.beads.find j) (c.depsOf j) (m.beads.find j)
      (m.DepList j .down)

namespace SoundBut

variable {ids : List String} {c : CachingStore} {m m' : MemStore}

theorem empty (m : MemStore) : SoundBut [] {} m where
  bare _ := rfl
  clean _ := rfl
  primed := .inl rfl
  rows j _ := by
    refine ⟨?_, ?_, ?_⟩
    · intro b none
      cases none
    · intro b none
      cases none
    · intro live
      cases live

theorem mono {ids' : List String} (sound : SoundBut ids c m) (sub : ∀ j ∈ ids, j ∈ ids') :
    SoundBut ids' c m :=
  { sound with rows := fun j other => sound.rows j fun mem => other (sub j mem) }

theorem written (sound : SoundBut [] c m) (frame : MemStore.OnlyTouches ids m m') :
    SoundBut ids c m' where
  bare := sound.bare
  clean := sound.clean
  primed := sound.primed
  rows j other := by
    rw [frame.rows j other, frame.deps j other]
    exact sound.rows j List.not_mem_nil

theorem noted (sound : SoundBut ids c m) (noted : List String) (now : Time) :
    SoundBut ids (c.noteLocalMutationLocked noted now) m :=
  { sound with }

theorem clearDependents (sound : SoundBut ids c m) (id : String) :
    SoundBut ids (c.clearDependentReadyProjectionsLocked id).1 m := by
  rw [clearDependentReadyProjectionsLocked_of_bare]
  · exact sound
  · intro j b found verdict
    have none := sound.bare j
    simp [RowState.cachedVerdict, found, verdict] at none

theorem clearOwn (sound : SoundBut ids c m) (id : String) :
    SoundBut ids (c.clearReadyProjectionLocked id).1 m := by
  rw [clearReadyProjectionLocked_none (sound.bare id)]
  exact sound

theorem absorb (fresh : Bead) (now : Time) (opts : AbsorbOpts)
    (sound : SoundBut (fresh.id :: ids) c m) (bare : fresh.isBlocked = none) {row : Bead}
    (stored : m.beads.find fresh.id = some row) (status : row.status = fresh.status)
    (covers : fresh.status ≠ "closed" →
      Covers (m.DepList fresh.id .down) (((c.row fresh.id).absorbedDeps fresh opts).getD [])) :
    SoundBut ids (c.absorbFreshLocked fresh now opts) m := by
  obtain ⟨rows, globals, _⟩ := c.absorbFreshLocked_spec fresh now opts
  have state : (c.absorbFreshLocked fresh now opts).state = c.state := congrArg Globals.state globals
  have installed : (c.row fresh.id).absorbedBead fresh opts = fresh := by
    unfold RowState.absorbedBead
    rw [if_neg fun keeps => keeps.2.1 (sound.bare fresh.id)]
  have own := rows fresh.id
  rw [if_pos rfl] at own
  refine ⟨?_, ?_, by rw [state]; exact sound.primed, ?_⟩
  · intro j
    rw [rows j]
    split
    next here =>
      subst here
      show (some ((c.row fresh.id).absorbedBead fresh opts)).bind Bead.isBlocked = none
      rw [installed]
      exact bare
    next => exact sound.bare j
  · intro j
    rw [← row_dirty, rows j]
    split
    next =>
      show (if opts.clearDirty then none else c.dirty.lookup j) = none
      rw [sound.clean j, ite_self]
    next => exact sound.clean j
  · intro j other
    rw [state, ← row_bead, ← row_depsOf, rows j]
    split
    next here =>
      subst here
      show RowSound _ (some ((c.row fresh.id).absorbedBead fresh opts))
        (((c.row fresh.id).absorbedDeps fresh opts).getD []) _ _
      rw [installed, stored]
      refine ⟨?_, ?_, fun _ _ _ _ => rfl⟩
      · intro b same
        exact ⟨row, rfl, status.trans (congrArg Bead.status (Option.some.inj same))⟩
      · intro b same open_
        have same : fresh = b := Option.some.inj same
        subst same
        exact covers open_
    next elsewhere =>
      refine sound.rows j fun mem => ?_
      rcases List.mem_cons.mp mem with here | mem
      · exact elsewhere here
      · exact other mem

end SoundBut

end GasCity
