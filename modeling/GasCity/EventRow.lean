import GasCity.ApplyEvent
import GasCity.KeyedFold

namespace GasCity

open KeyedList List RowState

def clearVerdict (b : Bead) : Bead := { b with isBlocked := none }

theorem beadSame_iff_clearVerdict {skipLabels : Bool} {a b : Bead} :
    BeadSame skipLabels a b ↔
      BeadSame skipLabels (clearVerdict a) (clearVerdict b) ∧ a.isBlocked = b.isBlocked := by
  constructor
  · intro h
    exact ⟨{ h with isBlocked := rfl }, h.isBlocked⟩
  · rintro ⟨h, verdict⟩
    exact { h with isBlocked := verdict }

namespace CachingStore

/-- Two caches hold the same rows up to verdicts and lost marks, and the same globals. -/
structure SameButVerdicts (c c' : CachingStore) : Prop where
  beads : ∀ j, c'.beads.find j = c.beads.find j ∨
    c'.beads.find j = (c.beads.find j).map clearVerdict
  deps : c'.deps = c.deps
  dirty : c'.dirty = c.dirty
  beadSeq : c'.beadSeq = c.beadSeq
  localBeadAt : c'.localBeadAt = c.localBeadAt
  deletedSeq : c'.deletedSeq = c.deletedSeq
  globals : c'.globals = c.globals
  revision : c'.observationRevision = c.observationRevision
  advances : c'.advances = c.advances

theorem clearVerdict_map_twice (o : Option Bead) :
    (o.map clearVerdict).map clearVerdict = o.map clearVerdict := by
  cases o <;> rfl

theorem SameButVerdicts.refl (c : CachingStore) : SameButVerdicts c c :=
  ⟨fun _ => .inl rfl, rfl, rfl, rfl, rfl, rfl, rfl, rfl, rfl⟩

variable {c : CachingStore} {id : String}

theorem SameButVerdicts.trans {c' c'' : CachingStore} (h : SameButVerdicts c c')
    (h' : SameButVerdicts c' c'') : SameButVerdicts c c'' := by
  refine ⟨?_, h'.deps.trans h.deps, h'.dirty.trans h.dirty, h'.beadSeq.trans h.beadSeq,
    h'.localBeadAt.trans h.localBeadAt, h'.deletedSeq.trans h.deletedSeq,
    h'.globals.trans h.globals, h'.revision.trans h.revision, h'.advances.trans h.advances⟩
  intro j
  rcases h.beads j with first | first
  · rcases h'.beads j with second | second
    · exact .inl (second.trans first)
    · exact .inr (by rw [second, first])
  · rcases h'.beads j with second | second
    · exact .inr (second.trans first)
    · exact .inr (by rw [second, first, clearVerdict_map_twice])

theorem clearReadyProjectionLocked_none (bare : (c.row id).cachedVerdict = none) :
    c.clearReadyProjectionLocked id = (c, false) := by
  unfold clearReadyProjectionLocked
  cases found : c.beads.find id with
  | none => rfl
  | some b =>
    have : b.isBlocked = none := by simpa [cachedVerdict, found] using bare
    simp [this]

theorem clearReadyProjectionLocked_some {b : Bead} (found : c.beads.find id = some b)
    (verdict : b.isBlocked ≠ none) :
    ∃ lost, c.clearReadyProjectionLocked id =
      ({ c with beads := c.beads.set (clearVerdict b), readyProjectionLost := lost }, true) := by
  unfold clearReadyProjectionLocked
  rw [found]
  cases held : b.isBlocked with
  | none => exact absurd held verdict
  | some blocked =>
    dsimp only
    rw [held]
    exact ⟨_, rfl⟩

theorem find_clearReadyProjectionLocked (c : CachingStore) (id j : String) :
    (c.clearReadyProjectionLocked id).1.beads.find j =
      if j = id then (c.beads.find j).map clearVerdict else c.beads.find j := by
  by_cases bare : (c.row id).cachedVerdict = none
  · rw [clearReadyProjectionLocked_none bare]
    split
    next h =>
      subst h
      cases found : c.beads.find j with
      | none => rfl
      | some b =>
        have : b.isBlocked = none := by simpa [cachedVerdict, found] using bare
        simp [clearVerdict, ← this]
    next => rfl
  · obtain ⟨b, found, verdict⟩ : ∃ b, c.beads.find id = some b ∧ b.isBlocked ≠ none := by
      simpa [cachedVerdict, Option.bind_eq_none_iff] using bare
    obtain ⟨lost, cleared⟩ := clearReadyProjectionLocked_some found verdict
    have own : (clearVerdict b).id = id := show b.id = id from key_of_find found
    rw [cleared, find_set, own]
    split
    next h => rw [h, found, Option.map_some]
    next => rfl

theorem clearReadyProjectionLocked_same (c : CachingStore) (id : String) :
    SameButVerdicts c (c.clearReadyProjectionLocked id).1 := by
  by_cases bare : (c.row id).cachedVerdict = none
  · rw [clearReadyProjectionLocked_none bare]
    exact .refl c
  · obtain ⟨b, found, verdict⟩ : ∃ b, c.beads.find id = some b ∧ b.isBlocked ≠ none := by
      simpa [cachedVerdict, Option.bind_eq_none_iff] using bare
    have beads := find_clearReadyProjectionLocked c id
    obtain ⟨lost, cleared⟩ := clearReadyProjectionLocked_some found verdict
    rw [cleared] at beads ⊢
    refine ⟨fun j => ?_, rfl, rfl, rfl, rfl, rfl, rfl, rfl, rfl⟩
    rw [beads j]
    split
    next => exact .inr rfl
    next => exact .inl rfl

theorem clearReadyProjections_eq (c : CachingStore) (ids : List String) :
    c.clearReadyProjections ids =
      if (c.clearLoop ids).2.length = 0 then ((c.clearLoop ids).1, false)
      else ((c.clearLoop ids).1.noteMutationLocked (c.clearLoop ids).2, true) := rfl

theorem clearReadyProjections_of_bare {ids : List String}
    (bare : ∀ id ∈ ids, (c.row id).cachedVerdict = none) :
    c.clearReadyProjections ids = (c, false) := by
  have loop : c.clearLoop ids = (c, []) := by
    unfold clearLoop
    induction ids with
    | nil => rfl
    | cons id ids ih =>
      rw [forall_mem_cons] at bare
      rw [foldl_cons, clearStep, clearReadyProjectionLocked_none bare.1]
      exact ih bare.2
  rw [clearReadyProjections_eq, loop]
  rfl

/-- The rows whose verdict a status change of `id` clears while the dependency cache is complete. -/
theorem mem_dependents {j : String} :
    j ∈ (c.deps.entries.filter (fun e =>
        (c.beads.find e.1).isSome && e.2.any (fun dep =>
          dep.dependsOnID == id && isReadyBlockingDependencyType dep.type))).map (·.1) ↔
      (c.beads.find j).isSome ∧ ∃ dep ∈ c.depsOf j,
        dep.dependsOnID = id ∧ isReadyBlockingDependencyType dep.type = true := by
  simp only [mem_map, mem_filter, Bool.and_eq_true, any_eq_true, beq_iff_eq, depsOf]
  constructor
  · rintro ⟨e, ⟨entry, resident, edge⟩, rfl⟩
    exact ⟨resident, by rwa [FinMap.mem_entries_iff.mp entry]⟩
  · rintro ⟨resident, dep, edge, hits⟩
    cases held : c.deps.lookup j with
    | none => simp [held] at edge
    | some deps =>
      rw [held] at edge
      exact ⟨⟨j, deps⟩, ⟨FinMap.mem_entries_iff.mpr held, resident, dep, edge, hits⟩, rfl⟩

theorem clearDependentReadyProjectionsLocked_of_bare
    (bare : ∀ j b, c.beads.find j = some b → b.isBlocked ≠ none →
      c.depsComplete = true ∧ ∀ dep ∈ c.depsOf j,
        ¬ (dep.dependsOnID = id ∧ isReadyBlockingDependencyType dep.type = true)) :
    c.clearDependentReadyProjectionsLocked id = (c, false) := by
  unfold clearDependentReadyProjectionsLocked
  split
  next => rfl
  next =>
    split
    next incomplete =>
      apply clearReadyProjections_of_bare
      intro j _
      cases found : c.beads.find j with
      | none => simp [cachedVerdict, found]
      | some b =>
        by_cases held : b.isBlocked = none
        · simp [cachedVerdict, found, held]
        · have := (bare j b found held).1
          simp [this] at incomplete
    next =>
      apply clearReadyProjections_of_bare
      intro j mem
      obtain ⟨resident, dep, edge, hits⟩ := mem_dependents.mp mem
      obtain ⟨b, found⟩ := Option.isSome_iff_exists.mp resident
      by_cases held : b.isBlocked = none
      · simp [cachedVerdict, found, held]
      · exact absurd hits ((bare j b found held).2 dep edge)

theorem find_clearLoop (c : CachingStore) (ids : List String) (j : String) :
    (c.clearLoop ids).1.beads.find j =
      if j ∈ ids then (c.beads.find j).map clearVerdict else c.beads.find j := by
  have loop : ∀ (ids : List String) (p : CachingStore × List String),
      (ids.foldl clearStep p).1.beads.find j =
        if j ∈ ids then (p.1.beads.find j).map clearVerdict else p.1.beads.find j := by
    intro ids
    induction ids with
    | nil => simp
    | cons id ids ih =>
      intro p
      rw [foldl_cons, ih, clearStep, find_clearReadyProjectionLocked]
      by_cases h : j = id
      · subst h
        by_cases mem : j ∈ ids
        · rw [if_pos mem, if_pos rfl, clearVerdict_map_twice, if_pos mem_cons_self]
        · simp [mem]
      · simp [h]
  exact loop ids (c, [])

theorem find_clearReadyProjections (c : CachingStore) (ids : List String) (j : String) :
    (c.clearReadyProjections ids).1.beads.find j =
      if j ∈ ids then (c.beads.find j).map clearVerdict else c.beads.find j := by
  rw [clearReadyProjections_eq, ← find_clearLoop]
  split <;> rfl

theorem mem_clearLoop {ids : List String} {j : String} (mem : j ∈ (c.clearLoop ids).2) :
    j ∈ ids ∧ (c.row j).cachedVerdict ≠ none := by
  refine (foldl_keeps (fun p : CachingStore × List String =>
    (∀ i, (p.1.row i).cachedVerdict ≠ none → (c.row i).cachedVerdict ≠ none) ∧
      ∀ i ∈ p.2, i ∈ ids ∧ (c.row i).cachedVerdict ≠ none) ids ?_ ⟨fun _ h => h, by simp⟩).2 j mem
  rintro id listed p ⟨fewer, held⟩
  refine ⟨fun i verdict => fewer i fun none => verdict ?_, ?_⟩
  · have found := find_clearReadyProjectionLocked p.1 id i
    simp only [cachedVerdict, row_bead, clearStep] at none ⊢
    rw [found]
    split
    next => cases p.1.beads.find i <;> rfl
    next => exact none
  · by_cases bare : (p.1.row id).cachedVerdict = none
    · rw [clearStep, clearReadyProjectionLocked_none bare]
      exact held
    · unfold clearStep
      split
      next =>
        intro i known
        rcases mem_append.mp known with known | known
        · exact held i known
        · rw [mem_singleton.mp known]
          exact ⟨listed, fewer id bare⟩
      next => exact held

theorem clearLoop_same (c : CachingStore) (ids : List String) :
    SameButVerdicts c (c.clearLoop ids).1 := by
  have loop : ∀ (ids : List String) (p : CachingStore × List String),
      SameButVerdicts p.1 (ids.foldl clearStep p).1 := by
    intro ids
    induction ids with
    | nil => exact fun p => SameButVerdicts.refl p.1
    | cons id ids ih =>
      exact fun p => (p.1.clearReadyProjectionLocked_same id).trans (ih (clearStep p id))
  exact loop ids (c, [])

theorem lookup_noteMutationLocked (c : CachingStore) (ids : List String) (j : String) :
    (c.noteMutationLocked ids).beadSeq.lookup j =
      if j ∈ ids ∧ j ≠ "" then some (c.mutationSeq + 1) else c.beadSeq.lookup j := by
  have loop : ∀ (ids : List String) (m : FinMap String Nat),
      (ids.foldl (fun m id => if id = "" then m else m.insert id (c.mutationSeq + 1)) m).lookup j =
        if j ∈ ids ∧ j ≠ "" then some (c.mutationSeq + 1) else m.lookup j := by
    intro ids
    induction ids with
    | nil => simp
    | cons id ids ih =>
      intro m
      rw [foldl_cons, ih]
      by_cases unnamed : id = ""
      · grind
      · rw [if_neg unnamed, FinMap.lookup_insert_ite]
        grind
  exact loop ids c.beadSeq

/-- A status change of a row clears its own verdict when the dependency cache is incomplete or
the row blocks itself. -/
theorem find_clearDependentReadyProjectionsLocked_self {b : Bead} (named : id ≠ "")
    (found : c.beads.find id = some b) :
    (c.clearDependentReadyProjectionsLocked id).1.beads.find id =
      if c.depsComplete = false ∨ ∃ dep ∈ c.depsOf id,
          dep.dependsOnID = id ∧ isReadyBlockingDependencyType dep.type = true
      then some (clearVerdict b) else some b := by
  unfold clearDependentReadyProjectionsLocked
  rw [if_neg named]
  cases complete : c.depsComplete with
  | false =>
    have resident : id ∈ c.beads.keys := mem_keys_iff.mpr ⟨b, found⟩
    simp [clearAllReadyProjectionsLocked, find_clearReadyProjections, resident, found]
  | true =>
    simp only [Bool.not_true, Bool.false_eq_true, if_false, reduceCtorEq, false_or]
    rw [find_clearReadyProjections, found, Option.map_some]
    simp only [mem_dependents, found, Option.isSome_some, true_and]

def depsEventClears (c : CachingStore) (id : String) (deps : List Dep) : Bool :=
  (c.deps.lookup id).all (fun existing => depsChanged existing deps)

theorem setEventDepsLocked_spec (c : CachingStore) (id : String) (deps : List Dep) :
    (∀ j, (c.setEventDepsLocked id deps).1.beads.find j =
      if j = id ∧ c.depsEventClears id deps then (c.beads.find j).map clearVerdict
      else c.beads.find j) ∧
      ((c.setEventDepsLocked id deps).1.depsOf id).Perm deps ∧
      (c.setEventDepsLocked id deps).1.depsComplete = c.depsComplete := by
  have cleared : ∀ d : CachingStore, d.beads = c.beads → ∀ j,
      (d.clearReadyProjectionLocked id).1.beads.find j =
        if j = id ∧ True then (c.beads.find j).map clearVerdict else c.beads.find j := by
    intro d same j
    rw [find_clearReadyProjectionLocked, same]
    simp
  have installed : ((c.setDeps id deps).clearReadyProjectionLocked id).1.depsOf id = deps := by
    have same := clearReadyProjectionLocked_same (c.setDeps id deps) id
    rw [depsOf, same.deps]
    simp [setDeps]
  have complete : ∀ d : CachingStore, d.depsComplete = c.depsComplete →
      (d.clearReadyProjectionLocked id).1.depsComplete = c.depsComplete := by
    intro d same
    have := (clearReadyProjectionLocked_same d id).globals
    exact (congrArg Globals.depsComplete this).trans same
  unfold setEventDepsLocked
  cases held : c.deps.lookup id with
  | some existing =>
    have clears : c.depsEventClears id deps = depsChanged existing deps := by
      simp [depsEventClears, held]
    dsimp only
    rw [clears]
    by_cases changed : depsChanged existing deps = false
    · rw [if_pos changed]
      refine ⟨fun j => by simp [changed], ?_, rfl⟩
      rw [depsOf, held]
      exact depsChanged_eq_false_iff.mp changed
    · rw [if_neg changed]
      refine ⟨fun j => ?_, by rw [installed], complete (c.setDeps id deps) rfl⟩
      simpa [changed] using cleared (c.setDeps id deps) rfl j
  | none =>
    have clears : c.depsEventClears id deps = true := by simp [depsEventClears, held]
    simp only [clears]
    by_cases empty : c.depsComplete = true ∧ deps.length = 0
    · rw [if_pos empty]
      refine ⟨fun j => by simpa using cleared c rfl j, ?_, complete c rfl⟩
      have same := clearReadyProjectionLocked_same c id
      rw [depsOf, same.deps, held, length_eq_zero_iff.mp empty.2]
      exact List.Perm.refl _
    · rw [if_neg empty]
      exact ⟨fun j => by simpa using cleared (c.setDeps id deps) rfl j, by rw [installed],
        complete (c.setDeps id deps) rfl⟩

end CachingStore

end GasCity
