import GasCity.SnapshotEvent

namespace GasCity

namespace CachingStore

/-- An update drops the verdict of the row it installs: the dependency row is new to the cache or
changes, or the status changes while the dependency cache is incomplete or the row blocks itself. -/
def UpdateClears (c : CachingStore) (current b : Bead) : Prop :=
  c.depsEventClears b.id (depsFromBeadFields b) = true ∨
    current.status ≠ b.status ∧ (c.depsComplete = false ∨ ∃ dep ∈ depsFromBeadFields b,
      dep.dependsOnID = b.id ∧ isReadyBlockingDependencyType dep.type = true)

variable {c : CachingStore} {current m : Bead}

variable (now : Time) (cached : c.beads.find m.id = some current)

include now cached

theorem absorb_updated (verdict : m.isBlocked = none → current.isBlocked = none) :
    ∃ d : CachingStore,
      (if beadChanged current m false then
        (c.noteMutationLocked [m.id]).absorbFreshLocked m now eventAbsorbOpts else c) = d ∧
      (∃ r, d.beads.find m.id = some r ∧ BeadSame false r m) ∧
      d.deps.lookup m.id = c.deps.lookup m.id ∧ d.depsComplete = c.depsComplete := by
  refine ⟨_, rfl, ?_⟩
  by_cases changed : beadChanged current m false = true
  · rw [if_pos changed]
    obtain ⟨rows, globals, -, -⟩ :=
      (c.noteMutationLocked [m.id]).absorbFreshLocked_spec m now eventAbsorbOpts
    have own := rows m.id
    rw [if_pos rfl] at own
    have before : ((c.noteMutationLocked [m.id]).row m.id).cachedVerdict = current.isBlocked := by
      show (c.beads.find m.id).bind Bead.isBlocked = _
      rw [cached]
      rfl
    have installed : ((c.noteMutationLocked [m.id]).row m.id).absorbedBead m eventAbsorbOpts = m := by
      apply if_neg
      intro keeps
      exact keeps.2.1 (before.trans (verdict keeps.1))
    refine ⟨⟨m, ?_, BeadSame.refl false m⟩, ?_, congrArg Globals.depsComplete globals⟩
    · exact (congrArg RowState.bead own).trans (congrArg some installed)
    · exact congrArg RowState.deps own
  · rw [if_neg changed]
    exact ⟨⟨current, cached, beadChanged_eq_false_iff.mp (by simpa using changed)⟩, rfl, rfl⟩

theorem applyEventRow_updated {fields : BeadPayload}
    (complete : cacheEventLooksComplete fields = true) :
    ∃ d e : CachingStore,
      d = (if beadChanged current m false then
        (c.noteMutationLocked [m.id]).absorbFreshLocked m now eventAbsorbOpts else c) ∧
      e.beads = (d.setEventDepsLocked m.id (depsFromBeadFields m)).1.beads ∧
      e.deps = (d.setEventDepsLocked m.id (depsFromBeadFields m)).1.deps ∧
      e.depsComplete = (d.setEventDepsLocked m.id (depsFromBeadFields m)).1.depsComplete ∧
      c.applyEventRow .beadUpdated m fields true now =
        if current.status ≠ m.status then (e.clearDependentReadyProjectionsLocked m.id).1 else e := by
  have status : fields.status.has = true := by
    simp only [cacheEventLooksComplete, Bool.and_eq_true] at complete
    exact complete.1.1.2
  obtain ⟨d, hd⟩ : ∃ d, d = (if beadChanged current m false then
      (c.noteMutationLocked [m.id]).absorbFreshLocked m now eventAbsorbOpts else c) := ⟨_, rfl⟩
  have deps : d.updateEventDepsLocked .beadUpdated m fields true =
      d.setEventDepsLocked m.id (depsFromBeadFields m) := by
    simp [updateEventDepsLocked, complete]
  refine ⟨d, if (d.setEventDepsLocked m.id (depsFromBeadFields m)).2 && !beadChanged current m false
    then (d.setEventDepsLocked m.id (depsFromBeadFields m)).1.noteMutationLocked [m.id]
    else (d.setEventDepsLocked m.id (depsFromBeadFields m)).1, hd, ?_, ?_, ?_, ?_⟩
  · split <;> rfl
  · split <;> rfl
  · split <;> rfl
  · unfold applyEventRow
    simp only [cached, Option.all_some, status, Bool.and_true, ← hd, deps]
    simp

theorem find_applyEventRow_updated {fields : BeadPayload}
    (named : m.id ≠ "") (verdict : m.isBlocked = none → current.isBlocked = none)
    (complete : cacheEventLooksComplete fields = true) :
    ∃ r, (c.applyEventRow .beadUpdated m fields true now).beads.find m.id = some r ∧
      BeadSame false (clearVerdict r) (clearVerdict m) ∧
      (c.UpdateClears current m → r.isBlocked = none) ∧
      (¬ c.UpdateClears current m → r.isBlocked = m.isBlocked) := by
  obtain ⟨d, e, hd, beads, deps, depsComplete, result⟩ := applyEventRow_updated now cached complete
  obtain ⟨d', hd', ⟨r, found, same⟩, depsSame, completeSame⟩ := absorb_updated now cached verdict
  obtain rfl : d = d' := hd.trans hd'
  obtain ⟨rows, perm, completeKept⟩ := d.setEventDepsLocked_spec m.id (depsFromBeadFields m)
  have clearsSame : d.depsEventClears m.id (depsFromBeadFields m) =
      c.depsEventClears m.id (depsFromBeadFields m) := by
    rw [depsEventClears, depsSame]
    rfl
  have row : e.beads.find m.id =
      if c.depsEventClears m.id (depsFromBeadFields m) = true then some (clearVerdict r)
      else some r := by
    rw [beads, rows, clearsSame, found]
    simp
  have edges : (∃ dep ∈ e.depsOf m.id,
        dep.dependsOnID = m.id ∧ isReadyBlockingDependencyType dep.type = true) ↔
      ∃ dep ∈ depsFromBeadFields m,
        dep.dependsOnID = m.id ∧ isReadyBlockingDependencyType dep.type = true := by
    have : e.depsOf m.id = (d.setEventDepsLocked m.id (depsFromBeadFields m)).1.depsOf m.id := by
      rw [depsOf, deps]
      rfl
    rw [this]
    simp only [perm.mem_iff]
  have completeE : e.depsComplete = c.depsComplete :=
    depsComplete.trans (completeKept.trans completeSame)
  obtain ⟨bareSame, verdictSame⟩ := beadSame_iff_clearVerdict.mp same
  rw [result]
  by_cases first : c.depsEventClears m.id (depsFromBeadFields m) = true
  · rw [if_pos first] at row
    refine ⟨clearVerdict r, ?_, bareSame, fun _ => rfl, fun kept => absurd (.inl first) kept⟩
    split
    next =>
      rw [find_clearDependentReadyProjectionsLocked_self named row]
      split <;> rfl
    next => exact row
  · rw [if_neg first] at row
    by_cases moved : current.status ≠ m.status
    · rw [if_pos moved, find_clearDependentReadyProjectionsLocked_self named row, completeE]
      by_cases own : c.depsComplete = false ∨ ∃ dep ∈ e.depsOf m.id,
          dep.dependsOnID = m.id ∧ isReadyBlockingDependencyType dep.type = true
      · rw [if_pos own]
        have clears : c.UpdateClears current m := .inr ⟨moved, own.imp_right edges.mp⟩
        exact ⟨clearVerdict r, rfl, bareSame, fun _ => rfl, fun kept => absurd clears kept⟩
      · rw [if_neg own]
        refine ⟨r, rfl, bareSame, ?_, fun _ => verdictSame⟩
        rintro (clears | ⟨-, clears⟩)
        · exact absurd clears first
        · exact absurd (clears.imp_right edges.mpr) own
    · rw [if_neg moved]
      refine ⟨r, row, bareSame, ?_, fun _ => verdictSame⟩
      rintro (clears | ⟨clears, -⟩)
      · exact absurd clears first
      · exact absurd clears moved

end CachingStore

theorem OmittedFieldsEmpty.deps {b current : Bead} {zones : BeadZones} (empty : OmittedFieldsEmpty b current)
    (own : current.id = b.id) :
    depsFromBeadFields (mergedSnapshot (b.zoned zones) current) = depsFromBeadFields b := by
  have needs : (mergedSnapshot (b.zoned zones) current).needs = b.needs := by
    cases h : b.needs with
    | nil => simp [mergedSnapshot, mergeCacheEventPatch, marshalBead, Bead.zoned, h, empty.needs h]
    | cons a l => simp [mergedSnapshot, mergeCacheEventPatch, marshalBead, wireBead, Bead.zoned, h]
  have dependencies : (mergedSnapshot (b.zoned zones) current).dependencies = b.dependencies := by
    cases h : b.dependencies with
    | nil => simp [mergedSnapshot, mergeCacheEventPatch, marshalBead, Bead.zoned, h, empty.dependencies h]
    | cons a l => simp [mergedSnapshot, mergeCacheEventPatch, marshalBead, wireBead, Bead.zoned, h]
  have id : (mergedSnapshot (b.zoned zones) current).id = b.id := own
  simp only [depsFromBeadFields, needs, dependencies, id]

namespace CachingStore

/-- When a snapshot event installs its bead: the event is not dropped, every omitted field is
already empty in the cached row, no compared time moves, and the verdict survives. -/
def SnapshotInstalls (c : CachingStore) (current b : Bead) (zones : BeadZones) : Prop :=
  if b.id = "" ∨ c.ownsBeadID b.id = false then beadChanged current b false = false
  else
    (OmittedFieldsEmpty b current ∧ zones.Keeps b) ∧ (c.UpdateClears current b → b.isBlocked = none) ∧
      (¬ c.UpdateClears current b → b.isBlocked = none → current.isBlocked = none)

/-- A complete-snapshot event leaves a row equal to its bead, in every field that change
detection compares, exactly when `SnapshotInstalls` holds. -/
theorem applyEventSnapshot_installs_iff (c : CachingStore) (get : BackingGet)
    (b current : Bead) (zones : BeadZones) (now : Time) (live : c.state = .cacheLive)
    (row : c.UnfencedRow b.id current) :
    (∃ r, (c.ApplyEventSnapshot get .beadUpdated (.raw (marshalBead (b.zoned zones))) now).beads.find b.id =
        some r ∧ beadChanged r b false = false) ↔ c.SnapshotInstalls current b zones := by
  let sent := b.zoned zones
  have own : current.id = b.id := KeyedList.key_of_find row.cached
  unfold SnapshotInstalls
  by_cases dropped : b.id = "" ∨ c.ownsBeadID b.id = false
  · rw [if_pos dropped, applyEventSnapshot_dropped (b := sent) dropped, row.cached]
    simp
  · rw [if_neg dropped]
    obtain ⟨named, owned⟩ := not_or.mp dropped
    have servable : c.eventServable = true := by simp [eventServable, live]
    have id : (mergedSnapshot sent current).id = b.id := own
    have verdict : (mergedSnapshot sent current).isBlocked =
        if b.isBlocked = none then current.isBlocked else b.isBlocked := mergedSnapshot_verdict sent current
    have keeps : (mergedSnapshot sent current).isBlocked = none → current.isBlocked = none := by
      rw [verdict]
      split
      next => exact fun h => h
      next present => exact fun h => absurd h present
    have cached : c.beads.find (mergedSnapshot sent current).id = some current := by
      rw [id]
      exact row.cached
    obtain ⟨r, found, bareSame, cleared, kept⟩ := find_applyEventRow_updated (c := c) now cached
      (by rw [id]; exact named) keeps (show cacheEventLooksComplete (marshalBead sent) = true from rfl)
    have clearsSame : OmittedFieldsEmpty b current →
        (c.UpdateClears current (mergedSnapshot sent current) ↔ c.UpdateClears current b) := by
      intro empty
      unfold UpdateClears
      rw [empty.deps own, id]
      exact Iff.rfl
    rw [row.applyEventSnapshot (b := sent) servable named (Bool.not_eq_false _ ▸ owned) (by simp)]
    change (∃ x, (c.applyEventRow .beadUpdated (mergedSnapshot sent current) (marshalBead sent) true
      now).beads.find b.id = some x ∧ beadChanged x b false = false) ↔ _
    rw [id] at found
    rw [found]
    constructor
    · rintro ⟨x, same, unchanged⟩
      obtain rfl := Option.some.inj same
      obtain ⟨bare, verdictSame⟩ :=
        beadSame_iff_clearVerdict.mp (beadChanged_eq_false_iff.mp unchanged)
      obtain ⟨empty, whole⟩ := (beadSame_mergedSnapshot_iff own).mp (bareSame.symm.trans bare)
      refine ⟨⟨empty, whole⟩, ?_, ?_⟩
      · intro clears
        exact verdictSame.symm.trans (cleared ((clearsSame empty).mpr clears))
      · intro stays none
        have := kept (mt (clearsSame empty).mp stays)
        rw [verdict, if_pos none] at this
        exact this.symm.trans (verdictSame.trans none)
    · rintro ⟨⟨empty, whole⟩, clearsNone, staysNone⟩
      refine ⟨r, rfl, beadChanged_eq_false_iff.mpr (beadSame_iff_clearVerdict.mpr ⟨?_, ?_⟩)⟩
      · exact bareSame.trans ((beadSame_mergedSnapshot_iff own).mpr ⟨empty, whole⟩)
      · by_cases clears : c.UpdateClears current b
        · exact (cleared ((clearsSame empty).mpr clears)).trans (clearsNone clears).symm
        · rw [kept (mt (clearsSame empty).mp clears), verdict]
          split
          next none => exact (staysNone clears none).trans none.symm
          next => rfl

def assignedCache : CachingStore where
  beads := KeyedList.empty.set { id := "gc-1", status := "open", assignee := "worker" }
  deps := AList.insert "gc-1" [] ∅
  depsComplete := true
  state := .cacheLive

theorem assignedCache_unfenced :
    assignedCache.UnfencedRow "gc-1" { id := "gc-1", status := "open", assignee := "worker" } :=
  ⟨rfl, rfl, rfl, rfl⟩

def reassigned : Bead := { id := "gc-1", status := "open", assignee := "mayor" }

theorem reassignment_installs :
    ∃ r, (assignedCache.ApplyEventSnapshot (fun _ => .error .notFound) .beadUpdated
        (.raw (marshalBead (reassigned.zoned { createdAt := 3600 }))) 0).beads.find "gc-1" = some r ∧
      beadChanged r reassigned false = false := by
  refine (applyEventSnapshot_installs_iff assignedCache (fun _ => .error .notFound) reassigned
    { id := "gc-1", status := "open", assignee := "worker" } _ 0 rfl assignedCache_unfenced).mpr ?_
  refine ⟨⟨⟨?_, ?_, ?_, ?_, ?_, ?_, ?_, ?_, ?_, ?_, ?_, ?_⟩, rfl, nofun⟩, fun _ => rfl, fun _ _ => rfl⟩
  all_goals intro h
  all_goals first | rfl | exact absurd h (by decide)

/-- The payload of an unassigned bead has no assignee key, so the old assignee stays. -/
theorem cleared_assignee_is_not_installed :
    ¬ ∀ (c : CachingStore) (get : BackingGet) (b current : Bead) (now : Time),
        c.state = .cacheLive → c.UnfencedRow b.id current →
        ∃ r, (c.ApplyEventSnapshot get .beadUpdated (.raw (marshalBead b)) now).beads.find b.id =
          some r ∧ beadChanged r b false = false := by
  intro installs
  obtain ⟨r, found, same⟩ := installs assignedCache (fun _ => .error .notFound)
    { id := "gc-1", status := "open" } { id := "gc-1", status := "open", assignee := "worker" } 0
    rfl assignedCache_unfenced
  have kept : ((assignedCache.ApplyEventSnapshot (fun _ => .error .notFound) .beadUpdated
      (.raw (marshalBead { id := "gc-1", status := "open" })) 0).beads.find "gc-1").map
        Bead.assignee = some "worker" := by decide
  rw [found] at kept
  have cleared := (beadChanged_eq_false_iff.mp same).assignee
  rw [Option.some.inj kept] at cleared
  exact absurd cleared (by decide)

end CachingStore

end GasCity
