import GasCity.MergeConverge
import GasCity.SnapshotEvent

namespace GasCity

namespace CachingStore

/-- A row of the snapshot that a pass from `c` caches with a verdict. -/
def InstallsVerdict (c : CachingStore) (snap : Snapshot) (row : Bead) : Prop :=
  snap.freshByID.find row.id = some row ∧ (c.preservedRow snap row).isBlocked ≠ none

/-- Some row that a pass caches with a verdict waits for the target. -/
def VerdictWaitsFor (c : CachingStore) (snap : Snapshot) (target : String) : Prop :=
  ∃ row, c.InstallsVerdict snap row ∧ ∃ dep ∈ (snap.depMap.lookup row.id).getD [],
    dep.dependsOnID = target ∧ isReadyBlockingDependencyType dep.type = true

/-- What the cache is like while the echoes of a pass from `c` are fed back. -/
structure Echoing (c c' : CachingStore) (snap : Snapshot) : Prop where
  installed : Installed c c' snap
  owns : c'.ownsBeadID = c.ownsBeadID
  live : c'.state = .cacheLive
  reserved : c'.reservedMutations = 0
  seqs : ∀ id, c'.beadSeqOf id ≤ c'.mutationSeq
  undeleted : ∀ id, c'.deletedSeq.lookup id = none
  unstamped : ∀ id, c'.localBeadAt.lookup id = none
  unfenced : ∀ id fresh, snap.freshByID.find id = some fresh → c'.beadSeq.lookup id = none
  complete : c'.depsComplete = true ∨ ∀ row, ¬ c.InstallsVerdict snap row

variable {c c' : CachingStore} {snap : Snapshot}

theorem Echoing.noteMutation (echoing : Echoing c c' snap) {ids : List String}
    (outside : ∀ id ∈ ids, ∀ fresh, snap.freshByID.find id ≠ some fresh) :
    Echoing c (c'.noteMutationLocked ids) snap := by
  have installed : Installed c (c'.noteMutationLocked ids) snap :=
    ⟨echoing.installed.rows, echoing.installed.deps, echoing.installed.others⟩
  refine { echoing with installed := installed, seqs := ?_, unfenced := ?_ }
  · intro id
    have before := echoing.seqs id
    rw [beadSeqOf, lookup_noteMutationLocked]
    show _ ≤ c'.mutationSeq + 1
    split
    next => exact Nat.le_refl _
    next =>
      show c'.beadSeqOf id ≤ _
      omega
  · intro id fresh found
    rw [lookup_noteMutationLocked, if_neg (fun h => outside id h.1 fresh found)]
    exact echoing.unfenced id fresh found

theorem Installed.of_sameButVerdicts {d : CachingStore} (installed : Installed c c' snap)
    (rows : ∀ id fresh, snap.freshByID.find id = some fresh →
      d.beads.find id = c'.beads.find id)
    (same : SameButVerdicts c' d) : Installed c d snap := by
  refine ⟨?_, ?_, ?_⟩
  · intro id fresh found
    rw [rows id fresh found]
    exact installed.rows id fresh found
  · intro id fresh found
    rw [same.deps]
    exact installed.deps id fresh found
  · intro id b absent found
    rcases same.beads id with kept | cleared
    · exact installed.others id b absent (kept.symm.trans found)
    · rw [cleared, Option.map_eq_some_iff] at found
      obtain ⟨old, oldFound, rfl⟩ := found
      exact installed.others id old absent oldFound

theorem Echoing.of_globals {d : CachingStore} (echoing : Echoing c c' snap)
    (globals : d.globals = c'.globals) (installed : Installed c d snap)
    (seqs : ∀ id, d.beadSeq.lookup id = c'.beadSeq.lookup id)
    (undeleted : ∀ id, d.deletedSeq.lookup id = none)
    (unstamped : ∀ id, d.localBeadAt.lookup id = none) : Echoing c d snap where
  installed := installed
  owns := (congrArg Globals.ownsBeadID globals).trans echoing.owns
  live := (congrArg Globals.state globals).trans echoing.live
  reserved := (congrArg Globals.reservedMutations globals).trans echoing.reserved
  seqs id := by
    have mutationSeq : d.mutationSeq = c'.mutationSeq := congrArg Globals.mutationSeq globals
    rw [mutationSeq, beadSeqOf, seqs]
    exact echoing.seqs id
  undeleted := undeleted
  unstamped := unstamped
  unfenced id fresh found := (seqs id).trans (echoing.unfenced id fresh found)
  complete := echoing.complete.imp_left (congrArg Globals.depsComplete globals).trans

theorem Echoing.of_sameButVerdicts {d : CachingStore} (echoing : Echoing c c' snap)
    (rows : ∀ id fresh, snap.freshByID.find id = some fresh →
      d.beads.find id = c'.beads.find id)
    (same : SameButVerdicts c' d) : Echoing c d snap :=
  echoing.of_globals same.globals (echoing.installed.of_sameButVerdicts rows same)
    (fun _ => by rw [same.beadSeq]) (same.deletedSeq ▸ echoing.undeleted)
    (same.localBeadAt ▸ echoing.unstamped)

theorem Echoing.clearReadyProjections (echoing : Echoing c c' snap) {ids : List String}
    (bare : ∀ id ∈ ids, ∀ fresh, snap.freshByID.find id = some fresh →
      (c.preservedRow snap fresh).isBlocked = none) :
    Echoing c (c'.clearReadyProjections ids).1 snap := by
  have rows : ∀ id fresh, snap.freshByID.find id = some fresh →
      (c'.clearLoop ids).1.beads.find id = c'.beads.find id := by
    intro id fresh found
    rw [find_clearLoop]
    split
    next mem =>
      rw [echoing.installed.rows id fresh found, Option.map_some, clearVerdict,
        ← bare id mem fresh found]
    next => rfl
  have looped := echoing.of_sameButVerdicts rows (c'.clearLoop_same ids)
  rw [clearReadyProjections_eq]
  split
  next => exact looped
  next =>
    apply looped.noteMutation
    intro id mem fresh found
    obtain ⟨known, verdict⟩ := mem_clearLoop mem
    apply verdict
    rw [RowState.cachedVerdict, row_bead, echoing.installed.rows id fresh found]
    exact bare id known fresh found

theorem Echoing.clearDependent (echoing : Echoing c c' snap) {target : String}
    (bare : ¬ c.VerdictWaitsFor snap target) :
    Echoing c (c'.clearDependentReadyProjectionsLocked target).1 snap := by
  unfold clearDependentReadyProjectionsLocked
  split
  next => exact echoing
  next =>
    split
    next incomplete =>
      apply echoing.clearReadyProjections
      intro id _ fresh found
      have incomplete' : c'.depsComplete ≠ true := by simpa using incomplete
      have none := echoing.complete.resolve_left incomplete' fresh
      obtain rfl : fresh.id = id := KeyedList.key_of_find found
      by_contra held
      exact none ⟨found, held⟩
    next =>
      apply echoing.clearReadyProjections
      intro id mem fresh found
      obtain ⟨-, dep, edge, hits⟩ := mem_dependents.mp mem
      obtain rfl : fresh.id = id := KeyedList.key_of_find found
      rw [depsOf, echoing.installed.deps fresh.id fresh found] at edge
      by_contra held
      exact bare ⟨fresh, ⟨found, held⟩, dep, edge, hits⟩

theorem mergedSnapshot_self (b : Bead) : mergedSnapshot b b = b := by
  simp [mergedSnapshot, mergeCacheEventPatch, wireBead]

variable {fresh : Bead} {now : Time} {fields : BeadPayload}

variable (echoing : Echoing c c' snap) (found : snap.freshByID.find fresh.id = some fresh)

include echoing found

theorem Echoing.unfencedRow : c'.UnfencedRow fresh.id (c.preservedRow snap fresh) :=
  ⟨echoing.installed.rows fresh.id fresh found, echoing.unfenced fresh.id fresh found,
    echoing.unstamped fresh.id, echoing.undeleted fresh.id⟩

theorem Echoing.applyEventSnapshot {get : BackingGet}
    {eventType : EventType} (named : fresh.id ≠ "")
    (owned : c.ownsBeadID fresh.id = true) (open_ : eventType ≠ .beadClosed) :
    c'.ApplyEventSnapshot get eventType (.raw (marshalBead (c.preservedRow snap fresh))) now =
      c'.applyEventRow eventType (c.preservedRow snap fresh)
        (marshalBead (c.preservedRow snap fresh)) true now := by
  have id := c.preservedRow_id snap fresh
  have row : c'.UnfencedRow (c.preservedRow snap fresh).id (c.preservedRow snap fresh) := by
    rw [id]
    exact echoing.unfencedRow found
  have servable : c'.eventServable = true := by simp [eventServable, echoing.live]
  rw [row.applyEventSnapshot servable (by rw [id]; exact named)
    (by rw [id, echoing.owns]; exact owned) open_, ← mergedSnapshot, mergedSnapshot_self]

omit echoing found

theorem depsFromBeadFields_preservedRow (c : CachingStore) (snap : Snapshot) (fresh : Bead) :
    depsFromBeadFields (c.preservedRow snap fresh) = depsFromBeadFields fresh := by
  unfold preservedRow
  split <;> rfl

include echoing

theorem Echoing.applyEventRow_updated (complete : cacheEventLooksComplete fields = true)
    (found : snap.freshByID.find fresh.id = some fresh)
    (covered : (depsFromBeadFields fresh).Perm ((snap.depMap.lookup fresh.id).getD [])) :
    c'.applyEventRow .beadUpdated (c.preservedRow snap fresh) fields true now = c' := by
  have id := c.preservedRow_id snap fresh
  have cached := echoing.installed.rows fresh.id fresh found
  have deps := echoing.installed.deps fresh.id fresh found
  have same : c'.updateEventDepsLocked .beadUpdated (c.preservedRow snap fresh) fields true =
      (c', false) := by
    have unchanged := depsChanged_eq_false_iff.mpr covered.symm
    have set : c'.updateEventDepsLocked .beadUpdated (c.preservedRow snap fresh) fields true =
        c'.setEventDepsLocked fresh.id (depsFromBeadFields fresh) := by
      simp [updateEventDepsLocked, complete, id, depsFromBeadFields_preservedRow]
    rw [set, setEventDepsLocked, deps]
    exact if_pos unchanged
  simp [applyEventRow, id, cached, same]

theorem Echoing.absorbOutside {b : Bead} (now : Time)
    (absent : snap.freshByID.find b.id = none) (closed : b.status = "closed") :
    Echoing c (c'.absorbFreshLocked b now eventAbsorbOpts) snap := by
  obtain ⟨rows, globals, -, -⟩ := c'.absorbFreshLocked_spec b now eventAbsorbOpts
  obtain ⟨d, hd⟩ : ∃ d, d = c'.absorbFreshLocked b now eventAbsorbOpts := ⟨_, rfl⟩
  rw [← hd] at rows globals ⊢
  have elsewhere : ∀ id fresh, snap.freshByID.find id = some fresh → d.row id = c'.row id := by
    intro id fresh found
    rw [rows, if_neg]
    rintro rfl
    exact absurd (absent.symm.trans found) (by simp)
  have seqs : ∀ id, d.beadSeq.lookup id = c'.beadSeq.lookup id := by
    intro id
    refine (congrArg RowState.beadSeq (rows id)).trans ?_
    split
    next => simp [RowState.absorb, RowState.clearsStamp, eventAbsorbOpts]
    next => rfl
  refine echoing.of_globals globals ⟨?_, ?_, ?_⟩ seqs ?_ ?_
  · intro id fresh found
    exact (congrArg RowState.bead (elsewhere id fresh found)).trans
      (echoing.installed.rows id fresh found)
  · intro id fresh found
    exact (congrArg RowState.deps (elsewhere id fresh found)).trans
      (echoing.installed.deps id fresh found)
  · intro id old outside found
    have row := congrArg RowState.bead (rows id)
    rw [row_bead, found] at row
    split at row
    next own =>
      rw [RowState.absorb, Option.some.injEq, RowState.absorbedBead] at row
      rw [row]
      split <;> exact closed
    next => exact echoing.installed.others id old outside row.symm
  · intro id
    refine (congrArg RowState.deletedSeq (rows id)).trans ?_
    split
    next => rfl
    next => exact echoing.undeleted id
  · intro id
    refine (congrArg RowState.localBeadAt (rows id)).trans ?_
    split
    next => simp [RowState.absorb, echoing.unstamped]
    next => exact echoing.unstamped id

theorem Echoing.setDepsOutside {id : String} (deps : List Dep)
    (absent : snap.freshByID.find id = none) : Echoing c (c'.setDeps id deps) snap := by
  refine { echoing with installed := ⟨echoing.installed.rows, ?_, echoing.installed.others⟩ }
  intro j fresh found
  have other : j ≠ id := by
    rintro rfl
    exact absurd (absent.symm.trans found) (by simp)
  rw [setDeps, FinMap.lookup_insert_ite, if_neg other]
  exact echoing.installed.deps j fresh found

theorem Echoing.clearOutside {id : String}
    (absent : snap.freshByID.find id = none) :
    Echoing c (c'.clearReadyProjectionLocked id).1 snap := by
  apply echoing.of_sameButVerdicts _ (c'.clearReadyProjectionLocked_same id)
  intro j fresh found
  rw [find_clearReadyProjectionLocked, if_neg]
  rintro rfl
  exact absurd (absent.symm.trans found) (by simp)

theorem Echoing.setEventDepsOutside {id : String} (deps : List Dep)
    (absent : snap.freshByID.find id = none) :
    Echoing c (c'.setEventDepsLocked id deps).1 snap := by
  have set := (echoing.setDepsOutside deps absent).clearOutside absent
  unfold setEventDepsLocked
  split
  next =>
    split
    next => exact echoing
    next => exact set
  next =>
    split
    next => exact echoing.clearOutside absent
    next => exact set

theorem Echoing.applyEventRow_closed {b : Bead} {known : Bool}
    (absent : snap.freshByID.find b.id = none) (closed : b.status = "closed")
    (safe : if cacheEventHasDependencyField fields then ¬ c.VerdictWaitsFor snap b.id
      else ∀ row, ¬ c.InstallsVerdict snap row) :
    Echoing c (c'.applyEventRow .beadClosed b fields known now) snap := by
  have bare : ¬ c.VerdictWaitsFor snap b.id := by
    split at safe
    next => exact safe
    next =>
      rintro ⟨row, installs, -⟩
      exact safe row installs
  have outside : ∀ id ∈ [b.id], ∀ fresh, snap.freshByID.find id ≠ some fresh := by
    intro id mem fresh found
    rw [List.mem_singleton.mp mem, absent] at found
    simp at found
  have absorbed := (echoing.noteMutation outside).absorbOutside now absent closed
  obtain ⟨d, hd⟩ : ∃ d, d = (c'.noteMutationLocked [b.id]).absorbFreshLocked b now eventAbsorbOpts :=
    ⟨_, rfl⟩
  rw [← hd] at absorbed
  have deps : Echoing c (d.updateEventDepsLocked .beadClosed b fields known).1 snap := by
    unfold updateEventDepsLocked
    simp only [reduceCtorEq, false_and, if_false]
    split
    next => exact absorbed.setEventDepsOutside _ absent
    next bareFields =>
      rw [if_neg bareFields] at safe
      split
      next => exact absorbed
      next =>
        split
        next => exact absorbed
        next =>
          exact { absorbed with
            installed := ⟨absorbed.installed.rows, absorbed.installed.deps,
              absorbed.installed.others⟩
            complete := .inr safe }
  have result : c'.applyEventRow .beadClosed b fields known now =
      ((d.updateEventDepsLocked .beadClosed b fields known).1.clearDependentReadyProjectionsLocked
        b.id).1 := by
    rw [hd]
    rfl
  rw [result]
  exact deps.clearDependent bare

theorem Echoing.markDirty (id : String) :
    Echoing c (c'.markDirtyLocked id) snap := by
  have installed : Installed c (c'.markDirtyLocked id) snap :=
    ⟨echoing.installed.rows, echoing.installed.deps, echoing.installed.others⟩
  exact { echoing with installed := installed }

end CachingStore

end GasCity
