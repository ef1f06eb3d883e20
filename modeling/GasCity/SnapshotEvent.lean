import GasCity.EventRow

namespace GasCity

namespace CachingStore

structure UnfencedRow (c : CachingStore) (id : String) (current : Bead) : Prop where
  cached : c.beads.find id = some current
  beadSeq : c.beadSeq.lookup id = none
  localBeadAt : c.localBeadAt.lookup id = none
  deletedSeq : c.deletedSeq.lookup id = none

variable {c : CachingStore} {get : BackingGet} {eventType : EventType}
  {patch current : Bead} {fields : BeadPayload} {now : Time}

theorem UnfencedRow.verify (row : c.UnfencedRow patch.id current)
    (open_ : eventType ≠ .beadClosed) :
    applyEventVerify get eventType patch fields (c.applyEventRead patch fields now) =
      .commit { bead := patch, seqBase := c.beadSeqOf patch.id } := by
  have mutated : (c.applyEventRead patch fields now).locallyMutated = false := by
    simp [applyEventRead, row.beadSeq]
  have recent : (c.applyEventRead patch fields now).recentlyLocal = false := by
    simp [applyEventRead, localBeadAtOf, row.localBeadAt, recentLocalMutation]
  have cached : (c.applyEventRead patch fields now).cached = true := by
    simp [applyEventRead, row.cached]
  have seq : (c.applyEventRead patch fields now).seqBase = c.beadSeqOf patch.id := rfl
  simp [applyEventVerify, verifyClosedEvent, verifyMutatedEvent, verifyRecentEvent,
    refreshEventBead, open_, mutated, recent, cached, seq]

theorem UnfencedRow.not_stale (row : c.UnfencedRow patch.id current)
    (open_ : eventType ≠ .beadClosed) (v : EventVerified) :
    c.eventStale eventType current patch fields v now = false := by
  simp [eventStale, open_, localBeadAtOf, row.localBeadAt, row.beadSeq, recentLocalMutation]

theorem UnfencedRow.applyEventSnapshot {b : Bead} (row : c.UnfencedRow b.id current)
    (live : c.eventServable = true) (named : b.id ≠ "") (owned : c.ownsBeadID b.id = true)
    (open_ : eventType ≠ .beadClosed) :
    c.ApplyEventSnapshot get eventType (.raw (marshalBead b)) now =
      c.applyEventRow eventType (mergeCacheEventPatch current (wireBead b) (marshalBead b))
        (marshalBead b) true now := by
  have same : (wireBead b).id = b.id := rfl
  have row' : c.UnfencedRow (wireBead b).id current := row
  simp only [ApplyEventSnapshot, applyEvent, decodeCacheEvent, decodeRawBead_marshalBead named,
    Option.map_some, same, owned, live, Bool.not_true, Bool.false_eq_true, if_false,
    row'.verify open_, applyEventCommit, row.cached, row'.not_stale open_, ne_eq, open_,
    not_false_eq_true, true_or, if_true, Bool.or_true]

theorem applyEventSnapshot_dropped {b : Bead}
    (dropped : b.id = "" ∨ c.ownsBeadID b.id = false) :
    c.ApplyEventSnapshot get eventType (.raw (marshalBead b)) now = c := by
  unfold ApplyEventSnapshot applyEvent decodeCacheEvent
  by_cases named : b.id = ""
  · have : decodeRawBead (marshalBead b) = none := by
      simp [decodeRawBead, marshalBead, JsonField.getD, named]
    simp [this]
  · have foreign := dropped.resolve_left named
    have same : (wireBead b).id = b.id := rfl
    simp [decodeRawBead_marshalBead named, same, foreign]

theorem bead_of_applyEventVerify {r : EventRead} {v : EventVerified}
    (committed : applyEventVerify get eventType patch fields r = .commit v) :
    v.bead = patch ∨ get patch.id = .ok v.bead := by
  have closed : ∀ v, verifyClosedEvent get eventType patch r = some v →
      v.bead = patch ∨ get patch.id = .ok v.bead := by
    unfold verifyClosedEvent
    grind
  have mutated : ∀ v v', verifyMutatedEvent get eventType patch fields r v = .commit v' →
      v'.bead = v.bead := by
    unfold verifyMutatedEvent
    grind
  have recent : ∀ v v', verifyRecentEvent get patch fields r v = some v' → v'.bead = v.bead := by
    unfold verifyRecentEvent
    grind
  have refreshed : ∀ v v', refreshEventBead get eventType patch r v = some v' →
      v'.bead = v.bead ∨ get patch.id = .ok v'.bead := by
    unfold refreshEventBead
    grind
  unfold applyEventVerify at committed
  grind

end CachingStore

/-- Every field the encoder leaves out of the payload is already empty in the cached row. -/
structure OmittedFieldsEmpty (b current : Bead) : Prop where
  priority : b.priority = none → current.priority = none
  assignee : b.assignee = "" → current.assignee = ""
  fromField : b.fromField = "" → current.fromField = ""
  parentID : b.parentID = "" → current.parentID = ""
  ref : b.ref = "" → current.ref = ""
  needs : b.needs = [] → current.needs = []
  description : b.description = "" → current.description = ""
  labels : b.labels = [] → current.labels = []
  metadata : b.metadata = ∅ → current.metadata = ∅
  dependencies : b.dependencies = [] → current.dependencies = []
  ephemeral : b.ephemeral = false → current.ephemeral = false
  deferUntil : b.deferUntil = none → current.deferUntil = none

/-- The zones lose no time that change detection compares. -/
def BeadZones.Keeps (zones : BeadZones) (b : Bead) : Prop :=
  zones.createdAt.tmod 60 = 0 ∧ (b.deferUntil ≠ none → zones.deferUntil.tmod 60 = 0)

/-- The merged row of a snapshot event: what the payload carries, and the cached row for the rest. -/
def mergedSnapshot (b current : Bead) : Bead :=
  mergeCacheEventPatch current (wireBead b) (marshalBead b)

theorem mergedSnapshot_verdict (b current : Bead) :
    (mergedSnapshot b current).isBlocked =
      if b.isBlocked = none then current.isBlocked else b.isBlocked := by
  cases h : b.isBlocked <;> simp [mergedSnapshot, mergeCacheEventPatch, marshalBead, wireBead, h]

/-- A field that is merged from the payload ends up as the snapshot has it unless the payload
omits it and the cached row still has a value there. -/
theorem merged_field_iff {α : Type} {empty : Bool} {new old zero : α}
    (omitted : empty = true ↔ new = zero := by simp [Bead.zoned]) :
    (if (JsonField.omitempty empty new).has = true then new else old) = new ↔
      (new = zero → old = zero) := by
  cases empty with
  | true => simp [omitted.mp rfl]
  | false =>
    have : new ≠ zero := by simpa using omitted
    simp [this]

theorem merged_option_iff {α : Type} {new old : Option α} :
    (if (JsonField.ofOption new).has = true then new else old) = new ↔
      (new = none → old = none) := by
  cases new <;> simp

theorem merged_deferUntil_iff {offset : Int} {new old : Option Time} :
    (if (JsonField.ofOption (new.map (rfc3339 offset))).has = true then new.map (rfc3339 offset) else old) =
      new ↔ (new = none → old = none) ∧ (new ≠ none → offset.tmod 60 = 0) := by
  cases new <;> simp [rfc3339_eq_iff]

theorem merged_list_iff {α : Type} {new old : List α} :
    (if (JsonField.omitempty new.isEmpty new).has = true then new else old).Perm new ↔
      (new = [] → old = []) := by
  cases new with
  | nil | cons => simp

theorem merged_map_iff {new old : StringMap} :
    (∀ k, (if (JsonField.omitempty new.entries.isEmpty new).has = true then new else old).lookup k =
      new.lookup k) ↔ (new = ∅ → old = ∅) := by
  cases empty : new.entries.isEmpty with
  | false =>
    have : new ≠ ∅ := by
      rintro rfl
      simp at empty
    simp [this]
  | true =>
    obtain rfl := StringMap.eq_empty_of_isEmpty empty
    simp only [JsonField.has_omitempty, Bool.not_true, Bool.false_eq_true, if_false,
      AList.lookup_empty, forall_const]
    constructor
    · intro none
      exact AList.ext (FinMap.entries_eq_nil_iff.mpr none)
    · rintro rfl k
      exact AList.lookup_empty k

theorem beadSame_mergedSnapshot_iff {b current : Bead} {zones : BeadZones} (own : current.id = b.id) :
    BeadSame false (clearVerdict (mergedSnapshot (b.zoned zones) current)) (clearVerdict b) ↔
      OmittedFieldsEmpty b current ∧ zones.Keeps b := by
  constructor
  · intro same
    have deferred := merged_deferUntil_iff.mp same.deferUntil
    exact ⟨
      { priority := merged_option_iff.mp same.priority
        assignee := (merged_field_iff).mp same.assignee
        fromField := (merged_field_iff).mp same.fromField
        parentID := (merged_field_iff).mp same.parentID
        ref := (merged_field_iff).mp same.ref
        needs := merged_list_iff.mp same.needs
        description := (merged_field_iff).mp same.description
        labels := merged_list_iff.mp (same.labels rfl)
        metadata := merged_map_iff.mp same.metadata
        dependencies := merged_list_iff.mp same.dependencies
        ephemeral := (merged_field_iff).mp same.ephemeral
        deferUntil := deferred.1 }, rfc3339_eq_iff.mp same.createdAt, deferred.2⟩
  · rintro ⟨empty, created, deferred⟩
    exact
      { id := own
        title := rfl
        status := rfl
        type := rfl
        priority := merged_option_iff.mpr empty.priority
        createdAt := rfc3339_eq_iff.mpr created
        assignee := (merged_field_iff).mpr empty.assignee
        fromField := (merged_field_iff).mpr empty.fromField
        parentID := (merged_field_iff).mpr empty.parentID
        ref := (merged_field_iff).mpr empty.ref
        description := (merged_field_iff).mpr empty.description
        ephemeral := (merged_field_iff).mpr empty.ephemeral
        deferUntil := merged_deferUntil_iff.mpr ⟨empty.deferUntil, deferred⟩
        isBlocked := rfl
        metadata := merged_map_iff.mpr empty.metadata
        labels := fun _ => merged_list_iff.mpr empty.labels
        needs := merged_list_iff.mpr empty.needs
        dependencies := merged_list_iff.mpr empty.dependencies }

namespace CachingStore

/-- The row a snapshot event may write: its own, the backing's, or its own over the cached one. -/
def SnapshotRow (c : CachingStore) (get : BackingGet) (b m : Bead) : Prop :=
  m = wireBead b ∨ get b.id = .ok m ∨
    ∃ current, c.beads.find b.id = some current ∧ m = mergedSnapshot b current

theorem applyEventSnapshot_cases (c : CachingStore) (get : BackingGet)
    (eventType : EventType) (b : Bead) (now : Time) :
    c.ApplyEventSnapshot get eventType (.raw (marshalBead b)) now = c ∨
      c.ApplyEventSnapshot get eventType (.raw (marshalBead b)) now = c.markDirtyLocked b.id ∨
      c.ownsBeadID b.id = true ∧ ∃ m known, c.SnapshotRow get b m ∧
        c.ApplyEventSnapshot get eventType (.raw (marshalBead b)) now =
          c.applyEventRow eventType m (marshalBead b) known now := by
  by_cases dropped : b.id = "" ∨ c.ownsBeadID b.id = false
  · exact .inl (applyEventSnapshot_dropped dropped)
  obtain ⟨named, owned⟩ := not_or.mp dropped
  have owned : c.ownsBeadID b.id = true := by simpa using owned
  have same : (wireBead b).id = b.id := rfl
  by_cases servable : c.eventServable = true
  · have decoded : decodeCacheEvent (.raw (marshalBead b)) = some (wireBead b, marshalBead b) := by
      rw [decodeCacheEvent, decodeRawBead_marshalBead named]
      rfl
    unfold ApplyEventSnapshot applyEvent
    rw [decoded]
    dsimp only
    rw [same, if_neg (by simp [owned]), if_neg (by simp [servable])]
    cases verified : applyEventVerify get eventType (wireBead b) (marshalBead b)
      (c.applyEventRead (wireBead b) (marshalBead b) now) with
    | drop => exact .inl rfl
    | dropDirty => exact .inr (.inl rfl)
    | commit v =>
      have own : c.SnapshotRow get b v.bead := by
        rcases bead_of_applyEventVerify verified with patch | backing
        · exact .inl patch
        · exact .inr (.inl backing)
      dsimp only
      unfold applyEventCommit
      rw [if_neg (by simp [servable]), same]
      split
      next => exact .inr (.inr ⟨owned, v.bead, _, own, rfl⟩)
      next current cached =>
        split
        next => exact .inl rfl
        next =>
          split
          next =>
            exact .inr (.inr ⟨owned, mergedSnapshot b current, _,
              .inr (.inr ⟨current, cached, rfl⟩), rfl⟩)
          next => exact .inr (.inr ⟨owned, v.bead, _, own, rfl⟩)
  · left
    simp [ApplyEventSnapshot, applyEvent, decodeCacheEvent, decodeRawBead_marshalBead named, same,
      owned, servable]

end CachingStore

end GasCity
