import GasCity.Bead

namespace GasCity

/-- One key of a JSON object: absent, present with null, or present with a value. -/
inductive JsonField (α : Type) where
  | absent
  | null
  | value (a : α)

namespace JsonField

variable {α : Type}

def has : JsonField α → Bool
  | absent => false
  | null => true
  | value _ => true

def getD (f : JsonField α) (zero : α) : α :=
  match f with
  | value a => a
  | _ => zero

def toOption : JsonField α → Option α
  | value a => some a
  | _ => none

def omitempty (empty : Bool) (a : α) : JsonField α := if empty then absent else value a

def ofOption : Option α → JsonField α
  | some a => value a
  | none => absent

@[simp] theorem has_omitempty (empty : Bool) (a : α) : (omitempty empty a).has = !empty := by
  cases empty <;> rfl

@[simp] theorem toOption_ofOption (o : Option α) : (ofOption o).toOption = o := by
  cases o <;> rfl

@[simp] theorem has_ofOption (o : Option α) : (ofOption o).has = o.isSome := by
  cases o <;> rfl

theorem getD_omitempty {empty : Bool} {a zero : α} (h : empty = true → a = zero) :
    (omitempty empty a).getD zero = a := by
  cases empty with
  | false => rfl
  | true => exact (h rfl).symm

end JsonField

structure BeadPayload where
  id : JsonField String := .absent
  title : JsonField String := .absent
  status : JsonField String := .absent
  issueType : JsonField String := .absent
  type : JsonField String := .absent
  priority : JsonField Int := .absent
  createdAt : JsonField Time := .absent
  updatedAt : JsonField Time := .absent
  assignee : JsonField String := .absent
  fromField : JsonField String := .absent
  parent : JsonField String := .absent
  parentID : JsonField String := .absent
  ref : JsonField String := .absent
  needs : JsonField (List String) := .absent
  description : JsonField String := .absent
  labels : JsonField (List String) := .absent
  metadata : JsonField StringMap := .absent
  dependencies : JsonField (List Dep) := .absent
  ephemeral : JsonField Bool := .absent
  noHistory : JsonField Bool := .absent
  deferUntil : JsonField Time := .absent
  isBlocked : JsonField Bool := .absent

/-- The offsets, in seconds, of the zones that the times of a bead are in. -/
structure BeadZones where
  createdAt : Int := 0
  updatedAt : Int := 0
  deferUntil : Int := 0

/-- An offset is written in minutes, so its seconds move the instant that is read back. -/
def rfc3339 (offset t : Int) : Int := t + 1000000000 * offset.tmod 60

theorem rfc3339_eq_iff {offset t : Int} : rfc3339 offset t = t ↔ offset.tmod 60 = 0 := by
  unfold rfc3339
  omega

/-- The bead with its times as their JSON has them. -/
def Bead.zoned (b : Bead) (zones : BeadZones) : Bead :=
  { b with
    createdAt := rfc3339 zones.createdAt b.createdAt
    updatedAt := if b.updatedAt = 0 then 0 else rfc3339 zones.updatedAt b.updatedAt
    deferUntil := b.deferUntil.map (rfc3339 zones.deferUntil) }

def BeadZones.WholeMinutes (zones : BeadZones) : Prop :=
  zones.createdAt.tmod 60 = 0 ∧ zones.updatedAt.tmod 60 = 0 ∧ zones.deferUntil.tmod 60 = 0

/-- The JSON of a bead whose times are in zones of whole minutes. -/
def marshalBead (b : Bead) : BeadPayload where
  id := .value b.id
  title := .value b.title
  status := .value b.status
  issueType := .value b.type
  priority := .ofOption b.priority
  createdAt := .value b.createdAt
  updatedAt := .omitempty (b.updatedAt == 0) b.updatedAt
  assignee := .omitempty (b.assignee == "") b.assignee
  fromField := .omitempty (b.fromField == "") b.fromField
  parent := .omitempty (b.parentID == "") b.parentID
  ref := .omitempty (b.ref == "") b.ref
  needs := .omitempty b.needs.isEmpty b.needs
  description := .omitempty (b.description == "") b.description
  labels := .omitempty b.labels.isEmpty b.labels
  metadata := .omitempty b.metadata.entries.isEmpty b.metadata
  dependencies := .omitempty b.dependencies.isEmpty b.dependencies
  ephemeral := .omitempty (!b.ephemeral) b.ephemeral
  noHistory := .omitempty (!b.noHistory) b.noHistory
  deferUntil := .ofOption b.deferUntil
  isBlocked := .ofOption b.isBlocked

/-- Decode one bead object. The exec-style key `type` stands in for an empty issue type, and an
empty id is a decode miss. -/
def decodeRawBead (p : BeadPayload) : Option Bead :=
  let id := p.id.getD ""
  if id = "" then none
  else
    let issueType := p.issueType.getD ""
    some
      { id := id
        title := p.title.getD ""
        status := p.status.getD ""
        type := if issueType = "" then p.type.getD "" else issueType
        priority := p.priority.toOption
        createdAt := p.createdAt.getD 0
        updatedAt := p.updatedAt.getD 0
        assignee := p.assignee.getD ""
        fromField := p.fromField.getD ""
        parentID := p.parent.getD ""
        ref := p.ref.getD ""
        needs := p.needs.getD []
        description := p.description.getD ""
        labels := p.labels.getD []
        metadata := p.metadata.getD ∅
        dependencies := p.dependencies.getD []
        ephemeral := p.ephemeral.getD false
        noHistory := p.noHistory.getD false
        deferUntil := p.deferUntil.toOption
        isBlocked := p.isBlocked.toOption }

/-- The raw bytes an event carries: a bead object, bare or inside the `bead` envelope. -/
inductive EventPayload where
  | empty
  | malformed
  | raw (p : BeadPayload)
  | enveloped (p : BeadPayload)

def decodeCacheEvent (payload : EventPayload) : Option (Bead × BeadPayload) :=
  match payload with
  | .empty => none
  | .malformed => none
  | .raw p => (decodeRawBead p).map (·, p)
  | .enveloped p => (decodeRawBead p).map (·, p)

/-- What the wire keeps of a bead: everything but the store-internal counters. -/
def wireBead (b : Bead) : Bead := { b with revision := 0, claimFence := 0 }

theorem StringMap.eq_empty_of_isEmpty {m : StringMap} (h : m.entries.isEmpty = true) : m = ∅ := by
  apply AList.ext
  simpa using h

theorem decodeRawBead_marshalBead {b : Bead} (named : b.id ≠ "") :
    decodeRawBead (marshalBead b) = some (wireBead b) := by
  have flag : ∀ v : Bool, (JsonField.omitempty (!v) v).getD false = v := by decide
  have text : ∀ s : String, (JsonField.omitempty (s == "") s).getD "" = s :=
    fun s => JsonField.getD_omitempty (by simp)
  have time : ∀ t : Time, (JsonField.omitempty (t == 0) t).getD 0 = t :=
    fun t => JsonField.getD_omitempty (by simp)
  have list : ∀ {α : Type} (xs : List α), (JsonField.omitempty xs.isEmpty xs).getD [] = xs :=
    fun xs => JsonField.getD_omitempty (by simp)
  have map : (JsonField.omitempty b.metadata.entries.isEmpty b.metadata).getD ∅ = b.metadata :=
    JsonField.getD_omitempty StringMap.eq_empty_of_isEmpty
  have type : (if b.type = "" then (JsonField.absent : JsonField String).getD "" else b.type) =
      b.type := by
    split
    next h => exact h.symm
    next => rfl
  have value : ∀ {α : Type} (a zero : α), (JsonField.value a).getD zero = a := fun _ _ => rfl
  simp only [decodeRawBead, marshalBead, value, named, if_false, flag, text, time, list, map, type,
    JsonField.toOption_ofOption, wireBead]

end GasCity
