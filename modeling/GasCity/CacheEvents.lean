import GasCity.EventPayload
import GasCity.Reconcile

namespace GasCity

def cacheEventHasDependencyField (fields : BeadPayload) : Bool :=
  fields.dependencies.has || fields.needs.has

def cacheEventLooksComplete (fields : BeadPayload) : Bool :=
  fields.title.has && fields.status.has && fields.createdAt.has &&
    (fields.issueType.has || fields.type.has)

def mergeCacheEventPatch (base patch : Bead) (fields : BeadPayload) : Bead :=
  { base with
    title := if fields.title.has then patch.title else base.title
    status := if fields.status.has then patch.status else base.status
    type := if fields.issueType.has || fields.type.has then patch.type else base.type
    priority := if fields.priority.has then patch.priority else base.priority
    createdAt := if fields.createdAt.has then patch.createdAt else base.createdAt
    assignee := if fields.assignee.has then patch.assignee else base.assignee
    fromField := if fields.fromField.has then patch.fromField else base.fromField
    parentID := if fields.parent.has then patch.parentID else base.parentID
    ref := if fields.ref.has then patch.ref else base.ref
    needs := if fields.needs.has then patch.needs else base.needs
    description := if fields.description.has then patch.description else base.description
    labels := if fields.labels.has then patch.labels else base.labels
    metadata := if fields.metadata.has then patch.metadata else base.metadata
    dependencies := if fields.dependencies.has then patch.dependencies else base.dependencies
    ephemeral := if fields.ephemeral.has then patch.ephemeral else base.ephemeral
    deferUntil := if fields.deferUntil.has then patch.deferUntil else base.deferUntil
    isBlocked := if fields.isBlocked.has then patch.isBlocked else base.isBlocked }

def cacheEventConflictsCurrent (current patch : Bead) (fields : BeadPayload) : Bool :=
  fields.title.has && current.title != patch.title ||
  fields.status.has && current.status != patch.status ||
  (fields.issueType.has || fields.type.has) && current.type != patch.type ||
  fields.priority.has && current.priority != patch.priority ||
  fields.assignee.has && current.assignee != patch.assignee ||
  fields.description.has && current.description != patch.description ||
  fields.parent.has && current.parentID != patch.parentID ||
  fields.parentID.has && current.parentID != patch.parentID ||
  fields.metadata.has && !current.metadata.beq patch.metadata ||
  fields.labels.has && !stringSetEqual current.labels patch.labels ||
  fields.ephemeral.has && current.ephemeral != patch.ephemeral ||
  fields.deferUntil.has && current.deferUntil != patch.deferUntil ||
  fields.isBlocked.has && current.isBlocked != patch.isBlocked

def cacheEventDependencyConflict (currentDeps : List Dep) (depsKnown : Bool) (patch : Bead)
    (fields : BeadPayload) : Bool :=
  cacheEventHasDependencyField fields && depsKnown &&
    depsChanged currentDeps (depsFromBeadFields patch)

def cacheEventConflictsCached (current : Bead) (currentDeps : List Dep) (depsKnown : Bool)
    (patch : Bead) (fields : BeadPayload) : Bool :=
  cacheEventConflictsCurrent current patch fields ||
    cacheEventDependencyConflict currentDeps depsKnown patch fields

def cacheEventPatchMatchesBead (current patch : Bead) (fields : BeadPayload) : Bool :=
  !cacheEventConflictsCached current (depsFromBeadFields current) true patch fields

def closedEventCarriesRichCloseSnapshot (patch : Bead) : Bool :=
  patch.title != "" || decide (patch.labels.length > 0) || patch.description != "" ||
    patch.assignee != "" || patch.parentID != "" || patch.ref != "" ||
    decide (patch.needs.length > 0) || patch.type != "" || patch.priority != none ||
    patch.ephemeral || patch.noHistory || patch.deferUntil != none

def closedEventPayloadNeedsBackingRefresh (patch fresh : Bead) : Bool :=
  if patch.updatedAt = 0 ∨ fresh.updatedAt = 0 ∨ ¬ fresh.updatedAt < patch.updatedAt then
    !closedEventCarriesRichCloseSnapshot patch
  else false

namespace CachingStore

variable (c : CachingStore)

def residentEdgesStillBlockLocked (id : String) : Bool :=
  (c.depsOf id).any (fun dep =>
    isReadyBlockingDependencyType dep.type &&
      match c.beads.find dep.dependsOnID with
      | some target => target.status != "closed"
      | none => false)

def clearReadyProjectionLocked (id : String) : CachingStore × Bool :=
  match c.beads.find id with
  | none => (c, false)
  | some b =>
    match b.isBlocked with
    | none => (c, false)
    | some blocked =>
      let lost := blocked && !c.residentEdgesStillBlockLocked id
      ({ c with
        beads := c.beads.set { b with isBlocked := none }
        readyProjectionLost :=
          if lost then (c.markReadyProjectionLostLocked id).readyProjectionLost
          else c.readyProjectionLost }, true)

def clearStep (p : CachingStore × List String) (id : String) : CachingStore × List String :=
  ((p.1.clearReadyProjectionLocked id).1,
    if (p.1.clearReadyProjectionLocked id).2 then p.2 ++ [id] else p.2)

def clearLoop (ids : List String) : CachingStore × List String :=
  ids.foldl clearStep (c, [])

def clearReadyProjections (ids : List String) : CachingStore × Bool :=
  let (c, cleared) := c.clearLoop ids
  if cleared.length = 0 then (c, false) else (c.noteMutationLocked cleared, true)

def clearAllReadyProjectionsLocked : CachingStore × Bool :=
  c.clearReadyProjections c.beads.keys

def clearDependentReadyProjectionsLocked (dependsOnID : String) :
    CachingStore × Bool :=
  if dependsOnID = "" then (c, false)
  else if !c.depsComplete then c.clearAllReadyProjectionsLocked
  else
    c.clearReadyProjections
      ((c.deps.entries.filter (fun e =>
        (c.beads.find e.1).isSome && e.2.any (fun dep =>
          dep.dependsOnID == dependsOnID && isReadyBlockingDependencyType dep.type))).map (·.1))

def setEventDepsLocked (id : String) (deps : List Dep) : CachingStore × Bool :=
  match c.deps.lookup id with
  | some existing =>
    if depsChanged existing deps = false then (c, false)
    else (((c.setDeps id deps).clearReadyProjectionLocked id).1, true)
  | none =>
    if c.depsComplete ∧ deps.length = 0 then c.clearReadyProjectionLocked id
    else (((c.setDeps id deps).clearReadyProjectionLocked id).1, true)

def updateEventDepsLocked (eventType : EventType) (b : Bead)
    (fields : BeadPayload) (refreshedFromBacking : Bool) : CachingStore × Bool :=
  if cacheEventHasDependencyField fields then c.setEventDepsLocked b.id (depsFromBeadFields b)
  else if eventType = .beadCreated ∧ cacheEventLooksComplete fields then
    c.setEventDepsLocked b.id (depsFromBeadFields b)
  else if eventType = .beadUpdated ∧ cacheEventLooksComplete fields then
    if refreshedFromBacking then c.setEventDepsLocked b.id (depsFromBeadFields b)
    else
      let hadDeps := (c.deps.lookup b.id).isSome
      let (c, cleared) := { c with deps := c.deps.erase b.id }.clearReadyProjectionLocked b.id
      ({ c with depsComplete := false }, hadDeps || cleared || c.depsComplete)
  else if (c.deps.lookup b.id).isSome then (c, false)
  else if !c.depsComplete then (c, false)
  else ({ c with depsComplete := false }, true)

def eventAbsorbOpts : AbsorbOpts where
  depsMode := .depsKeepCached
  seqMode := .seqKeep
  clearDirty := true

def applyEventRow (eventType : EventType) (b : Bead) (fields : BeadPayload)
    (depsKnown : Bool) (now : Time) : CachingStore :=
  match eventType with
  | .beadCreated =>
    let c :=
      if (c.beads.find b.id).isNone then
        let c := (c.noteMutationLocked [b.id]).absorbFreshLocked b now eventAbsorbOpts
        (c.updateEventDepsLocked eventType b fields depsKnown).1
      else c
    (c.clearDependentReadyProjectionsLocked b.id).1
  | .beadUpdated =>
    let existing := c.beads.find b.id
    let statusChanged := existing.all (fun e => e.status != b.status)
    let changed := existing.all (fun e => beadChanged e b false)
    let c :=
      if changed then (c.noteMutationLocked [b.id]).absorbFreshLocked b now eventAbsorbOpts else c
    let (c, depsMutated) := c.updateEventDepsLocked eventType b fields depsKnown
    let c := if depsMutated && !changed then c.noteMutationLocked [b.id] else c
    if statusChanged && fields.status.has then (c.clearDependentReadyProjectionsLocked b.id).1 else c
  | .beadClosed =>
    let c := (c.noteMutationLocked [b.id]).absorbFreshLocked b now eventAbsorbOpts
    let c := (c.updateEventDepsLocked eventType b fields depsKnown).1
    (c.clearDependentReadyProjectionsLocked b.id).1
  | .beadDeleted =>
    let c := c.noteMutationLocked [b.id]
    let c := c.tombstoneLocked b.id c.mutationSeq
    (c.clearDependentReadyProjectionsLocked b.id).1
  | .other => c

end CachingStore

section
variable {α : Type}

theorem taken_agrees [BEq α] [ReflBEq α] (has : Bool) (fresh old : α) :
    (has && (if has then fresh else old) != fresh) = false := by
  cases has <;> simp [bne]

theorem eq_taken [BEq α] [LawfulBEq α] {has : Bool} {old fresh : α}
    (agrees : (has && old != fresh) = false) : old = if has then fresh else old := by
  cases has <;> simp_all

end

/-- The merge takes no key that conflict detection does not read. -/
structure Inspected (fields : BeadPayload) : Prop where
  createdAt : fields.createdAt.has = false
  fromField : fields.fromField.has = false
  ref : fields.ref.has = false
  needs : fields.needs.has = false
  dependencies : fields.dependencies.has = false

theorem conflicts_merged (base patch : Bead) (fields : BeadPayload) :
    cacheEventConflictsCurrent (mergeCacheEventPatch base patch fields) patch fields =
      (fields.parentID.has &&
        (if fields.parent.has then patch.parentID else base.parentID) != patch.parentID) := by
  have metadata : (fields.metadata.has &&
      !(if fields.metadata.has then patch.metadata else base.metadata).beq patch.metadata) = false := by
    cases fields.metadata.has <;> simp [FinMap.beq_iff]
  have labels : (fields.labels.has &&
      !stringSetEqual (if fields.labels.has then patch.labels else base.labels) patch.labels) =
        false := by
    cases fields.labels.has <;> simp [stringSetEqual, countedEqual_iff_perm]
  simp only [cacheEventConflictsCurrent, mergeCacheEventPatch, taken_agrees, metadata, labels,
    Bool.false_or, Bool.or_false]

theorem beadChanged_merged {base patch : Bead} {fields : BeadPayload} (inspected : Inspected fields)
    (agrees : cacheEventConflictsCurrent base patch fields = false) (skipLabels : Bool) :
    beadChanged base (mergeCacheEventPatch base patch fields) skipLabels = false := by
  simp only [cacheEventConflictsCurrent, Bool.or_eq_false_iff] at agrees
  obtain ⟨⟨⟨⟨⟨⟨⟨⟨⟨⟨⟨⟨title, status⟩, type⟩, priority⟩, assignee⟩, description⟩, parent⟩, -⟩, metadata⟩,
    labels⟩, ephemeral⟩, deferUntil⟩, isBlocked⟩ := agrees
  refine beadChanged_eq_false_iff.mpr ⟨rfl, eq_taken title, eq_taken status, eq_taken type,
    eq_taken priority, ?_, eq_taken assignee, ?_, eq_taken parent, ?_, eq_taken description,
    eq_taken ephemeral, eq_taken deferUntil, eq_taken isBlocked, ?_, ?_, ?_, ?_⟩
  · simp [mergeCacheEventPatch, inspected.createdAt]
  · simp [mergeCacheEventPatch, inspected.fromField]
  · simp [mergeCacheEventPatch, inspected.ref]
  · unfold mergeCacheEventPatch
    cases has : fields.metadata.has with
    | false => simp
    | true => simpa [has, FinMap.beq_iff] using metadata
  · intro _
    unfold mergeCacheEventPatch
    cases has : fields.labels.has with
    | false => simp
    | true => simpa [has, stringSetEqual, countedEqual_iff_perm] using labels
  · simp [mergeCacheEventPatch, inspected.needs]
  · simp [mergeCacheEventPatch, inspected.dependencies]

/-- Merging settles the conflict exactly where the payload's `parent_id` comes with `parent` or
names the parent the row has; a patch without conflict changes nothing. -/
theorem merge_settles_conflict_iff (base patch : Bead) (fields : BeadPayload) :
    (cacheEventConflictsCurrent (mergeCacheEventPatch base patch fields) patch fields = false ↔
      (fields.parentID.has → fields.parent.has ∨ base.parentID = patch.parentID)) ∧
    (Inspected fields → cacheEventConflictsCurrent base patch fields = false →
      ∀ skipLabels, beadChanged base (mergeCacheEventPatch base patch fields) skipLabels = false) := by
  refine ⟨?_, beadChanged_merged⟩
  rw [conflicts_merged]
  cases fields.parentID.has <;> cases fields.parent.has <;> simp

theorem merge_settles_conflict_iff_parent :
    let base : Bead := { id := "a", parentID := "p" }
    let patch : Bead := { id := "a", parentID := "q" }
    let fields : BeadPayload := { parent := .value "q", parentID := .value "q" }
    cacheEventConflictsCurrent (mergeCacheEventPatch base patch fields) patch fields = false :=
  (merge_settles_conflict_iff _ _ _).1.mpr fun _ => .inl rfl

theorem merge_keeps_parent_id_conflict :
    ¬ ∀ (base patch : Bead) (fields : BeadPayload),
      cacheEventConflictsCurrent (mergeCacheEventPatch base patch fields) patch fields = false := by
  intro all
  have := all { id := "a", parentID := "p" } { id := "a" } { parentID := .value "q" }
  simp [conflicts_merged, JsonField.has] at this

end GasCity
