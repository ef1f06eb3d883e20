import GasCity.FinMap
import GasCity.CountedSet
import GasCity.KeyedList

namespace GasCity

/-- An instant in nanoseconds since the zero time, which is the instant 0. -/
abbrev Time := Int

abbrev StringMap := FinMap String String

structure Dep where
  issueID : String
  dependsOnID : String
  type : String
  deriving DecidableEq

/-- One unit of work. The JSON key `from` is a keyword here and is spelled `fromField`. -/
structure Bead where
  id : String := ""
  title : String := ""
  status : String := ""
  type : String := ""
  priority : Option Int := none
  createdAt : Time := 0
  updatedAt : Time := 0
  assignee : String := ""
  fromField : String := ""
  parentID : String := ""
  ref : String := ""
  needs : List String := []
  description : String := ""
  labels : List String := []
  metadata : StringMap := ∅
  dependencies : List Dep := []
  ephemeral : Bool := false
  noHistory : Bool := false
  deferUntil : Option Time := none
  isBlocked : Option Bool := none
  revision : Int64 := 0
  claimFence : Int64 := 0
  deriving DecidableEq

abbrev BeadMap := KeyedList Bead.id

structure UpdateOpts where
  title : Option String := none
  status : Option String := none
  type : Option String := none
  priority : Option Int := none
  description : Option String := none
  parentID : Option String := none
  assignee : Option String := none
  labels : List String := []
  removeLabels : List String := []
  metadata : StringMap := ∅

def writeAll (m kvs : StringMap) : StringMap := kvs.entries.foldl (fun m kv => m.insert kv.1 kv.2) m

def isReadyBlockingDependencyType (t : String) : Bool :=
  t == "blocks" || t == "waits-for" || t == "conditional-blocks"

def readyExcludeTypes : List String :=
  ["merge-request", "gate", "molecule", "step", "convoy", "message", "session", "agent", "role", "rig"]

def isReadyExcludedType (t : String) : Bool := readyExcludeTypes.contains t

variable (b : Bead)

def hasReadyExcludedLabel : Bool :=
  b.labels.any (fun label =>
    label == "gc:session" || label == "gc:order-tracking" || label == "order-tracking")

def isReadyExcludedBead : Bool := isReadyExcludedType b.type || hasReadyExcludedLabel b

def isDeferred (now : Time) : Bool :=
  match b.deferUntil with
  | some t => decide (now < t)
  | none => false

inductive TierMode where
  | tierIssues
  | tierWisps
  | tierBoth

def isReadyCandidateForTier (now : Time) (tier : TierMode) : Bool :=
  let inTier := match tier with
    | .tierWisps => b.ephemeral || b.noHistory
    | .tierBoth => true
    | .tierIssues => !b.ephemeral
  inTier && (b.status == "open" && !isReadyExcludedBead b && !isDeferred b now)

def isReadyCandidate (now : Time) : Bool := isReadyCandidateForTier b now .tierIssues

/-- Cut a dependency reference at its first colon, as SplitN with a limit of two does. -/
def splitNeed (need : String) : Option (String × String) :=
  let chars := need.toList
  if chars.contains ':' then
    some (String.ofList (chars.takeWhile (· != ':')),
      String.ofList ((chars.dropWhile (· != ':')).drop 1))
  else none

def depFromNeed (issueID need : String) : Dep :=
  match splitNeed need with
  | some (depType, target) =>
    if depType != "" && target != "" then ⟨issueID, target, depType⟩ else ⟨issueID, need, "blocks"⟩
  | none => ⟨issueID, need, "blocks"⟩

def depsFromBeadFields : List Dep :=
  if b.dependencies.length > 0 then b.dependencies else b.needs.map (depFromNeed b.id)

def beadCarriesDependencyFields : Bool :=
  decide (b.dependencies.length > 0) || decide (b.needs.length > 0)

def stringSetEqual (a b : List String) : Bool := countedEqual a b

def depSetEqual (a b : List Dep) : Bool := countedEqual a b

def depsChanged (old fresh : List Dep) : Bool := !depSetEqual old fresh

def beadChanged (old fresh : Bead) (skipLabels : Bool) : Bool :=
  if old.id != fresh.id ||
    old.title != fresh.title ||
    old.status != fresh.status ||
    old.type != fresh.type ||
    old.priority != fresh.priority ||
    old.createdAt != fresh.createdAt ||
    old.assignee != fresh.assignee ||
    old.fromField != fresh.fromField ||
    old.parentID != fresh.parentID ||
    old.ref != fresh.ref ||
    old.description != fresh.description ||
    old.ephemeral != fresh.ephemeral ||
    old.deferUntil != fresh.deferUntil ||
    old.isBlocked != fresh.isBlocked then true
  else if !old.metadata.beq fresh.metadata then true
  else if !skipLabels && !stringSetEqual old.labels fresh.labels then true
  else if !stringSetEqual old.needs fresh.needs then true
  else !depSetEqual old.dependencies fresh.dependencies

theorem depsChanged_eq_false_iff {old fresh : List Dep} :
    depsChanged old fresh = false ↔ old.Perm fresh := by
  simp [depsChanged, depSetEqual, ← countedEqual_iff_perm]

@[simp] theorem depsChanged_self (deps : List Dep) : depsChanged deps deps = false :=
  depsChanged_eq_false_iff.mpr (List.Perm.refl deps)

/-- Two rows agree in every field that change detection compares. -/
structure BeadSame (skipLabels : Bool) (old fresh : Bead) : Prop where
  id : old.id = fresh.id
  title : old.title = fresh.title
  status : old.status = fresh.status
  type : old.type = fresh.type
  priority : old.priority = fresh.priority
  createdAt : old.createdAt = fresh.createdAt
  assignee : old.assignee = fresh.assignee
  fromField : old.fromField = fresh.fromField
  parentID : old.parentID = fresh.parentID
  ref : old.ref = fresh.ref
  description : old.description = fresh.description
  ephemeral : old.ephemeral = fresh.ephemeral
  deferUntil : old.deferUntil = fresh.deferUntil
  isBlocked : old.isBlocked = fresh.isBlocked
  metadata : ∀ k, old.metadata.lookup k = fresh.metadata.lookup k
  labels : skipLabels = false → old.labels.Perm fresh.labels
  needs : old.needs.Perm fresh.needs
  dependencies : old.dependencies.Perm fresh.dependencies

variable {skipLabels : Bool}

theorem beadChanged_eq_false_iff {old fresh : Bead} :
    beadChanged old fresh skipLabels = false ↔ BeadSame skipLabels old fresh := by
  constructor
  · intro h
    unfold beadChanged at h
    split at h
    next => simp at h
    next hplain =>
      split at h
      next => simp at h
      next hmeta =>
        split at h
        next => simp at h
        next hlabels =>
          split at h
          next => simp at h
          next hneeds =>
            simp only [Bool.or_eq_true, bne_iff_ne, ne_eq, not_or, not_not] at hplain
            obtain ⟨⟨⟨⟨⟨⟨⟨⟨⟨⟨⟨⟨⟨h1, h2⟩, h3⟩, h4⟩, h5⟩, h6⟩, h7⟩, h8⟩, h9⟩, h10⟩, h11⟩, h12⟩, h13⟩, h14⟩ := hplain
            refine ⟨h1, h2, h3, h4, h5, h6, h7, h8, h9, h10, h11, h12, h13, h14, ?_, ?_, ?_, ?_⟩
            · simpa [FinMap.beq_iff] using hmeta
            · intro hs
              simpa [hs, stringSetEqual, countedEqual_iff_perm] using hlabels
            · simpa [stringSetEqual, countedEqual_iff_perm] using hneeds
            · simpa [depSetEqual, countedEqual_iff_perm] using h
  · intro h
    have hmeta : old.metadata.beq fresh.metadata = true := FinMap.beq_iff.mpr h.metadata
    have hlabels : (!skipLabels && !stringSetEqual old.labels fresh.labels) = false := by
      cases skipLabels with
      | true => rfl
      | false => simpa [stringSetEqual, countedEqual_iff_perm] using h.labels rfl
    have hneeds : stringSetEqual old.needs fresh.needs = true := countedEqual_iff_perm.mpr h.needs
    have hdeps : depSetEqual old.dependencies fresh.dependencies = true :=
      countedEqual_iff_perm.mpr h.dependencies
    simp [beadChanged, h.id, h.title, h.status, h.type, h.priority, h.createdAt, h.assignee,
      h.fromField, h.parentID, h.ref, h.description, h.ephemeral, h.deferUntil, h.isBlocked,
      hmeta, hlabels, hneeds, hdeps]

theorem BeadSame.refl (skipLabels : Bool) (b : Bead) : BeadSame skipLabels b b :=
  ⟨rfl, rfl, rfl, rfl, rfl, rfl, rfl, rfl, rfl, rfl, rfl, rfl, rfl, rfl, fun _ => rfl,
    fun _ => List.Perm.refl _, List.Perm.refl _, List.Perm.refl _⟩

theorem BeadSame.symm {a b : Bead} (h : BeadSame skipLabels a b) :
    BeadSame skipLabels b a :=
  ⟨h.id.symm, h.title.symm, h.status.symm, h.type.symm, h.priority.symm, h.createdAt.symm,
    h.assignee.symm, h.fromField.symm, h.parentID.symm, h.ref.symm, h.description.symm,
    h.ephemeral.symm, h.deferUntil.symm, h.isBlocked.symm, fun k => (h.metadata k).symm,
    fun hs => (h.labels hs).symm, h.needs.symm, h.dependencies.symm⟩

theorem BeadSame.trans {a b c : Bead} (h : BeadSame skipLabels a b) (h' : BeadSame skipLabels b c) :
    BeadSame skipLabels a c :=
  ⟨h.id.trans h'.id, h.title.trans h'.title, h.status.trans h'.status, h.type.trans h'.type,
    h.priority.trans h'.priority, h.createdAt.trans h'.createdAt, h.assignee.trans h'.assignee,
    h.fromField.trans h'.fromField, h.parentID.trans h'.parentID, h.ref.trans h'.ref,
    h.description.trans h'.description, h.ephemeral.trans h'.ephemeral,
    h.deferUntil.trans h'.deferUntil, h.isBlocked.trans h'.isBlocked,
    fun k => (h.metadata k).trans (h'.metadata k), fun hs => (h.labels hs).trans (h'.labels hs),
    h.needs.trans h'.needs, h.dependencies.trans h'.dependencies⟩

@[simp] theorem beadChanged_self (b : Bead) (skipLabels : Bool) :
    beadChanged b b skipLabels = false :=
  beadChanged_eq_false_iff.mpr (BeadSame.refl skipLabels b)

end GasCity
