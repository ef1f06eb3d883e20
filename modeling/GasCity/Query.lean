import GasCity.Bead
import Mathlib.Data.List.Sort

namespace GasCity

inductive SortOrder where
  | sortDefault
  | sortCreatedAsc
  | sortCreatedDesc
  deriving DecidableEq

/-- The last row a pagination client has seen; the row itself is excluded. -/
structure SeekBoundary where
  createdAt : Time
  id : String

structure ListQuery where
  status : String := ""
  type : String := ""
  label : String := ""
  assignee : String := ""
  assignees : List String := []
  parentID : String := ""
  parentIDs : List String := []
  ids : List String := []
  metadata : StringMap := ∅
  createdBefore : Time := 0
  updatedBefore : Time := 0
  limit : Nat := 0
  includeClosed : Bool := false
  allowScan : Bool := false
  skipLabels : Bool := false
  live : Bool := false
  sort : SortOrder := .sortDefault
  tierMode : TierMode := .tierIssues
  seekAfter : Option SeekBoundary := none

structure ReadyQuery where
  assignee : String := ""
  limit : Nat := 0
  tierMode : TierMode := .tierIssues

def createdLess (a b : Bead) : Bool :=
  if a.createdAt = b.createdAt then decide (a.id < b.id) else decide (a.createdAt < b.createdAt)

def readySortPriority (b : Bead) : Int := b.priority.getD 2

def beadReadyLess (a b : Bead) : Bool :=
  if readySortPriority a ≠ readySortPriority b then
    decide (readySortPriority a < readySortPriority b)
  else createdLess a b

def sortBy (less : Bead → Bead → Bool) (items : List Bead) : List Bead :=
  items.insertionSort (fun a b => ¬ less b a = true)

def sortBeadsForQuery (items : List Bead) (order : SortOrder) : List Bead :=
  match order with
  | .sortDefault => items
  | .sortCreatedAsc => sortBy createdLess items
  | .sortCreatedDesc => sortBy (fun a b => createdLess b a) items

def sortBeadsReadyOrder (items : List Bead) : List Bead := sortBy beadReadyLess items

def cutAt (limit : Nat) (items : List Bead) : List Bead :=
  if limit > 0 ∧ items.length > limit then items.take limit else items

def SeekBoundary.After (sb : SeekBoundary) (b : Bead) (sort : SortOrder) : Bool :=
  match sort with
  | .sortCreatedAsc =>
    decide (sb.createdAt < b.createdAt) || decide (b.createdAt = sb.createdAt ∧ sb.id < b.id)
  | .sortCreatedDesc =>
    decide (b.createdAt < sb.createdAt) || decide (b.createdAt = sb.createdAt ∧ b.id < sb.id)
  | .sortDefault => false

def beadUpdatedReferenceTime (b : Bead) : Time := if b.updatedAt ≠ 0 then b.updatedAt else b.createdAt

def matchesMetadata (b : Bead) (filters : StringMap) : Bool :=
  filters.entries.all (fun kv => (b.metadata.lookup kv.1).getD "" == kv.2)

namespace ListQuery

variable (q : ListQuery)

def Validate : Option String :=
  if q.assignee ≠ "" ∧ q.assignees.length > 0 then
    some "ListQuery: Assignee and Assignees are mutually exclusive"
  else if q.seekAfter.isSome ∧ q.sort ≠ .sortCreatedAsc ∧ q.sort ≠ .sortCreatedDesc then
    some "ListQuery: SeekAfter requires an explicit created_at sort order"
  else none

def HasFilter : Bool :=
  q.status != "" || q.type != "" || q.label != "" || q.assignee != "" ||
    decide (q.assignees.length > 0) || q.parentID != "" || decide (q.ids.length > 0) ||
    decide (q.metadata.entries.length > 0) || q.createdBefore != 0 || q.updatedBefore != 0 ||
    q.seekAfter.isSome

def IncludesClosed : Bool := q.includeClosed || q.status == "closed"

def matchesTier (b : Bead) : Bool :=
  match q.tierMode with
  | .tierWisps => b.ephemeral || b.noHistory
  | .tierBoth => true
  | .tierIssues => !b.ephemeral

def Matches (b : Bead) : Bool :=
  q.matchesTier b &&
  (if q.status ≠ "" then b.status == q.status else q.includeClosed || b.status != "closed") &&
  (q.type == "" || b.type == q.type) &&
  (q.label == "" || b.labels.contains q.label) &&
  (q.assignee == "" || b.assignee == q.assignee) &&
  (q.assignees.isEmpty || q.assignees.contains b.assignee) &&
  (q.parentID == "" || b.parentID == q.parentID) &&
  (q.ids.isEmpty || q.ids.contains b.id) &&
  (q.metadata.entries.isEmpty || matchesMetadata b q.metadata) &&
  (q.createdBefore == 0 || decide (b.createdAt < q.createdBefore)) &&
  (q.updatedBefore == 0 || decide (beadUpdatedReferenceTime b < q.updatedBefore)) &&
  match q.seekAfter with
  | none => true
  | some boundary => boundary.After b q.sort

end ListQuery

def applyListQuery (items : List Bead) (q : ListQuery) : List Bead :=
  cutAt q.limit (sortBeadsForQuery (items.filter q.Matches) q.sort)

end GasCity
