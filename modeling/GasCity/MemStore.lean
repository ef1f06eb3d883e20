import GasCity.Query
import Mathlib.Algebra.Group.Nat.Defs

namespace GasCity

inductive MemError where
  | notFound (doing id : String)
  | duplicateID (id : String)
  | conditionalWriteUnsupported
  | conditionalUpdateFieldUnsupported (doing id field : String)
  | emptyConditionalUpdate (doing id : String)
  | preconditionFailed (id : String) (expected current : Int64)
  | notReadyForConditionalUpdate
  | queryRequiresScan
  deriving DecidableEq

structure MemStore where
  beads : BeadMap := KeyedList.empty
  deps : List Dep := []
  seq : Int64 := 0
  disableConditionalWrites : Bool := false
  idPrefix : String := ""
  honorExplicitIDs : Bool := false
  localStrings : FinMap String StringMap := ∅

abbrev MemResult (α : Type) := Except MemError α × MemStore

def isSpace (ch : Char) : Bool :=
  ch.val ∈ [0x9, 0xa, 0xb, 0xc, 0xd, 0x20, 0x85, 0xa0, 0x1680, 0x2028, 0x2029, 0x202f, 0x205f, 0x3000] ||
    (0x2000 ≤ ch.val && ch.val ≤ 0x200a)

def trimSpace (s : String) : String :=
  String.ofList (((s.toList.dropWhile isSpace).reverse.dropWhile isSpace).reverse)

def numericIDSuffix (id : String) : Int64 :=
  let digits := (id.toList.reverse.takeWhile Char.isDigit).reverse
  let n := digits.foldl (fun n ch => n * 10 + (ch.toNat - '0'.toNat)) 0
  Int64.ofNat (min n (2 ^ 63 - 1))

def isEmptyUpdateOpts (o : UpdateOpts) : Bool :=
  o.title.isNone && o.status.isNone && o.type.isNone && o.priority.isNone && o.description.isNone &&
    o.parentID.isNone && o.assignee.isNone && o.labels.isEmpty && o.removeLabels.isEmpty &&
    o.metadata.entries.isEmpty

def validateConditionalUpdateOpts (doing id : String) (o : UpdateOpts) : Option MemError :=
  if o.parentID.isSome then some (.conditionalUpdateFieldUnsupported doing id "parent_id")
  else if o.labels.length > 0 then some (.conditionalUpdateFieldUnsupported doing id "labels")
  else if o.removeLabels.length > 0 then
    some (.conditionalUpdateFieldUnsupported doing id "remove_labels")
  else if isEmptyUpdateOpts o then some (.emptyConditionalUpdate doing id)
  else none

def isOwnershipTransition (oldStatus oldAssignee : String) (opts : UpdateOpts) : Bool :=
  (match opts.assignee with
    | some a => a != oldAssignee
    | none => false) ||
  match opts.status with
    | some s => s != "" && oldStatus == "closed" && s != "closed"
    | none => false

def releaseClearedIdentityKeys : List String :=
  ["gc.session_id", "gc.session_name", "gc.sessionId", "gc.sessionName"]

def touch (b : Bead) (now : Time) : Bead := { b with updatedAt := now, revision := b.revision + 1 }

def applyUpdate (opts : UpdateOpts) (now : Time) (b : Bead) : Bead :=
  let labels := b.labels ++ opts.labels
  touch
    { b with
      title := opts.title.getD b.title
      status := opts.status.getD b.status
      description := opts.description.getD b.description
      priority := opts.priority.or b.priority
      parentID := opts.parentID.getD b.parentID
      assignee := opts.assignee.getD b.assignee
      type := opts.type.getD b.type
      metadata := writeAll b.metadata opts.metadata
      labels := labels.filter (fun l => !opts.removeLabels.contains l)
      claimFence :=
        if isOwnershipTransition b.status b.assignee opts then b.claimFence + 1 else b.claimFence }
    now

def closeRow (now : Time) (b : Bead) : Bead := touch { b with status := "closed" } now

def reopenRow (now : Time) (b : Bead) : Bead :=
  touch
    { b with
      status := "open"
      claimFence := if b.status == "closed" then b.claimFence + 1 else b.claimFence }
    now

def releaseRow (now : Time) (b : Bead) : Bead :=
  touch
    { b with
      status := "open"
      assignee := ""
      metadata := releaseClearedIdentityKeys.foldl (fun m key => m.erase key) b.metadata
      claimFence := b.claimFence + 1 }
    now

def writeMetadata (kvs : StringMap) (now : Time) (b : Bead) : Bead :=
  touch { b with metadata := writeAll b.metadata kvs } now

def closeRowWith (metadata : StringMap) (now : Time) (b : Bead) : Bead :=
  { closeRow now b with metadata := writeAll b.metadata metadata }

namespace MemStore

variable (m : MemStore) (id : String)

def Get : Except MemError Bead :=
  match m.beads.find id with
  | some b => .ok b
  | none => .error (.notFound "getting bead" id)

def applyUpdateLocked (opts : UpdateOpts) (now : Time) : MemStore :=
  { m with beads := m.beads.modify id (applyUpdate opts now) (fun _ => rfl) }

def candidate (pre : String) (seq : Int64) : String := pre ++ "-" ++ seq.toInt.repr

/-- Count up to the first free id. The number of rows bounds how often it can be taken. -/
def mintLoop (m : MemStore) (pre : String) : Nat → Int64 → String × Int64
  | 0, seq => (candidate pre (seq + 1), seq + 1)
  | fuel + 1, seq =>
    if (m.beads.find (candidate pre (seq + 1))).isNone then (candidate pre (seq + 1), seq + 1)
    else m.mintLoop pre fuel (seq + 1)

def mintIDLocked : String × Int64 :=
  m.mintLoop (if m.idPrefix = "" then "gc" else m.idPrefix) m.beads.rows.length m.seq

def newRow (b : Bead) (id : String) (now : Time) : Bead :=
  { b with
    id := id
    status := "open"
    type := if b.type = "" then "task" else b.type
    createdAt := now
    updatedAt := now
    revision := 1
    claimFence := 0 }

def insertLocked (stored : Bead) (seq : Int64) : MemResult Bead :=
  if fresh : stored.id ∈ m.beads.keys then (.error (.duplicateID stored.id), m)
  else
    (.ok stored,
      { m with
        beads := m.beads.push stored fresh
        deps := m.deps ++ stored.needs.map (depFromNeed stored.id)
        seq := seq })

def createLocked (b : Bead) (honorExplicit : Bool) (now : Time) : MemResult Bead :=
  let explicit := trimSpace b.id
  if honorExplicit ∧ explicit ≠ "" then
    let n := numericIDSuffix explicit
    m.insertLocked (newRow b explicit now) (if m.seq < n then n else m.seq)
  else m.insertLocked (newRow b m.mintIDLocked.1 now) m.mintIDLocked.2

def Create (b : Bead) (now : Time) : MemResult Bead :=
  m.createLocked b m.honorExplicitIDs now

def Update (opts : UpdateOpts) (now : Time) : MemResult Unit :=
  if (m.beads.find id).isNone then (.error (.notFound "updating bead" id), m)
  else (.ok (), m.applyUpdateLocked id opts now)

def ReleaseIfCurrent (id expectedAssignee : String) (now : Time) : MemResult Bool :=
  match m.beads.find id with
  | none => (.ok false, m)
  | some b =>
    if b.status ≠ "in_progress" ∨ b.assignee ≠ expectedAssignee then (.ok false, m)
    else (.ok true, { m with beads := m.beads.modify id (releaseRow now) (fun _ => rfl) })

def Close (now : Time) : MemResult Unit :=
  match m.beads.find id with
  | none => (.error (.notFound "closing bead" id), m)
  | some b =>
    if b.status = "closed" then (.ok (), m)
    else (.ok (), { m with beads := m.beads.modify id (closeRow now) (fun _ => rfl) })

def Reopen (now : Time) : MemResult Unit :=
  match m.beads.find id with
  | none => (.error (.notFound "reopening bead" id), m)
  | some b =>
    if b.status = "open" then (.ok (), m)
    else (.ok (), { m with beads := m.beads.modify id (reopenRow now) (fun _ => rfl) })

variable (ids : List String)

def closable (b : Bead) : Bool := ids.contains b.id && b.status != "closed"

variable (metadata : StringMap)

def closeAllRow (now : Time) (b : Bead) : Bead :=
  if closable ids b then closeRowWith metadata now b else b

theorem closeAllRow_id (now : Time) (b : Bead) : (closeAllRow ids metadata now b).id = b.id := by
  unfold closeAllRow
  split <;> rfl

def CloseAll (now : Time) : MemResult Nat :=
  (.ok (m.beads.rows.countP (closable ids)),
    { m with
      beads := m.beads.mapRows (closeAllRow ids metadata now) (closeAllRow_id ids metadata now) })

def SetMetadata (id key value : String) (now : Time) : MemResult Unit :=
  if (m.beads.find id).isNone then (.error (.notFound "setting metadata on" id), m)
  else
    (.ok (),
      { m with
        beads := m.beads.modify id (writeMetadata (AList.insert key value ∅) now) (fun _ => rfl) })

def SetMetadataBatch (kvs : StringMap) (now : Time) : MemResult Unit :=
  if kvs.entries.length = 0 then (.ok (), m)
  else if (m.beads.find id).isNone then (.error (.notFound "setting metadata batch on" id), m)
  else (.ok (), { m with beads := m.beads.modify id (writeMetadata kvs now) (fun _ => rfl) })

def SetLocalString (id key value : String) : MemResult Unit :=
  if (m.beads.find id).isNone then (.error (.notFound "setting local string on" id), m)
  else
    let strings := (m.localStrings.lookup id).getD ∅
    if value = "" then
      if (m.localStrings.lookup id).isNone then (.ok (), m)
      else (.ok (), { m with localStrings := m.localStrings.insert id (strings.erase key) })
    else (.ok (), { m with localStrings := m.localStrings.insert id (strings.insert key value) })

def Delete : MemResult Unit :=
  if (m.beads.find id).isNone then (.error (.notFound "deleting bead" id), m)
  else (.ok (), { m with beads := m.beads.erase id, localStrings := m.localStrings.erase id })

protected def List (m : MemStore) (query : ListQuery) : Except MemError (List Bead) :=
  if !query.HasFilter && !query.allowScan then .error .queryRequiresScan
  else .ok (applyListQuery m.beads.rows query)

def blocks (dep : Dep) : Bool :=
  isReadyBlockingDependencyType dep.type &&
    ((m.beads.find dep.dependsOnID).map Bead.status).getD "" != "closed"

def readyLocked (q : ReadyQuery) (now : Time) : List Bead :=
  let ready := m.beads.rows.filter (fun b =>
    isReadyCandidateForTier b now q.tierMode && (q.assignee == "" || b.assignee == q.assignee) &&
      !m.deps.any (fun dep => dep.issueID == b.id && m.blocks dep))
  if q.limit > 0 then ready.take q.limit else ready

/-- Record a dependency over the ones there are: a known one stands, another type of the same edge
is rewritten unless either is parent-child. -/
def depAddLoop (issueID dependsOnID depType : String) : List Dep → List Dep
  | [] => [⟨issueID, dependsOnID, depType⟩]
  | d :: deps =>
    if d.issueID = issueID ∧ d.dependsOnID = dependsOnID ∧ d.type = depType then d :: deps
    else if d.issueID = issueID ∧ d.dependsOnID = dependsOnID ∧ d.type ≠ "parent-child" ∧
        depType ≠ "parent-child" then { d with type := depType } :: deps
    else d :: depAddLoop issueID dependsOnID depType deps

def DepAdd (issueID dependsOnID depType : String) : MemStore :=
  { m with deps := depAddLoop issueID dependsOnID depType m.deps }

def DepRemove (issueID dependsOnID : String) : MemStore :=
  { m with deps := m.deps.eraseP (fun d => d.issueID == issueID && d.dependsOnID == dependsOnID) }

inductive Direction where
  | up
  | down

def DepList (direction : Direction) : List Dep :=
  match direction with
  | .up => m.deps.filter (fun d => d.dependsOnID == id)
  | .down => m.deps.filter (fun d => d.issueID == id)

/-- The shared guard of the conditional writes: the bead is there at the expected revision. -/
def conditional {α : Type} (m : MemStore) (doing id : String) (expectedRevision : Int64)
    (write : Bead → MemResult α) : MemResult α :=
  if m.disableConditionalWrites then (.error .conditionalWriteUnsupported, m)
  else
    match m.beads.find id with
    | none => (.error (.notFound doing id), m)
    | some b =>
      if b.revision ≠ expectedRevision then
        (.error (.preconditionFailed id expectedRevision b.revision), m)
      else write b

variable (expectedRevision : Int64)

def UpdateIfMatch (opts : UpdateOpts) (now : Time) : MemResult Unit :=
  match validateConditionalUpdateOpts "conditional update" id opts with
  | some err => (.error err, m)
  | none =>
    m.conditional "updating bead" id expectedRevision (fun _ =>
      (.ok (), m.applyUpdateLocked id opts now))

def UpdateIfReadyAndMatch (opts : UpdateOpts) (now : Time) : MemResult Unit :=
  if isEmptyUpdateOpts opts then (.error (.emptyConditionalUpdate "conditional ready update" id), m)
  else
    m.conditional "updating ready bead" id expectedRevision (fun _ =>
      if (m.readyLocked { tierMode := .tierBoth } now).any (fun b => b.id == id) then
        (.ok (), m.applyUpdateLocked id opts now)
      else (.error .notReadyForConditionalUpdate, m))

def CloseIfMatch (now : Time) : MemResult Unit :=
  m.conditional "closing bead" id expectedRevision (fun b =>
    if b.status = "closed" then (.ok (), m)
    else (.ok (), { m with beads := m.beads.modify id (closeRow now) (fun _ => rfl) }))

/-- Unlike `Delete` it leaves the local strings of the bead. -/
def DeleteIfMatch : MemResult Unit :=
  m.conditional "deleting bead" id expectedRevision (fun _ =>
    (.ok (), { m with beads := m.beads.erase id }))

def CompareAndSetMetadataKey (id key expected next : String) (now : Time) : MemResult Bool :=
  if m.disableConditionalWrites then (.error .conditionalWriteUnsupported, m)
  else
    match m.beads.find id with
    | none => (.error (.notFound "compare-and-set metadata on" id), m)
    | some b =>
      if (b.metadata.lookup key).getD "" ≠ expected then (.ok false, m)
      else
        (.ok true,
          { m with
            beads := m.beads.modify id (writeMetadata (AList.insert key next ∅) now)
              (fun _ => rfl) })

end MemStore

end GasCity
