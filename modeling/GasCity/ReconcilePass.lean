import GasCity.CacheWrites
import GasCity.MemStore

namespace GasCity

def cacheFullScanQuery : ListQuery where
  allowScan := true
  skipLabels := true
  tierMode := .tierBoth

theorem matches_cacheFullScanQuery (b : Bead) :
    cacheFullScanQuery.Matches b = true ↔ b.status ≠ "closed" := by
  simp [ListQuery.Matches, ListQuery.matchesTier, cacheFullScanQuery]

def withVerdict (verdicts : String → Option Bool) (b : Bead) : Bead :=
  { b with isBlocked := (verdicts b.id).or b.isBlocked }

def recoverItem (fresh closed : BeadMap) (cached : Bead) (read : Except GetError Bead) :
    BeadMap × BeadMap :=
  match read with
  | .ok bead =>
    if bead.id ≠ cached.id then (fresh.set cached, closed)
    else if bead.status = "closed" then (fresh, closed.set bead)
    else (fresh.set bead, closed)
  | .error .notFound => (fresh, closed)
  | .error .failed => (fresh.set cached, closed)

namespace CachingStore

def recoveryCandidates (c : CachingStore) (freshByID : BeadMap) : List Bead :=
  c.beads.rows.filter (fun b => (freshByID.find b.id).isNone && b.status != "closed")

def reconcileListFailed (c : CachingStore) (partialResult : Bool) : CachingStore :=
  let c := { c with syncFailures := c.syncFailures + 1 }
  if (partialResult ∨ 5 ≤ c.syncFailures) ∧ (c.state = .cacheLive ∨ c.state = .cachePartial) then
    { c with state := .cacheDegraded }.advanceObservationLocked
  else c

end CachingStore

def deterministicPriority (priority : Option Int) : Int := priority.getD 2

def sameDeterministicCreateTuple (got want : Bead) : Bool :=
  got.id == want.id && got.title == want.title && got.status == want.status &&
    got.type == want.type &&
    deterministicPriority got.priority == deterministicPriority want.priority &&
    got.assignee == want.assignee && got.fromField == want.fromField &&
    got.parentID == want.parentID && got.description == want.description &&
    got.labels == want.labels && got.metadata.beq want.metadata &&
    got.ephemeral == want.ephemeral && got.noHistory == want.noHistory &&
    got.deferUntil == want.deferUntil

/-- A canonical request of a deterministic create: its id is settled before the call. -/
structure CreateRequest where
  row : Bead
  unpadded : trimSpace row.id = row.id
  named : row.id ≠ ""

namespace MemStore

def createDeterministic (m : MemStore) (want : CreateRequest) (now : Time) :
    Option (Bead × Bool) × MemStore :=
  match m.beads.find want.row.id with
  | some existing =>
    if sameDeterministicCreateTuple existing want.row then (some (existing, false), m)
    else (none, m)
  | none =>
    match m.createLocked want.row true now with
    | (.ok created, m) => (some (created, true), m)
    | (.error _, m) => (none, m)

end MemStore

/-- What one step of a call is given from outside: the time, whether its call of the backing fails
(and is a partial result), the backing's ready projection, and the dependency sets of the pass. -/
structure StepInput where
  now : Time
  fails : Bool := false
  partialResult : Bool := false
  verdicts : String → Option Bool := fun _ => none
  depMap : FinMap String (List Dep) := ∅
  useFreshDeps : Bool := false

/-- Where a deterministic create or a reconcile pass stands between its locked sections and its
calls of the backing. -/
inductive OverlapCall where
  | create (want : CreateRequest)
  | reserved (want : CreateRequest) (sequence : Nat)
  | committed (row : Bead) (inserted : Bool) (sequence : Nat)
  | created (sequence : Nat)
  | refused
  | createFailed
  | reconcile
  | started (startSeq : Nat)
  | listed (startSeq : Nat) (freshByID : BeadMap)
  | recovering (startSeq : Nat) (freshByID confirmedClosed : BeadMap) (candidates : List Bead)
  | ready (startSeq : Nat) (snap : Snapshot)
  | merged (res : MergeSectionResult)
  | listFailed
  | passFailed

namespace OverlapCall

def next (input : StepInput) (s : CachingStore × MemStore) :
    OverlapCall → (CachingStore × MemStore) × OverlapCall
  | .create want =>
    let r := s.1.reserveMutationSequence
    ((r.1, s.2), .reserved want r.2)
  | .reserved want sequence =>
    if input.fails then (s, .refused)
    else
      match s.2.createDeterministic want input.now with
      | (some (row, inserted), m) => ((s.1, m), .committed row inserted sequence)
      | (none, m) => ((s.1, m), .refused)
  | .committed row inserted sequence =>
    (((s.1.absorbOrderedAuthoritativeCreated row inserted sequence input.now).1, s.2),
      .created sequence)
  | .refused => ((s.1.releaseMutationReservation, s.2), .createFailed)
  | .reconcile => (s, .started s.1.mutationSeq)
  | .started startSeq =>
    if input.fails then (s, .listFailed)
    else
      match s.2.List cacheFullScanQuery with
      | .ok rows => (s, .listed startSeq (KeyedList.ofRows (rows.map (withVerdict input.verdicts))))
      | .error _ => (s, .listFailed)
  | .listed startSeq freshByID =>
    (s, .recovering startSeq freshByID KeyedList.empty (s.1.recoveryCandidates freshByID))
  | .recovering startSeq freshByID confirmedClosed (cached :: candidates) =>
    let read : Except GetError Bead :=
      if input.fails then .error .failed
      else
        match s.2.beads.find cached.id with
        | some bead => .ok bead
        | none => .error .notFound
    let r := recoverItem freshByID confirmedClosed cached read
    (s, .recovering startSeq r.1 r.2 candidates)
  | .recovering startSeq freshByID confirmedClosed [] =>
    (s, .ready startSeq ⟨freshByID, confirmedClosed, input.depMap, input.useFreshDeps⟩)
  | .ready startSeq snap =>
    let r := s.1.mergeSnapshotLocked snap startSeq input.now
    ((r.1, s.2), .merged r.2)
  | .listFailed => ((s.1.reconcileListFailed input.partialResult, s.2), .passFailed)
  | .created sequence => (s, .created sequence)
  | .createFailed => (s, .createFailed)
  | .merged res => (s, .merged res)
  | .passFailed => (s, .passFailed)

end OverlapCall

end GasCity
