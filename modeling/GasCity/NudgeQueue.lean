import GasCity.Compaction
import GasCity.MemStore

namespace GasCity

/-- A point in time; `none` is the zero time. -/
abbrev Stamp := Option Int

def Stamp.before : Stamp → Stamp → Bool
  | _, none => false
  | none, some _ => true
  | some a, some b => decide (a < b)

structure NudgeReference where
  kind : String
  id : String
deriving DecidableEq

structure Nudge where
  id : String
  beadID : String := ""
  agent : String := ""
  sessionID : String := ""
  continuationEpoch : String := ""
  source : String := ""
  message : String := ""
  reference : Option NudgeReference := none
  createdAt : Stamp := none
  deliverAfter : Stamp := none
  expiresAt : Stamp := none
  attempts : Nat := 0
  lastAttemptAt : Stamp := none
  lastError : String := ""
  claimedAt : Stamp := none
  leaseUntil : Stamp := none
  deadAt : Stamp := none
deriving DecidableEq

inductive NudgeBucket where
  | pending
  | inFlight
  | dead
deriving DecidableEq

abbrev NudgeQueue := NudgeBucket → List Nudge

def queuedNudgeClaimTTL : Int := 120
def queuedNudgeRetryDelay : Int := 15
def queuedNudgeMaxAttempts : Nat := 5
def queuedNudgeDeadRetention : Int := 3600

namespace Nudge

variable (now : Int) (item : Nudge)

def expired : Bool :=
  match item.expiresAt with
  | none => false
  | some t => decide (t ≤ now)

def leaseOver : Bool :=
  match item.leaseUntil with
  | none => true
  | some t => decide (t ≤ now)

def notYetDue : Bool :=
  match item.deliverAfter with
  | none => false
  | some t => decide (now < t)

def pastRetention : Bool :=
  match item.deadAt with
  | none => false
  | some t => decide (t < now - queuedNudgeDeadRetention)

def expire : Nudge :=
  { item with
    deadAt := some now
    lastError := if item.lastError = "" then "expired" else item.lastError }

def failedQueuedNudge (cause : String) (fenceMismatch : Bool) (now : Int) :
    Nudge × Bool :=
  let item := { item with
    attempts := item.attempts + 1
    lastAttemptAt := some now
    lastError := cause
    claimedAt := none
    leaseUntil := none }
  if fenceMismatch then ({ item with deadAt := some now }, true)
  else if item.attempts ≥ queuedNudgeMaxAttempts || item.expired now then
    ({ item with deadAt := some now }, true)
  else ({ item with deliverAfter := some (now + queuedNudgeRetryDelay) }, false)

def terminalStateForDeadQueuedNudge : String :=
  if trimSpace item.lastError = "expired" then "expired"
  else if trimSpace item.lastError = "superseded" then "superseded"
  else "failed"

def matchesSupersession (item existing : Nudge) : Bool :=
  match item.reference, existing.reference with
  | some ref, some old =>
    decide (existing.agent = item.agent) && decide (existing.source = item.source) &&
      decide (old.kind = ref.kind) && decide (old.id = ref.id)
  | _, _ => false

def hasReference : Bool :=
  match item.reference with
  | some ref => decide (ref.id ≠ "")
  | none => false

end Nudge

def isTerminalNudgeState (state : String) : Bool :=
  state ∈ ["accepted_for_injection", "injected", "expired", "failed", "superseded"]

namespace NudgeBucket

def times : NudgeBucket → Nudge → Stamp × Stamp
  | .pending, item => (item.deliverAfter, item.createdAt)
  | .inFlight, item => (item.leaseUntil, item.claimedAt)
  | .dead, item => (item.deadAt, item.createdAt)

def less (b : NudgeBucket) (x y : Nudge) : Bool :=
  if (b.times x).1 ≠ (b.times y).1 then (b.times x).1.before (b.times y).1
  else if (b.times x).2 ≠ (b.times y).2 then (b.times x).2.before (b.times y).2
  else decide (x.id < y.id)

end NudgeBucket

namespace NudgeQueue

def empty : NudgeQueue := fun _ => []

variable (q : NudgeQueue)

def sortState : NudgeQueue := fun b =>
  (q b).insertionSort fun x y => b.less y x = false

def settle (b : NudgeBucket) (r : Spread NudgeBucket Nudge) : NudgeQueue :=
  fun i => (if i = b then r.kept else q i) ++ r.part i

def push (item : Nudge) : NudgeQueue := fun b =>
  if b = .pending then q b ++ [item] else q b

def live : List Nudge := q .pending ++ q .inFlight

def all : List Nudge := q.live ++ q .dead

def ids : List String := q.all.map Nudge.id

def queuedNudgeExists (id : String) : Bool :=
  (q .pending).any (·.id = id) || (q .inFlight).any (·.id = id) || (q .dead).any (·.id = id)

end NudgeQueue

/-- The front door of the shadow beads over some store. Lookups and writes may fail; a write may
leave its trace even then. -/
structure ShadowFront (σ : Type) where
  save : Nudge → σ → Except σ ((String × Bool) × σ)
  terminalize : Nudge → String → String → String → Int → σ → Bool × σ
  findIncludingTerminal : String → σ → Except Unit (Option String) × σ
  rollbackEnqueue : String → σ → σ

/-- The readings by which the loops of an enqueue find their deadline over, one for each round. -/
structure Readings where
  recover : Nat → Bool := fun _ => false
  expire : Nat → Bool := fun _ => false
  prune : Nat → Bool := fun _ => false
  supersedePending : Nat → Bool := fun _ => false
  supersedeInFlight : Nat → Bool := fun _ => false

section Transactions

variable {σ : Type} (front : Option (ShadowFront σ)) (now : Int)

def terminalize (item : Nudge) (state reason commitBoundary : String) (moment : Int) (s : σ) :
    Bool × σ :=
  match front with
  | none => (true, s)
  | some f => f.terminalize item state reason commitBoundary moment s

def pass (b : NudgeBucket) (visit : σ → Nudge → Except σ (σ × Fate NudgeBucket Nudge))
    (late : Nat → Bool) (w : NudgeQueue × σ) :
    Except σ (Spread NudgeBucket Nudge × NudgeQueue × σ) :=
  match scan visit late 0 w.2 {} (w.1 b) with
  | .error s => .error s
  | .ok (s, r) => .ok (r, w.1.settle b r, s)

def sift (b : NudgeBucket) (fate : Nudge → Fate NudgeBucket Nudge) (w : NudgeQueue × σ) :
    Except σ (Spread NudgeBucket Nudge × NudgeQueue × σ) :=
  pass b (fun s item => .ok (s, fate item)) (fun _ => false) w

def recoverVisit (s : σ) (item : Nudge) : Except σ (σ × Fate NudgeBucket Nudge) :=
  if item.expired now then
    .ok ((terminalize front (item.expire now) "expired" (item.expire now).lastError "" now s).2,
      .move .dead (item.expire now))
  else if item.leaseOver now then
    .ok (s, .move .pending
      { item with claimedAt := none, leaseUntil := none, deliverAfter := some now })
  else .ok (s, .keep)

def recoverExpiredInFlightNudges (late : Nat → Bool) (w : NudgeQueue × σ) :
    Except σ (NudgeQueue × σ) := do
  let (_, q, s) ← pass .inFlight (recoverVisit front now) late w
  return (q.sortState, s)

def expireVisit (s : σ) (item : Nudge) : Except σ (σ × Fate NudgeBucket Nudge) :=
  if item.expired now then
    .ok ((terminalize front (item.expire now) "expired" (item.expire now).lastError "" now s).2,
      .move .dead (item.expire now))
  else .ok (s, .keep)

def pruneExpiredQueuedNudges (late : Nat → Bool) (w : NudgeQueue × σ) :
    Except σ (NudgeQueue × σ) := do
  let (_, q, s) ← pass .pending (expireVisit front now) late w
  return (q.sortState, s)

variable (item : Nudge)

def repairReason : String :=
  if trimSpace item.lastError = "" then "failed" else trimSpace item.lastError

def repair (f : ShadowFront σ) (item : Nudge) (shadow : Option String) (s : σ) : Bool × σ :=
  if shadow.any isTerminalNudgeState then (true, s)
  else
    f.terminalize item item.terminalStateForDeadQueuedNudge (repairReason item) ""
      (item.deadAt.getD now) s

def pruneVisit (s : σ) (item : Nudge) : Except σ (σ × Fate NudgeBucket Nudge) :=
  if item.beadID = "" then .ok (s, .keep)
  else
    match front with
    | none => .ok (s, .keep)
    | some f =>
      match f.findIncludingTerminal item.id s with
      | (.error _, s) => .ok (s, .keep)
      | (.ok shadow, s) =>
        let repaired := repair now f item shadow s
        if repaired.1 && item.pastRetention now then .ok (repaired.2, .drop)
        else .ok (repaired.2, .keep)

def pruneDeadQueuedNudges (late : Nat → Bool) (w : NudgeQueue × σ) :
    Except σ (NudgeQueue × σ) := do
  let (_, w) ← pass .dead (pruneVisit front now) late w
  return w

variable (late : Readings)

def maintain (w : NudgeQueue × σ) : Except σ (NudgeQueue × σ) := do
  let w ← recoverExpiredInFlightNudges front now late.recover w
  let w ← pruneExpiredQueuedNudges front now late.expire w
  pruneDeadQueuedNudges front now late.prune w

/-- Lock, load, mutate and rewrite: after an error nothing of the queue is rewritten. -/
def withState {α : Type} (fn : NudgeQueue × σ → Except σ (α × NudgeQueue × σ))
    (w : NudgeQueue × σ) : Option α × NudgeQueue × σ :=
  match fn (w.1.sortState, w.2) with
  | .error s => (none, w.1, s)
  | .ok (a, w) => (some a, w)

def supersedeVisit (s : σ) (existing : Nudge) :
    Except σ (σ × Fate NudgeBucket Nudge) :=
  if item.matchesSupersession existing then
    let gone := { existing with deadAt := some now, lastError := "superseded" }
    match terminalize front gone "superseded" "superseded" "" now s with
    | (false, s) => .error s
    | (true, s) => .ok (s, .move .dead gone)
  else .ok (s, .keep)

def supersede (item : Nudge) (w : NudgeQueue × σ) :
    Except σ (NudgeQueue × σ) := do
  if item.hasReference then
    let (_, w) ← pass .pending (supersedeVisit front now item) late.supersedePending w
    let (_, w) ← pass .inFlight (supersedeVisit front now item) late.supersedeInFlight w
    return w
  else return w

def enqueueTransaction (item : Nudge) (w : NudgeQueue × σ) :
    Except σ (Unit × NudgeQueue × σ) := do
  let w ← maintain front now late w
  if w.1.queuedNudgeExists item.id then return ((), w)
  else
    let w ← supersede front now late item w
    return ((), (w.1.push item).sortState, w.2)

def ensureQueuedNudgeBead (s : σ) : Except σ ((String × Bool) × σ) :=
  match front with
  | none => .ok (("", false), s)
  | some f => f.save item s

def withBead (beadID : String) : Nudge :=
  if beadID = "" then item else { item with beadID := beadID }

/-- The shadow is created before the transaction and rolled back after a failed one. -/
def enqueueQueuedNudge (item : Nudge) (w : NudgeQueue × σ) : NudgeQueue × σ :=
  match ensureQueuedNudgeBead front item w.2 with
  | .error s => (w.1, s)
  | .ok ((beadID, created), s) =>
    match withState (enqueueTransaction front now late (withBead item beadID)) (w.1, s) with
    | (some _, w) => w
    | (none, q, s) =>
      match front with
      | some f => if created && beadID ≠ "" then (q, f.rollbackEnqueue beadID s) else (q, s)
      | none => (q, s)

def claimFate (wanted : Nudge → Bool) (item : Nudge) : Fate NudgeBucket Nudge :=
  if !wanted item then .keep
  else if item.notYetDue now then .keep
  else .move .inFlight
    { item with claimedAt := some now, leaseUntil := some (now + queuedNudgeClaimTTL) }

def claimDueQueuedNudgesMatching (wanted : Nudge → Bool) (w : NudgeQueue × σ) :
    Option (List Nudge) × NudgeQueue × σ :=
  withState (fun w => do
    let w ← maintain front now late w
    let (r, q, s) ← sift .pending (claimFate now wanted) w
    return (r.part .inFlight, q.sortState, s)) w

def listQueuedNudges (agent : Nudge → Bool) (w : NudgeQueue × σ) :
    Option (List Nudge × List Nudge × List Nudge) × NudgeQueue × σ :=
  withState (fun w => do
    let w ← maintain front now late w
    return (((w.1 .pending).filter agent, (w.1 .inFlight).filter agent, (w.1 .dead).filter agent),
      w)) w

def runNudgeQueueMaintenanceSweep (w : NudgeQueue × σ) :
    Option Unit × NudgeQueue × σ :=
  withState (fun w => do
    let w ← maintain front now late w
    return ((), w)) w

variable (ids : List String)

def releaseFate (item : Nudge) : Fate NudgeBucket Nudge :=
  if item.id ∈ ids then .move .pending { item with claimedAt := none, leaseUntil := none }
  else .keep

def releaseQueuedNudgeClaims (w : NudgeQueue × σ) :
    Option Unit × NudgeQueue × σ :=
  if ids = [] then (some (), w)
  else
    withState (fun w => do
      let w ← maintain front now late w
      let (_, q, s) ← sift .inFlight (releaseFate ids) w
      return ((), q.sortState, s)) w

def markAll (outcome reason commitBoundary : String) : List Nudge → σ → Except σ σ
  | [], s => .ok s
  | item :: items, s =>
    match terminalize front item outcome reason commitBoundary now s with
    | (false, s) => .error s
    | (true, s) => markAll outcome reason commitBoundary items s

def dropFate (drop : Nudge → Bool) (item : Nudge) : Fate NudgeBucket Nudge :=
  if drop item then .drop else .keep

def ackQueuedNudgesWithOutcome
    (outcome reason commitBoundary : String) (w : NudgeQueue × σ) : Option Unit × NudgeQueue × σ :=
  if ids = [] then (some (), w)
  else
    withState (fun w => do
      let w ← maintain front now late w
      let (acked, w) ← sift .pending (dropFate (·.id ∈ ids)) w
      let (claimed, q, s) ← sift .inFlight (dropFate (·.id ∈ ids)) w
      let s ← markAll front now outcome reason commitBoundary (acked.dropped ++ claimed.dropped) s
      return ((), q, s)) w

def failureFate (cause : String) (fenceMismatch : Bool) (item : Nudge) :
    Fate NudgeBucket Nudge :=
  if item.id ∈ ids then
    match item.failedQueuedNudge cause fenceMismatch now with
    | (updated, true) => .move .dead updated
    | (updated, false) => .move .pending updated
  else .keep

/-- The shadows of dead letters are marked after the transaction, as far as the store lets it. -/
def markDeadLetters : List Nudge → σ → σ
  | [], s => s
  | item :: items, s =>
    markDeadLetters items (terminalize front item "failed" item.lastError "" now s).2

def recordQueuedNudgeFailureDetailed (cause : String)
    (fenceMismatch : Bool) (w : NudgeQueue × σ) : Option (List Nudge) × NudgeQueue × σ :=
  if ids = [] then (some [], w)
  else
    let (deadLettered, q, s) := withState (fun w => do
      let w ← maintain front now late w
      let (first, w) ← sift .pending (failureFate now ids cause fenceMismatch) w
      let (second, q, s) ← sift .inFlight (failureFate now ids cause fenceMismatch) w
      return (first.part .dead ++ second.part .dead, q.sortState, s)) w
    (deadLettered, q, markDeadLetters front now (deadLettered.getD []) s)

def rollbackVisit (id reason : String) (s : σ) (queued : Nudge) :
    Except σ (σ × Fate NudgeBucket Nudge) :=
  if queued.id = id then
    let gone := { queued with lastError := reason, deadAt := some now }
    match terminalize front gone "failed" reason "" now s with
    | (false, s) => .error s
    | (true, s) => .ok (s, .move .dead gone)
  else .ok (s, .keep)

def rollbackQueuedNudge (reason : String) (w : NudgeQueue × σ) : NudgeQueue × σ :=
  if item.id = "" then w
  else
    let (found, q, s) := withState (fun w => do
      let (first, w) ← pass .pending (rollbackVisit front now item.id reason) (fun _ => false) w
      let (second, q, s) ← pass .inFlight (rollbackVisit front now item.id reason) (fun _ => false) w
      return (first.part .dead ++ second.part .dead, q.sortState, s)) w
    match found with
    | some [] => (q, (terminalize front { item with lastError := reason } "failed" reason "" now s).2)
    | _ => (q, s)

structure WithdrawCandidate where
  id : String
  beadID : String
  createdAt : Stamp
deriving DecidableEq

def candidateForItem : WithdrawCandidate :=
  ⟨item.id, item.beadID, item.createdAt⟩

def removeWaiting (drop : Nudge → Bool) (w : NudgeQueue × σ) : Option Unit × NudgeQueue × σ :=
  withState (fun w => do
    let (_, w) ← sift .pending (dropFate drop) w
    let (_, w) ← sift .inFlight (dropFate drop) w
    return ((), w)) w

def removeWaitNudgeIDs (remove : List String) (w : NudgeQueue × σ) : Option Unit × NudgeQueue × σ :=
  removeWaiting (·.id ∈ remove) w

/-- The second transaction of a withdrawal with a store: the candidates whose shadows it has marked
leave the queue. -/
def removeCandidates (remove : List WithdrawCandidate) (w : NudgeQueue × σ) :
    Option Unit × NudgeQueue × σ :=
  removeWaiting (candidateForItem · ∈ remove) w

end Transactions

end GasCity
