import GasCity.DecisionLedger

namespace GasCity

structure IngestRequest where
  payload : DecisionPayload
  approval : ApprovalPayload
  signature : Signature
  now : ZonedTime
  idempotencyToken : String

structure FinalAdmissionRequest where
  decisionID : String
  expectedRevision : Nat
  now : ZonedTime
  idempotencyToken : String

abbrev AdmissionCallback := DecisionRecord → Option (DecisionState × String)

inductive AdmissionGate (α : Type) where
  | replay (first : α)
  | expired (record : DecisionRecord)
  | ask (record : DecisionRecord)

/-- A legacy file: its digest, the work of its intents, and whether it was read from a path. -/
structure LegacySource where
  digest : String
  intents : List String
  loaded : Bool

structure PurgeOptions where
  now : ZonedTime
  limit : Int
  after : Except LedgerError String

structure PurgeResult where
  scanned : Nat
  deleted : Nat
  next : Option String
  deriving DecidableEq

def maxActiveQuery : Int := 256

def maxLegacyIntents : Nat := 256

def retentionMonths : Int := 6

namespace ZonedTime

def daysFromCivil (year month day : Int) : Int :=
  let year := if month ≤ 2 then year - 1 else year
  let era := year.fdiv 400
  let yearOfEra := year - era * 400
  let dayOfYear := (153 * ((month + 9) % 12) + 2) / 5 + day - 1
  era * 146097 + (yearOfEra * 365 + yearOfEra / 4 - yearOfEra / 100 + dayOfYear) - 306

def civilFromDays (days : Int) : Int × Int × Int :=
  let era := (days + 306).fdiv 146097
  let dayOfEra := days + 306 - era * 146097
  let yearOfEra := (dayOfEra - dayOfEra / 1460 + dayOfEra / 36524 - dayOfEra / 146096) / 365
  let dayOfYear := dayOfEra - (365 * yearOfEra + yearOfEra / 4 - yearOfEra / 100)
  let shifted := (5 * dayOfYear + 2) / 153
  let month := if shifted < 10 then shifted + 3 else shifted - 9
  (yearOfEra + era * 400 + (if month ≤ 2 then 1 else 0), month,
    dayOfYear - (153 * shifted + 2) / 5 + 1)

/-- The same day of an earlier month, or the last day of that month when it is shorter. -/
def subtractCalendarMonths (t : ZonedTime) (months : Int) : ZonedTime :=
  let days := t.instant.fdiv day
  let (year, month, dayOfMonth) := civilFromDays days
  let total := year * 12 + (month - 1) - months
  let first := daysFromCivil (total.fdiv 12) (total.fmod 12 + 1) 1
  let lastDay := daysFromCivil ((total + 1).fdiv 12) ((total + 1).fmod 12 + 1) 1 - first
  ⟨(first + min dayOfMonth lastDay - 1) * day + (t.instant - days * day), 0⟩

def orClock (t clock : ZonedTime) : ZonedTime := if t.isZero then clock.utc else t.utc

end ZonedTime

namespace LedgerTx

variable {F : Type} [DecidableEq F] (c : Crypto F)

def create (payload : DecisionPayload) (token : String) (clock : ZonedTime) :
    LedgerTx F DecisionRecord := do
  require (payload.valid c) .invalidDecision
  require (trimSpace token ≠ "") .invalidDecision
  let fingerprint := c.fingerprint (.create payload.normalized)
  match ← readIdempotency token fingerprint with
  | some replay =>
    match replay.kind, replay.created with
    | .create, some r => return r
    | _, _ => throw .idempotencyConflict
  | none =>
    require ((← get).decisions.find payload.decisionID).isNone .decisionExists
    let r ← propose { payload, state := .proposed, recordRevision := 1, storeRevision := 0 } clock
      "created"
    putIdempotency token
      { kind := .create, fingerprint, decisionID := payload.decisionID, created := some r }
    return r

def verify (v : Verifier) (p : DecisionPayload) (a : ApprovalPayload) (s : Signature) :
    LedgerTx F Unit :=
  match v.verify c p a s with
  | .ok _ => pure ()
  | .error e => throw e

def requireFresh (decisionID : String) : LedgerTx F Unit := do
  let l ← get
  require ((l.purged.find decisionID).isNone && (l.decisions.find decisionID).isNone) .decisionExists

def ingestApproved (request : IngestRequest) (v : Verifier) (clock : ZonedTime) :
    LedgerTx F (DecisionRecord × TransitionReceipt) := do
  require (validateText request.idempotencyToken true) .invalidDecision
  require (request.payload.valid c) .invalidDecision
  require request.approval.valid .invalidDecision
  require (decide (request.payload.createdAt.instant ≤ request.approval.approvedAt.instant) &&
    decide (request.approval.approvedAt.instant < request.payload.expiresAt.instant)) .invalidDecision
  verify c v request.payload request.approval request.signature
  let payload := request.payload.normalized
  let approval := request.approval.normalized
  let fingerprint := c.fingerprint (.ingest ⟨payload, approval⟩ request.signature)
  let now := request.now.orClock clock
  require (payload.isActiveAt now && decide (approval.approvedAt.instant ≤ now.instant))
    .invalidDecision
  let signed : DecisionRecord :=
    { payload, approval := some approval, signature := some request.signature, state := .approved,
      recordRevision := 2, storeRevision := 0 }
  match ← readIdempotency request.idempotencyToken fingerprint with
  | some replay =>
    match replay.kind, replay.transition with
    | .ingest, some receipt =>
      require (replay.decisionID = payload.decisionID) .idempotencyConflict
      return ({ signed with
        state := receipt.state
        recordRevision := receipt.recordRevision
        storeRevision := receipt.storeRevision }, receipt)
    | _, _ => throw .idempotencyConflict
  | none =>
    requireFresh payload.decisionID
    let proposedRevision ← nextStoreRevision
    putAudit ⟨payload.decisionID, none, .proposed, now, "ingested signed decision", 1,
      proposedRevision⟩
    let approvedRevision ← nextStoreRevision
    let record := { signed with storeRevision := approvedRevision }
    putRecord record
    incrementCount .approved
    putAudit ⟨payload.decisionID, some .proposed, .approved, now, "signature admitted", 2,
      approvedRevision⟩
    putIdempotency request.idempotencyToken
      { kind := .ingest, fingerprint, decisionID := payload.decisionID
        transition := some record.receipt }
    return (record, record.receipt)

/-- The record with the approval that a request attaches. An approval comes with the move to
approved and with no other. -/
def attachApproval (request : TransitionRequest) (v : Verifier) (r : DecisionRecord) :
    LedgerTx F DecisionRecord :=
  if request.target = .approved then
    match request.approval, request.signature with
    | some approval, some signature => do
      verify c v r.payload approval signature
      return { r with approval := some approval, signature := some signature }
    | _, _ => throw .authorizationRequired
  else do
    require (request.approval.isNone && request.signature.isNone) .invalidDecision
    return r

def transition (request : TransitionRequest) (v : Verifier) (clock : ZonedTime) :
    LedgerTx F TransitionReceipt := do
  require (trimSpace request.decisionID ≠ "") .invalidDecision
  require (validateText request.idempotencyToken true) .invalidDecision
  require (validateText request.reason true) .invalidDecision
  let fingerprint := c.fingerprint (.transition request)
  match ← readIdempotency request.idempotencyToken fingerprint with
  | some replay =>
    match replay.kind, replay.transition with
    | .transition, some receipt => return receipt
    | _, _ => throw .idempotencyConflict
  | none =>
    let r ← getRecord c request.decisionID
    require (r.recordRevision = request.expectedRevision) .staleRevision
    require (r.state = request.source && request.source.isAllowedTransition request.target)
      .invalidTransition
    let signed ← attachApproval c request v r
    let moved ← advance signed request.target clock request.reason
    putIdempotency request.idempotencyToken
      { kind := .transition, fingerprint, decisionID := moved.id, transition := some moved.receipt }
    return moved.receipt

def callbackAnswer (callback : AdmissionCallback) (r : DecisionRecord) :
    LedgerTx F (DecisionState × String) :=
  match callback r with
  | none => throw .admissionCallback
  | some (state, reason) => do
    require (state = .admitted || state = .refusedAfterRace) .invalidTransition
    require (validateText reason true) .invalidDecision
    return (state, reason)

/-- The record moves to the state an admission found, under the token of the admission. -/
def commitAdmission (kind : ReceiptKind) (fingerprint : F) (token : String) (commits : Bool)
    (r : DecisionRecord) (state : DecisionState) (now : ZonedTime) (reason : String) :
    LedgerTx F DecisionRecord := do
  require commits .admissionCommit
  let moved ← advance r state now reason
  putIdempotency token
    { kind, fingerprint, decisionID := moved.id, transition := some moved.receipt }
  return moved

variable (payload : DecisionPayload)

/-- The request of a local admission does not include the window of the payload. -/
def localFingerprint : F :=
  c.fingerprint (.localAdmission
    { payload.normalized with createdAt := ⟨0, 0⟩, expiresAt := ⟨0, 0⟩ })

/-- A local admission up to its callback: the record is already written as proposed. -/
def localGate (token : String) (clock : ZonedTime) :
    LedgerTx F (AdmissionGate (DecisionRecord × TransitionReceipt)) := do
  require (payload.schema = executionSchemaVersion && payload.execution.isSome) .invalidDecision
  require (payload.valid c) .invalidDecision
  require (trimSpace token ≠ "") .invalidDecision
  match ← readIdempotency token (localFingerprint c payload) with
  | some replay =>
    match replay.kind, replay.transition with
    | .localAdmission, some receipt =>
      require (replay.decisionID = payload.decisionID) .idempotencyConflict
      match (← get).decisions.find payload.decisionID with
      | none => throw .storeCorrupt
      | some r =>
        decodeRecord c r
        return .replay (r, receipt)
    | _, _ => throw .idempotencyConflict
  | none =>
    requireFresh payload.decisionID
    require (payload.isActiveAt clock) .invalidDecision
    let proposed ← propose
      { payload := payload.normalized, isLocal := true, state := .proposed, recordRevision := 1,
        storeRevision := 0 } clock "created local advisory admission"
    return .ask proposed

def admitLocal (token : String) (callback : Option AdmissionCallback)
    (commits : Bool) (clock : ZonedTime) : LedgerTx F (DecisionRecord × TransitionReceipt) := do
  match callback with
  | none => throw .invalidDecision
  | some callback =>
    match ← localGate c payload token clock with
    | .replay first => return first
    | .expired _ => throw .invalidDecision
    | .ask proposed =>
      let (state, reason) ← callbackAnswer callback proposed
      let moved ← commitAdmission .localAdmission (localFingerprint c payload) token commits proposed
        state clock reason
      return (moved, moved.receipt)

def admissionGate (request : FinalAdmissionRequest) (v : Verifier) (clock : ZonedTime) :
    LedgerTx F (AdmissionGate TransitionReceipt) := do
  require (trimSpace request.decisionID ≠ "" && trimSpace request.idempotencyToken ≠ "")
    .invalidDecision
  match ← readIdempotency request.idempotencyToken
      (c.fingerprint (.admission request.decisionID request.expectedRevision)) with
  | some replay =>
    match replay.kind, replay.transition with
    | .admission, some receipt => return .replay receipt
    | _, _ => throw .idempotencyConflict
  | none =>
    let r ← getRecord c request.decisionID
    require (r.recordRevision = request.expectedRevision) .staleRevision
    match r.state, r.approval, r.signature with
    | .approved, some approval, some signature =>
      verify c v r.payload approval signature
      let now := request.now.orClock clock
      if r.payload.expiresAt.instant ≤ now.instant then
        return .expired r
      else
        require (decide (r.payload.createdAt.instant ≤ now.instant)) .invalidTransition
        return .ask r
    | _, _, _ => throw .invalidTransition

def finalAdmission (request : FinalAdmissionRequest) (v : Verifier)
    (callback : Option AdmissionCallback) (commits : Bool) (clock : ZonedTime) :
    LedgerTx F TransitionReceipt := do
  match callback with
  | none => throw .invalidDecision
  | some callback =>
    let fingerprint := c.fingerprint (.admission request.decisionID request.expectedRevision)
    let commit := fun r state reason =>
      commitAdmission .admission fingerprint request.idempotencyToken commits r state
        (request.now.orClock clock) reason
    match ← admissionGate c request v clock with
    | .replay first => return first
    | .expired r => return (← commit r .expired "validity window elapsed").receipt
    | .ask r =>
      let (state, reason) ← callbackAnswer callback r
      return (← commit r state reason).receipt

def latestAudit (r : DecisionRecord) : LedgerTx F TransitionAudit := do
  match (← get).transitions.find (r.id, r.recordRevision) with
  | none => throw .storeCorrupt
  | some a =>
    require (a.target = r.state) .storeCorrupt
    return a

/-- The record goes with its index entry, its audits and its receipts, and leaves a mark. -/
def purgeDecision (r : DecisionRecord) : LedgerTx F Unit := do
  require r.state.isTerminal .invalidTransition
  modify fun l => { l with
    stateExpiry := l.stateExpiry.erase r.indexKey
    decisions := l.decisions.erase r.id
    transitions := l.transitions.keep fun a => a.decisionID ≠ r.id
    idempotency := l.idempotency.keep fun row => (l.receiptByDecision.find (r.id, row.1)).isNone
    receiptByDecision := l.receiptByDecision.keep fun k => k.1 ≠ r.id
    purged := l.purged.set (r.id, c.fingerprint (.purged r.payload.normalized)) }
  decrementCount r.state
  let _ ← nextStoreRevision

def purgeCandidates (cutoff : ZonedTime) : List DecisionRecord → LedgerTx F (List DecisionRecord)
  | [] => return []
  | r :: rest => do
    decodeRecord c r
    if r.state.isTerminal then
      let audit ← latestAudit r
      let more ← purgeCandidates cutoff rest
      return if audit.time.instant ≤ cutoff.instant then r :: more else more
    else
      purgeCandidates cutoff rest

def purgeTerminal (options : PurgeOptions) (clock : ZonedTime) : LedgerTx F PurgeResult := do
  require (decide (0 < options.limit) && decide (options.limit ≤ maxActiveQuery)) .invalidDecision
  let after ← (fun l => options.after.map fun a => (a, l) : LedgerTx F String)
  let cutoff := (options.now.orClock clock).subtractCalendarMonths retentionMonths
  let behind := ((← get).decisions.rows.insertionSort fun a b => a.id ≤ b.id).filter fun r =>
    decide (after < r.id)
  let page := behind.take options.limit.toNat
  let candidates ← purgeCandidates c cutoff page
  candidates.forM (purgeDecision c)
  return ⟨page.length, candidates.length,
    if page.length < behind.length then page.getLast?.map DecisionRecord.id else none⟩

def importPayloads (clock : Nat → ZonedTime) :
    List String → List String → List DecisionPayload → LedgerTx F Unit
  | _, _, [] => pure ()
  | seen, intents, p :: rest => do
    require (p.valid c && intents.head? = some p.workBeadID) .invalidDecision
    require (!seen.contains p.workBeadID) .invalidDecision
    require ((← get).decisions.find p.decisionID).isNone .decisionExists
    let _ ← propose { payload := p, state := .proposed, recordRevision := 1, storeRevision := 0 }
      (clock rest.length) "imported from unsigned legacy routing intent"
    importPayloads clock (p.workBeadID :: seen) intents.tail rest

def importLegacy (source : LegacySource) (payloads : List DecisionPayload)
    (clock : Nat → ZonedTime) : LedgerTx F (List String) := do
  require (validDigest source.digest && source.loaded) .invalidDecision
  match (← get).imports.find source.digest with
  | some row =>
    require (row.2.sourceDigest = source.digest) .storeCorrupt
    return row.2.decisionIDs
  | none =>
    require (decide (payloads.length = source.intents.length) && !payloads.isEmpty &&
      decide (payloads.length ≤ maxLegacyIntents)) .invalidDecision
    importPayloads c clock [] source.intents payloads
    let now := (clock payloads.length).utc
    require now.writable .storeCorrupt
    let decisionIDs := payloads.map fun p => p.decisionID
    modify fun l => { l with
      imports := l.imports.set (source.digest, ⟨source.digest, decisionIDs, now⟩) }
    return decisionIDs

end LedgerTx

namespace Ledger

variable {F : Type} [DecidableEq F] (c : Crypto F)

def dueOrder (l : Ledger F) (state : DecisionState) : List IndexKey :=
  (l.stateExpiry.rows.filter fun k => decide (k.state = state)).insertionSort fun a b =>
    a.expiry < b.expiry ∨ (a.expiry = b.expiry ∧ a.decisionID ≤ b.decisionID)

def dueFrom (l : Ledger F) (now : ZonedTime) :
    Nat → List IndexKey → Except LedgerError (List DecisionRecord)
  | 0, _ => .ok []
  | _ + 1, [] => .ok []
  | room + 1, k :: rest => do
    match l.decisions.find k.decisionID with
    | none => throw .storeCorrupt
    | some r =>
      let _ ← LedgerTx.decodeRecord c r l
      if r.indexKey ≠ k then throw .storeCorrupt
      else if now.instant < r.payload.expiresAt.instant then return []
      else return r :: (← dueFrom l now room rest)

def due (l : Ledger F) (now : ZonedTime) (limit : Nat) : Except LedgerError (List DecisionRecord) := do
  let proposed ← l.dueFrom c now limit (l.dueOrder .proposed)
  let approved ← l.dueFrom c now (limit - proposed.length) (l.dueOrder .approved)
  return proposed ++ approved

def expiryRequest (tokenFor : String → String) (r : DecisionRecord) : TransitionRequest where
  decisionID := r.id
  expectedRevision := r.recordRevision
  source := r.state
  target := .expired
  idempotencyToken := tokenFor r.id
  reason := "validity window elapsed"

/-- One transaction per record. A record that has moved on in the meantime is passed over. -/
def expireEach (tokenFor : String → String) (clock : Nat → ZonedTime) :
    List DecisionRecord → Nat → Ledger F → Ledger F × Except LedgerError Nat
  | [], expired, l => (l, .ok expired)
  | r :: rest, expired, l =>
    match LedgerTx.transition c (expiryRequest tokenFor r) {} (clock rest.length) l with
    | .ok (_, next) => expireEach tokenFor clock rest (expired + 1) next
    | .error e =>
      if e = .staleRevision ∨ e = .invalidTransition then expireEach tokenFor clock rest expired l
      else (l, .error e)

def expireDue (l : Ledger F) (now : ZonedTime) (limit : Int) (tokenFor : Option (String → String))
    (clock : Nat → ZonedTime) : Ledger F × Except LedgerError Nat :=
  match tokenFor with
  | none => (l, .error .invalidDecision)
  | some tokenFor =>
    if limit ≤ 0 ∨ maxActiveQuery < limit then (l, .error .invalidDecision)
    else match l.due c now limit.toNat with
      | .error e => (l, .error e)
      | .ok records => expireEach c tokenFor clock records 0 l

end Ledger

inductive LedgerCall where
  | create (payload : DecisionPayload) (token : String)
  | ingestApproved (request : IngestRequest) (v : Verifier)
  | transition (request : TransitionRequest) (v : Verifier)
  | admitLocal (payload : DecisionPayload) (token : String) (callback : Option AdmissionCallback)
      (commits : Bool)
  | finalAdmission (request : FinalAdmissionRequest) (v : Verifier)
      (callback : Option AdmissionCallback) (commits : Bool)
  | expireDue (now : ZonedTime) (limit : Int) (tokenFor : Option (String → String))
  | purgeTerminal (options : PurgeOptions)
  | importLegacy (source : LegacySource) (payloads : List DecisionPayload) (archives : Bool)

inductive LedgerReply where
  | record (r : DecisionRecord)
  | admitted (r : DecisionRecord) (receipt : TransitionReceipt)
  | receipt (receipt : TransitionReceipt)
  | expired (count : Nat)
  | purged (result : PurgeResult)
  | imported (decisionIDs : List String)
  deriving DecidableEq

structure LedgerEvent where
  call : LedgerCall
  clock : Nat → ZonedTime

theorem LedgerEvent.purges_or (e : LedgerEvent) : (∃ options clock, e = ⟨.purgeTerminal options, clock⟩) ∨
    ∀ options, e.call ≠ .purgeTerminal options := by
  obtain ⟨call, clock⟩ := e
  cases call with
  | purgeTerminal options => exact .inl ⟨options, clock, rfl⟩
  | _ => exact .inr fun _ => nofun

namespace Ledger

variable {F : Type} [DecidableEq F] (c : Crypto F)

def update {α : Type} (l : Ledger F) (tx : LedgerTx F α) (reply : α → LedgerReply) :
    Ledger F × Except LedgerError LedgerReply :=
  match tx l with
  | .ok (a, next) => (next, .ok (reply a))
  | .error e => (l, .error e)

/-- One call. The import of a legacy file fails after its transaction when the file cannot be
archived. -/
def run (l : Ledger F) (e : LedgerEvent) : Ledger F × Except LedgerError LedgerReply :=
  match e.call with
  | .create payload token => l.update (LedgerTx.create c payload token (e.clock 0)) .record
  | .ingestApproved request v =>
    l.update (LedgerTx.ingestApproved c request v (e.clock 0)) fun (r, receipt) => .admitted r receipt
  | .transition request v => l.update (LedgerTx.transition c request v (e.clock 0)) .receipt
  | .admitLocal payload token callback commits =>
    l.update (LedgerTx.admitLocal c payload token callback commits (e.clock 0)) fun (r, receipt) =>
      .admitted r receipt
  | .finalAdmission request v callback commits =>
    l.update (LedgerTx.finalAdmission c request v callback commits (e.clock 0)) .receipt
  | .expireDue now limit tokenFor =>
    let (next, expired) := l.expireDue c now limit tokenFor e.clock
    (next, expired.map .expired)
  | .purgeTerminal options => l.update (LedgerTx.purgeTerminal c options (e.clock 0)) .purged
  | .importLegacy source payloads archives =>
    let (next, reply) := l.update (LedgerTx.importLegacy c source payloads e.clock) .imported
    (next, reply.bind fun ids => if archives then .ok ids else .error .archiveFailed)

def step (l : Ledger F) (e : LedgerEvent) : Ledger F := (l.run c e).1

end Ledger

end GasCity
