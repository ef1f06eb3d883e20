import GasCity.DecisionPayload

namespace GasCity

open KeyedList

namespace DecisionState

def isAllowedTransition : DecisionState → DecisionState → Bool
  | .proposed, target => target == .approved || target == .revoked || target == .expired
  | .approved, target =>
    target == .admitted || target == .refusedAfterRace || target == .revoked || target == .expired
  | .admitted, target => target == .claimed || target == .outcomeRecorded
  | .claimed, target => target == .outcomeRecorded
  | _, _ => false

def isTerminal : DecisionState → Bool
  | .refusedAfterRace => true
  | .expired => true
  | .revoked => true
  | .outcomeRecorded => true
  | _ => false

end DecisionState

structure TransitionAudit where
  decisionID : String
  source : Option DecisionState
  target : DecisionState
  time : ZonedTime
  reason : String
  recordRevision : Nat
  storeRevision : Nat
  deriving DecidableEq

/-- A decision and where it stands. `isLocal` marks a record of the local lane, which carries no
approval. -/
structure DecisionRecord where
  payload : DecisionPayload
  approval : Option ApprovalPayload := none
  signature : Option Signature := none
  isLocal : Bool := false
  state : DecisionState
  recordRevision : Nat
  storeRevision : Nat
  deriving DecidableEq

structure TransitionReceipt where
  decisionID : String
  state : DecisionState
  recordRevision : Nat
  storeRevision : Nat
  deriving DecidableEq

inductive ReceiptKind where
  | create
  | transition
  | admission
  | ingest
  | localAdmission
  deriving DecidableEq

structure IdempotencyRecord (F : Type) where
  kind : ReceiptKind
  fingerprint : F
  decisionID : String
  created : Option DecisionRecord := none
  transition : Option TransitionReceipt := none

structure IndexKey where
  state : DecisionState
  expiry : Int
  decisionID : String
  deriving DecidableEq

structure LegacyReceipt where
  sourceDigest : String
  decisionIDs : List String
  importedAt : ZonedTime

namespace DecisionRecord

variable (r : DecisionRecord)

def id : String := r.payload.decisionID

def indexKey : IndexKey := ⟨r.state, r.payload.expiresAt.instant, r.id⟩

def writable (r : DecisionRecord) : Bool :=
  r.payload.writable && r.approval.all fun a => a.approvedAt.writable

def reencode (r : DecisionRecord) : DecisionRecord :=
  { r with payload := r.payload.reencode, approval := r.approval.map ApprovalPayload.reencode }

def receipt : TransitionReceipt :=
  ⟨r.id, r.state, r.recordRevision, r.storeRevision⟩

end DecisionRecord

structure Ledger (F : Type) where
  storeRevision : Nat := 0
  decisions : KeyedList DecisionRecord.id := empty
  stateExpiry : KeyedList (fun k : IndexKey => k) := empty
  stateCounts : DecisionState → Nat := fun _ => 0
  idempotency : KeyedList (fun r : String × IdempotencyRecord F => r.1) := empty
  receiptByDecision : KeyedList (fun k : String × String => k) := empty
  transitions : KeyedList (fun a : TransitionAudit => (a.decisionID, a.recordRevision)) :=
    empty
  imports : KeyedList (fun r : String × LegacyReceipt => r.1) := empty
  purged : KeyedList (fun r : String × F => r.1) := empty

/-- A transaction. One that fails leaves the ledger as it was. -/
abbrev LedgerTx (F α : Type) := StateT (Ledger F) (Except LedgerError) α

def maxUint64 : Nat := 2 ^ 64 - 1

def maxKeySize : Nat := 32768

namespace LedgerTx

variable {F : Type}

def require (holds : Bool) (e : LedgerError) : LedgerTx F Unit := if holds then pure () else throw e

def nextStoreRevision : LedgerTx F Nat := do
  let l ← get
  require (l.storeRevision ≠ maxUint64) .storeCorrupt
  set { l with storeRevision := l.storeRevision + 1 }
  return l.storeRevision + 1

def putRecord (r : DecisionRecord) : LedgerTx F Unit := do
  require r.writable .storeCorrupt
  modify fun l => { l with
    decisions := l.decisions.set r.reencode
    stateExpiry := l.stateExpiry.set r.indexKey }

def incrementCount (state : DecisionState) : LedgerTx F Unit := do
  let l ← get
  require (l.stateCounts state ≠ maxUint64) .storeCorrupt
  set { l with stateCounts := Function.update l.stateCounts state (l.stateCounts state + 1) }

def decrementCount (state : DecisionState) : LedgerTx F Unit := do
  let l ← get
  require (l.stateCounts state ≠ 0) .storeCorrupt
  set { l with stateCounts := Function.update l.stateCounts state (l.stateCounts state - 1) }

def putAudit (a : TransitionAudit) : LedgerTx F Unit := do
  require a.time.writable .storeCorrupt
  modify fun l => { l with transitions := l.transitions.set a }

def putIdempotency (token : String) (receipt : IdempotencyRecord F) : LedgerTx F Unit := do
  require (receipt.decisionID ≠ "") .storeCorrupt
  require (receipt.created.all DecisionRecord.writable) .storeCorrupt
  require (receipt.decisionID.utf8ByteSize + token.utf8ByteSize + 1 ≤ maxKeySize) .storeCorrupt
  modify fun l => { l with
    idempotency := l.idempotency.set
      (token, { receipt with created := receipt.created.map DecisionRecord.reencode })
    receiptByDecision := l.receiptByDecision.set (receipt.decisionID, token) }

variable [DecidableEq F] (c : Crypto F)

def readIdempotency (token : String) (fingerprint : F) : LedgerTx F (Option (IdempotencyRecord F)) := do
  match (← get).idempotency.find token with
  | none => return none
  | some row =>
    require (row.2.fingerprint = fingerprint) .idempotencyConflict
    return some row.2

variable (r : DecisionRecord)

def decodeRecord : LedgerTx F Unit := do
  require (r.payload.valid c) .invalidDecision
  require (!(r.isLocal && (r.payload.schema ≠ executionSchemaVersion || r.approval.isSome ||
    r.signature.isSome))) .storeCorrupt
  require (r.recordRevision ≠ 0 && r.storeRevision ≠ 0) .storeCorrupt

def getRecord (decisionID : String) : LedgerTx F DecisionRecord := do
  match (← get).decisions.find decisionID with
  | none => throw .decisionNotFound
  | some r =>
    decodeRecord c r
    return r

def advance (state : DecisionState) (now : ZonedTime) (reason : String) :
    LedgerTx F DecisionRecord := do
  let storeRevision ← nextStoreRevision
  let moved := { r with state, recordRevision := r.recordRevision + 1, storeRevision }
  modify fun l => { l with stateExpiry := l.stateExpiry.erase r.indexKey }
  putRecord moved
  decrementCount r.state
  incrementCount state
  putAudit ⟨r.id, some r.state, state, now.utc, reason, moved.recordRevision, storeRevision⟩
  return moved

def propose (now : ZonedTime) (reason : String) : LedgerTx F DecisionRecord := do
  let storeRevision ← nextStoreRevision
  let proposed := { r with state := .proposed, recordRevision := 1, storeRevision }
  putRecord proposed
  incrementCount .proposed
  putAudit ⟨r.id, none, .proposed, now.utc, reason, 1, storeRevision⟩
  return proposed

end LedgerTx

end GasCity
