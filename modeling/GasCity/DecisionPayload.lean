import Mathlib.Algebra.Group.Int.Defs
import Mathlib.Data.String.Basic
import GasCity.MemStore

namespace GasCity

/-- A time: nanoseconds since the zero time, and the seconds its zone is east of UTC. -/
structure ZonedTime where
  instant : Int
  offset : Int := 0
  deriving DecidableEq

namespace ZonedTime

def second : Int := 1000000000

def day : Int := 86400 * second

def unixEpoch : Int := 62135596800 * second

variable (t : ZonedTime)

def utc : ZonedTime := ⟨t.instant, 0⟩

def isZero : Bool := t.instant == 0

def writtenOffset : Int := 60 * t.offset.tdiv 60

/-- What is read back after the time was written as JSON. JSON keeps the wall clock. -/
def reencode : ZonedTime :=
  ⟨t.instant + second * (t.offset - t.writtenOffset), t.writtenOffset⟩

/-- JSON writes the years 0 to 9999 and offsets of less than a day. -/
def writable : Bool :=
  decide (-366 * day ≤ t.instant + second * t.offset ∧
    t.instant + second * t.offset < 3652059 * day ∧ -86400 < t.offset ∧ t.offset < 86400)

def unixNanoRepresentable : Bool :=
  decide (-2 ^ 63 ≤ t.instant - unixEpoch ∧ t.instant - unixEpoch < 2 ^ 63)

def WholeMinutes : Prop := t.offset.tmod 60 = 0

theorem reencode_of_wholeMinutes {t : ZonedTime} (whole : t.WholeMinutes) : t.reencode = t := by
  have split := Int.mul_tdiv_add_tmod t.offset 60
  rw [whole] at split
  have written : t.writtenOffset = t.offset := by
    unfold writtenOffset
    omega
  unfold reencode
  rw [written, Int.sub_self, Int.mul_zero, Int.add_zero]

theorem wholeMinutes_reencode : t.reencode.WholeMinutes := by
  exact Int.mul_tmod_right 60 _

end ZonedTime

def maxStringBytes : Nat := 4096

def isControl (ch : Char) : Bool :=
  decide (ch.toNat < 0x20) || (decide (0x7f ≤ ch.toNat) && decide (ch.toNat < 0xa0))

def validateText (value : String) (required : Bool) : Bool :=
  !(required && trimSpace value == "") && value == trimSpace value &&
    decide (value.utf8ByteSize ≤ maxStringBytes) && value.toList.all fun ch => !isControl ch

def validDigest (value : String) : Bool :=
  decide (value.utf8ByteSize = 64) && value.toList.all fun ch => "0123456789abcdef".toList.contains ch

def validRecommendationID (head value : String) : Bool :=
  head.toList.isPrefixOf value.toList &&
    validDigest (String.ofList (value.toList.drop head.length))

structure AuditOption where
  key : String
  value : String
  deriving DecidableEq

structure Alternative where
  target : String
  model : String
  source : String
  account : String
  serveAs : String := ""
  provider : String := ""
  endpoint : String := ""
  reason : String := ""
  deriving DecidableEq

def Alternative.valid (a : Alternative) : Bool :=
  ([a.target, a.model, a.source, a.account].all fun value => validateText value true) &&
    [a.serveAs, a.provider, a.endpoint, a.reason].all fun value => validateText value false

structure ExecutionBinding where
  schema : Int := 1
  canonicalModel : String
  serveAs : String
  reasoningEffort : String
  account : String
  provider : String
  target : String
  configDigest : String
  adapterID : String
  adapterDigest : String
  invocationDigest : String
  deriving DecidableEq

def ExecutionBinding.valid (b : ExecutionBinding) : Bool :=
  b.schema == 1 &&
    ([b.canonicalModel, b.serveAs, b.account, b.provider, b.target, b.adapterID].all fun value =>
      validateText value true) &&
    ["none", "low", "medium", "high"].contains b.reasoningEffort &&
    [b.configDigest, b.adapterDigest, b.invocationDigest].all validDigest

def schemaVersion : Int := 1

def executionSchemaVersion : Int := 2

def maxEvidence : Nat := 64

def maxAlternatives : Nat := 32

def maxOptions : Nat := 64

structure DecisionPayload where
  schema : Int
  decisionID : String
  recommendationID : String := ""
  execution : Option ExecutionBinding := none
  bindingID : String
  workBeadID : String
  workRevision : Int := 0
  claimFence : Int := 0
  workStateDigest : String
  city : String
  rig : String := ""
  target : String
  targetConfigDigest : String
  policyDigest : String
  observationDigest : String
  model : String
  source : String
  account : String
  serveAs : String := ""
  provider : String := ""
  endpoint : String := ""
  reason : String := ""
  evidence : List String := []
  alternatives : List Alternative := []
  options : List AuditOption := []
  createdAt : ZonedTime
  expiresAt : ZonedTime
  noMigration : Bool
  deriving DecidableEq

structure ApprovalPayload where
  schema : Int
  decisionID : String
  bindingID : String
  authorityID : String
  approvedAt : ZonedTime
  deriving DecidableEq

structure Signature where
  algorithm : String
  authorityID : String
  value : List UInt8
  deriving DecidableEq

structure CanonicalBinding where
  schema : Int
  execution : Option ExecutionBinding
  recommendationID : String
  workBeadID : String
  workRevision : Int
  claimFence : Int
  workStateDigest : String
  city : String
  rig : String
  target : String
  targetConfigDigest : String
  noMigration : Bool

structure SigningBytes where
  decision : DecisionPayload
  approval : ApprovalPayload
  deriving DecidableEq

inductive LedgerError where
  | storeCorrupt
  | decisionNotFound
  | decisionExists
  | staleRevision
  | invalidTransition
  | idempotencyConflict
  | admissionCallback
  | admissionCommit
  | invalidDecision
  | authorizationRequired
  | unknownAuthority
  | invalidSignature
  | archiveFailed
  deriving DecidableEq

inductive DecisionState where
  | proposed
  | approved
  | admitted
  | refusedAfterRace
  | expired
  | revoked
  | claimed
  | outcomeRecorded
  deriving DecidableEq

structure TransitionRequest where
  decisionID : String
  expectedRevision : Nat
  source : DecisionState
  target : DecisionState
  approval : Option ApprovalPayload := none
  signature : Option Signature := none
  idempotencyToken : String
  reason : String
  deriving DecidableEq

inductive LedgerRequest where
  | create (payload : DecisionPayload)
  | ingest (signing : SigningBytes) (signature : Signature)
  | transition (request : TransitionRequest)
  | localAdmission (payload : DecisionPayload)
  | admission (decisionID : String) (expectedRevision : Nat)
  | purged (payload : DecisionPayload)
  deriving DecidableEq

structure Crypto (F : Type) where
  bindingHash : CanonicalBinding → String
  ed25519 : List UInt8 → SigningBytes → List UInt8 → Bool
  fingerprint : LedgerRequest → F
  isDigest : F → Bool
  fingerprint_isDigest : ∀ request, isDigest (fingerprint request) = true

namespace DecisionPayload

variable {F : Type} (c : Crypto F) (p : DecisionPayload)

/-- The one signed representation: options by key and times in UTC. -/
def normalized : DecisionPayload :=
  { p with
    options := p.options.insertionSort fun a b => a.key ≤ b.key
    createdAt := p.createdAt.utc
    expiresAt := p.expiresAt.utc }

def canonicalBinding : CanonicalBinding where
  schema := p.schema
  execution := if p.schema = executionSchemaVersion then p.execution else none
  recommendationID := if p.schema = executionSchemaVersion then p.recommendationID else ""
  workBeadID := p.workBeadID
  workRevision := p.workRevision
  claimFence := p.claimFence
  workStateDigest := p.workStateDigest
  city := p.city
  rig := p.rig
  target := p.target
  targetConfigDigest := p.targetConfigDigest
  noMigration := p.noMigration

def executionAgrees : Bool :=
  match p.execution with
  | none => false
  | some e =>
    e.valid && e.canonicalModel == p.model && e.serveAs == p.serveAs && e.account == p.account &&
      e.provider == p.provider && e.target == p.target && e.configDigest == p.targetConfigDigest

def validTexts : Bool :=
  ([p.decisionID, p.workBeadID, p.city, p.target, p.model, p.source, p.account].all fun value =>
      validateText value true) &&
    [p.rig, p.serveAs, p.provider, p.endpoint, p.reason, p.recommendationID].all fun value =>
      validateText value false

def validSchema : Bool :=
  if p.schema = schemaVersion then
    p.execution.isNone &&
      (p.recommendationID == "" || validRecommendationID "routing/v2:" p.recommendationID)
  else if p.schema = executionSchemaVersion then
    p.executionAgrees && validRecommendationID "routing/v3:" p.recommendationID
  else false

def validDigests : Bool :=
  [p.bindingID, p.workStateDigest, p.targetConfigDigest, p.policyDigest, p.observationDigest].all
    validDigest

def validWindow : Bool :=
  !p.createdAt.isZero && !p.expiresAt.isZero && decide (p.createdAt.instant < p.expiresAt.instant) &&
    p.createdAt.unixNanoRepresentable && p.expiresAt.unixNanoRepresentable

def validCollections : Bool :=
  decide (p.evidence.length ≤ maxEvidence) && decide (p.alternatives.length ≤ maxAlternatives) &&
    decide (p.options.length ≤ maxOptions) &&
    (p.evidence.all fun item => validateText item true) && p.alternatives.all Alternative.valid &&
    (p.options.all fun option => validateText option.key true && validateText option.value true) &&
    decide (p.options.map fun option => option.key).Nodup

def valid : Bool :=
  p.validTexts && p.validSchema && p.validDigests && decide (0 ≤ p.claimFence) && p.validWindow &&
    p.noMigration && p.validCollections && c.bindingHash p.canonicalBinding == p.bindingID

def isActiveAt (now : ZonedTime) : Bool :=
  decide (p.createdAt.instant ≤ now.instant) && decide (now.instant < p.expiresAt.instant)

def writable : Bool := p.createdAt.writable && p.expiresAt.writable

def reencode : DecisionPayload :=
  { p with createdAt := p.createdAt.reencode, expiresAt := p.expiresAt.reencode }

def WholeMinutes : Prop := p.createdAt.WholeMinutes ∧ p.expiresAt.WholeMinutes

variable {p}

theorem reencode_of_wholeMinutes (whole : p.WholeMinutes) : p.reencode = p := by
  unfold reencode
  rw [ZonedTime.reencode_of_wholeMinutes whole.1, ZonedTime.reencode_of_wholeMinutes whole.2]

variable (p)

theorem normalized_options_perm : p.normalized.options.Perm p.options :=
  List.perm_insertionSort _ _

theorem validCollections_normalized : p.normalized.validCollections = p.validCollections := by
  have perm := p.normalized_options_perm
  have texts : (p.normalized.options.all fun option => validateText option.key true &&
      validateText option.value true) = p.options.all fun option =>
      validateText option.key true && validateText option.value true :=
    perm.all_eq
  have keys : (p.normalized.options.map fun option => option.key).Nodup ↔
      (p.options.map fun option => option.key).Nodup := (perm.map _).nodup_iff
  unfold validCollections
  rw [texts, perm.length_eq]
  simp only [keys]
  rfl

theorem valid_normalized : p.normalized.valid c = p.valid c := by
  unfold valid
  rw [validCollections_normalized]
  rfl

theorem normalized_normalized : p.normalized.normalized = p.normalized := by
  have sorted : (p.options.insertionSort fun a b => a.key ≤ b.key).Pairwise
      fun a b => a.key ≤ b.key := by
    exact List.pairwise_insertionSort _ _
  unfold normalized
  rw [List.Pairwise.insertionSort_eq sorted]
  rfl

end DecisionPayload

namespace ApprovalPayload

variable (a : ApprovalPayload)

def valid : Bool :=
  (a.schema == schemaVersion || a.schema == executionSchemaVersion) &&
    ([a.decisionID, a.authorityID].all fun value => validateText value true) &&
    validDigest a.bindingID && !a.approvedAt.isZero

def normalized : ApprovalPayload := { a with approvedAt := a.approvedAt.utc }

def reencode : ApprovalPayload := { a with approvedAt := a.approvedAt.reencode }

end ApprovalPayload

def signatureAlgorithmEd25519 : String := "ed25519"

structure Verifier where
  keys : List (String × List UInt8) := []

section

variable {F : Type} (c : Crypto F)

def signingBytes (p : DecisionPayload) (a : ApprovalPayload) : Except LedgerError SigningBytes :=
  if !p.valid c then .error .invalidDecision
  else if a.schema ≠ p.schema ∨ a.decisionID ≠ p.decisionID ∨ a.bindingID ≠ p.bindingID then
    .error .invalidDecision
  else if !a.valid then .error .invalidDecision
  else .ok ⟨p.normalized, a.normalized⟩

def Verifier.verify (v : Verifier) (p : DecisionPayload) (a : ApprovalPayload) (s : Signature) :
    Except LedgerError Unit :=
  if v.keys.isEmpty then .error .authorizationRequired
  else if s.algorithm ≠ signatureAlgorithmEd25519 ∨ s.authorityID ≠ a.authorityID then
    .error .invalidSignature
  else match v.keys.lookup s.authorityID with
    | none => .error .unknownAuthority
    | some key =>
      if key.length ≠ 32 ∨ s.value.length ≠ 64 then .error .invalidSignature
      else match signingBytes c p a with
        | .error e => .error e
        | .ok signing =>
          if c.ed25519 key signing s.value then .ok () else .error .invalidSignature

theorem signingBytes_normalized (p : DecisionPayload) (a : ApprovalPayload) :
    signingBytes c p.normalized a.normalized = signingBytes c p a := by
  unfold signingBytes
  rw [p.valid_normalized, p.normalized_normalized]
  rfl

theorem Verifier.verify_normalized (v : Verifier) (p : DecisionPayload) (a : ApprovalPayload)
    (s : Signature) : v.verify c p.normalized a.normalized s = v.verify c p a s := by
  unfold Verifier.verify
  rw [signingBytes_normalized]
  rfl

end

end GasCity
