import GasCity.DecisionCalls

namespace GasCity

namespace DecisionRecord

def opening (r : DecisionRecord) (time : ZonedTime) (reason : String) (storeRevision : Nat) :
    TransitionAudit :=
  ⟨r.id, none, .proposed, time, reason, 1, storeRevision⟩

def leaving (r : DecisionRecord) (source : DecisionState) (time : ZonedTime) (reason : String) :
    TransitionAudit :=
  ⟨r.id, some source, r.state, time, reason, r.recordRevision, r.storeRevision⟩

def WholeMinutes (r : DecisionRecord) : Prop :=
  r.payload.WholeMinutes ∧ ∀ a, r.approval = some a → a.approvedAt.WholeMinutes

theorem reencode_of_wholeMinutes {r : DecisionRecord} (whole : r.WholeMinutes) : r.reencode = r := by
  obtain ⟨payload, approval, signature, isLocal, state, recordRevision, storeRevision⟩ := r
  obtain ⟨times, approved⟩ := whole
  unfold reencode
  rw [DecisionPayload.reencode_of_wholeMinutes times]
  cases approval with
  | none => rfl
  | some a =>
    show DecisionRecord.mk payload (some { a with approvedAt := a.approvedAt.reencode }) _ _ _ _ _ = _
    rw [ZonedTime.reencode_of_wholeMinutes (approved a rfl)]

end DecisionRecord

namespace Ledger

variable {F : Type} (l : Ledger F)

def enter (r : DecisionRecord) (a : TransitionAudit) : Ledger F :=
  { l with
    storeRevision := l.storeRevision + 1
    decisions := l.decisions.set r
    stateExpiry := l.stateExpiry.set r.indexKey
    stateCounts := Function.update l.stateCounts r.state (l.stateCounts r.state + 1)
    transitions := l.transitions.set a }

def enterApproved (r : DecisionRecord) (a b : TransitionAudit) : Ledger F :=
  { l with
    storeRevision := l.storeRevision + 2
    decisions := l.decisions.set r
    stateExpiry := l.stateExpiry.set r.indexKey
    stateCounts := Function.update l.stateCounts r.state (l.stateCounts r.state + 1)
    transitions := (l.transitions.set a).set b }

def countMoved (counts : DecisionState → Nat) (source target : DecisionState) : DecisionState → Nat :=
  let less := Function.update counts source (counts source - 1)
  Function.update less target (less target + 1)

def replace (old new : DecisionRecord) (a : TransitionAudit) : Ledger F :=
  { l with
    storeRevision := l.storeRevision + 1
    decisions := l.decisions.set new
    stateExpiry := (l.stateExpiry.erase old.indexKey).set new.indexKey
    stateCounts := countMoved l.stateCounts old.state new.state
    transitions := l.transitions.set a }

def keepReceipt (token : String) (receipt : IdempotencyRecord F) : Ledger F :=
  { l with
    idempotency := l.idempotency.set (token, receipt)
    receiptByDecision := l.receiptByDecision.set (receipt.decisionID, token) }

def remove (c : Crypto F) (r : DecisionRecord) : Ledger F :=
  { l with
    storeRevision := l.storeRevision + 1
    decisions := l.decisions.erase r.id
    stateExpiry := l.stateExpiry.erase r.indexKey
    stateCounts := Function.update l.stateCounts r.state (l.stateCounts r.state - 1)
    transitions := l.transitions.keep fun a => a.decisionID ≠ r.id
    idempotency := l.idempotency.keep fun row => (l.receiptByDecision.find (r.id, row.1)).isNone
    receiptByDecision := l.receiptByDecision.keep fun k => k.1 ≠ r.id
    purged := l.purged.set (r.id, c.fingerprint (.purged r.payload.normalized)) }

end Ledger

namespace LedgerTx

variable {F : Type} {α β : Type}
  {l' : Ledger F} {u : Unit} {r : DecisionRecord} {state : DecisionState}

theorem bind_ok {x : LedgerTx F α} {f : α → LedgerTx F β} {l : Ledger F} {b : β} :
    (x >>= f) l = .ok (b, l') ↔ ∃ a m, x l = .ok (a, m) ∧ f a m = .ok (b, l') := by
  show (StateT.bind x f) l = _ ↔ _
  unfold StateT.bind
  cases x l with
  | error e =>
    constructor
    · intro h
      cases h
    · rintro ⟨a, m, h, -⟩
      cases h
  | ok am =>
    obtain ⟨a, m⟩ := am
    constructor
    · exact fun h => ⟨a, m, rfl, h⟩
    · rintro ⟨a', m', h, h'⟩
      cases h
      exact h'

theorem ok_iff {a b : α} {l : Ledger F} :
    (Except.ok (a, l) : Except LedgerError (α × Ledger F)) = .ok (b, l') ↔ b = a ∧ l' = l := by
  constructor
  · intro h
    cases h
    exact ⟨rfl, rfl⟩
  · rintro ⟨rfl, rfl⟩
    rfl

theorem pure_ok {a b : α} {l : Ledger F} :
    (pure a : LedgerTx F α) l = .ok (b, l') ↔ b = a ∧ l' = l := ok_iff

theorem throw_ok {e : LedgerError} {a : α} {l : Ledger F} :
    (throw e : LedgerTx F α) l = .ok (a, l') ↔ False :=
  ⟨fun h => (by cases h), False.elim⟩

theorem get_ok {a l : Ledger F} :
    (get : LedgerTx F (Ledger F)) l = .ok (a, l') ↔ a = l ∧ l' = l := ok_iff

theorem set_ok {n l : Ledger F} {u : PUnit} :
    (set n : LedgerTx F PUnit) l = .ok (u, l') ↔ l' = n := ok_iff.trans (and_iff_right rfl)

theorem modify_ok {f : Ledger F → Ledger F} {l : Ledger F} {u : PUnit} :
    (modify f : LedgerTx F PUnit) l = .ok (u, l') ↔ l' = f l := ok_iff.trans (and_iff_right rfl)

theorem require_ok {holds : Bool} {e : LedgerError} {l : Ledger F} :
    require holds e l = .ok (u, l') ↔ holds = true ∧ l' = l := by
  cases holds with
  | false => exact ⟨fun h => (by cases h), fun h => (by cases h.1)⟩
  | true => exact ok_iff.trans (by simp)

theorem nextStoreRevision_ok {l : Ledger F} {n : Nat} (h : nextStoreRevision l = .ok (n, l')) :
    n = l.storeRevision + 1 ∧ l' = { l with storeRevision := l.storeRevision + 1 } := by
  simp only [nextStoreRevision, bind_ok, get_ok, require_ok, set_ok, pure_ok] at h
  obtain ⟨_, _, ⟨rfl, rfl⟩, _, _, ⟨-, rfl⟩, _, _, rfl, rfl, rfl⟩ := h
  exact ⟨rfl, rfl⟩

theorem putRecord_ok {l : Ledger F} (h : putRecord r l = .ok (u, l')) (whole : r.WholeMinutes) :
    l' = { l with
      decisions := l.decisions.set r
      stateExpiry := l.stateExpiry.set r.indexKey } := by
  simp only [putRecord, bind_ok, require_ok, modify_ok] at h
  obtain ⟨_, _, ⟨-, rfl⟩, rfl⟩ := h
  rw [DecisionRecord.reencode_of_wholeMinutes whole]

theorem incrementCount_ok {l : Ledger F} (h : incrementCount state l = .ok (u, l')) :
    l' = { l with stateCounts := Function.update l.stateCounts state (l.stateCounts state + 1) } := by
  simp only [incrementCount, bind_ok, get_ok, require_ok, set_ok] at h
  obtain ⟨_, _, ⟨rfl, rfl⟩, _, _, ⟨-, rfl⟩, rfl⟩ := h
  rfl

theorem decrementCount_ok {l : Ledger F} (h : decrementCount state l = .ok (u, l')) :
    l' = { l with stateCounts := Function.update l.stateCounts state (l.stateCounts state - 1) } := by
  simp only [decrementCount, bind_ok, get_ok, require_ok, set_ok] at h
  obtain ⟨_, _, ⟨rfl, rfl⟩, _, _, ⟨-, rfl⟩, rfl⟩ := h
  rfl

theorem putAudit_ok {a : TransitionAudit} {l : Ledger F} (h : putAudit a l = .ok (u, l')) :
    l' = { l with transitions := l.transitions.set a } := by
  simp only [putAudit, bind_ok, require_ok, modify_ok] at h
  obtain ⟨_, _, ⟨-, rfl⟩, rfl⟩ := h
  rfl

theorem putIdempotency_ok {token : String} {receipt : IdempotencyRecord F} {l : Ledger F}
    (whole : ∀ r, receipt.created = some r → r.WholeMinutes)
    (h : putIdempotency token receipt l = .ok (u, l')) :
    l' = l.keepReceipt token receipt := by
  simp only [putIdempotency, bind_ok, require_ok, modify_ok] at h
  obtain ⟨_, _, ⟨-, rfl⟩, _, _, ⟨-, rfl⟩, _, _, ⟨-, rfl⟩, rfl⟩ := h
  have same : receipt.created.map DecisionRecord.reencode = receipt.created := by
    cases found : receipt.created with
    | none => rfl
    | some r => rw [Option.map_some, DecisionRecord.reencode_of_wholeMinutes (whole r found)]
  rw [same]
  rfl

theorem propose_ok {p : DecisionRecord} {now : ZonedTime} {reason : String} {l : Ledger F}
    (whole : r.WholeMinutes) (h : propose r now reason l = .ok (p, l')) :
    p = { r with state := .proposed, recordRevision := 1, storeRevision := l.storeRevision + 1 } ∧
      l' = l.enter p (p.opening now.utc reason (l.storeRevision + 1)) := by
  simp only [propose, bind_ok, pure_ok] at h
  obtain ⟨rev, m, next, _, m₁, put, _, m₂, counted, _, m₃, audited, rfl, rfl⟩ := h
  obtain ⟨rfl, rfl⟩ := nextStoreRevision_ok next
  cases putRecord_ok put ⟨whole.1, whole.2⟩
  cases incrementCount_ok counted
  cases putAudit_ok audited
  exact ⟨rfl, rfl⟩

theorem advance_ok {p : DecisionRecord} {now : ZonedTime} {reason : String} {l : Ledger F}
    (whole : r.payload.WholeMinutes) (h : advance r state now reason l = .ok (p, l')) :
    p = { r with
      state
      recordRevision := r.recordRevision + 1
      storeRevision := l.storeRevision + 1 } ∧
      l' = l.replace r p.reencode (p.reencode.leaving r.state now.utc reason) := by
  simp only [advance, putRecord, bind_ok, require_ok, modify_ok, pure_ok] at h
  obtain ⟨rev, m, next, _, m₀, rfl, _, m₁, ⟨_, _, ⟨-, rfl⟩, rfl⟩, _, m₂, less, _, m₃, more, _, m₄,
    audited, rfl, rfl⟩ := h
  obtain ⟨rfl, rfl⟩ := nextStoreRevision_ok next
  cases decrementCount_ok less
  cases incrementCount_ok more
  cases putAudit_ok audited
  refine ⟨rfl, ?_⟩
  simp only [DecisionRecord.reencode, DecisionPayload.reencode_of_wholeMinutes whole]
  rfl

theorem verify_ok {c : Crypto F} {v : Verifier} {p : DecisionPayload} {a : ApprovalPayload}
    {s : Signature} {l : Ledger F} (h : verify c v p a s l = .ok (u, l')) :
    v.verify c p a s = .ok () ∧ l' = l := by
  unfold verify at h
  cases good : v.verify c p a s with
  | ok _ =>
    rw [good] at h
    exact ⟨rfl, (pure_ok.mp h).2⟩
  | error e =>
    rw [good] at h
    exact (throw_ok.mp h).elim

variable {c : Crypto F}

theorem readIdempotency_ok [DecidableEq F] {token : String} {fingerprint : F} {l : Ledger F}
    {found : Option (IdempotencyRecord F)} (h : readIdempotency token fingerprint l = .ok (found, l')) :
    l' = l ∧ (found = none ∧ l.idempotency.find token = none ∨
      ∃ row, found = some row ∧ l.idempotency.find token = some (token, row) ∧
        row.fingerprint = fingerprint) := by
  simp only [readIdempotency, bind_ok, get_ok] at h
  obtain ⟨_, m, ⟨rfl, rfl⟩, h⟩ := h
  cases stored : m.idempotency.find token with
  | none =>
    rw [stored] at h
    obtain ⟨rfl, rfl⟩ := pure_ok.mp h
    exact ⟨rfl, .inl ⟨rfl, rfl⟩⟩
  | some row =>
    rw [stored] at h
    obtain ⟨_, _, checked, done⟩ := bind_ok.mp h
    obtain ⟨same, rfl⟩ := require_ok.mp checked
    obtain ⟨rfl, rfl⟩ := pure_ok.mp done
    have key : row.1 = token := KeyedList.key_of_find stored
    exact ⟨rfl, .inr ⟨row.2, rfl, by rw [← key], of_decide_eq_true same⟩⟩

theorem decodeRecord_ok {l : Ledger F} (h : decodeRecord c r l = .ok (u, l')) :
    r.payload.valid c = true ∧ l' = l := by
  simp only [decodeRecord, bind_ok, require_ok] at h
  obtain ⟨_, _, ⟨valid, rfl⟩, _, _, ⟨-, rfl⟩, -, rfl⟩ := h
  exact ⟨valid, rfl⟩

theorem getRecord_ok {decisionID : String} {l : Ledger F} (h : getRecord c decisionID l = .ok (r, l')) :
    l.decisions.find decisionID = some r ∧ r.payload.valid c = true ∧ l' = l := by
  simp only [getRecord, bind_ok, get_ok] at h
  obtain ⟨_, m, ⟨rfl, rfl⟩, h⟩ := h
  cases stored : m.decisions.find decisionID with
  | none =>
    rw [stored] at h
    exact (throw_ok.mp h).elim
  | some found =>
    rw [stored] at h
    obtain ⟨_, _, decoded, done⟩ := bind_ok.mp h
    obtain ⟨valid, rfl⟩ := decodeRecord_ok decoded
    obtain ⟨rfl, rfl⟩ := pure_ok.mp done
    exact ⟨rfl, valid, rfl⟩

theorem requireFresh_ok {decisionID : String} {l : Ledger F}
    (h : requireFresh decisionID l = .ok (u, l')) :
    l.purged.find decisionID = none ∧ l.decisions.find decisionID = none ∧ l' = l := by
  simp only [requireFresh, bind_ok, get_ok, require_ok, Bool.and_eq_true, Option.isNone_iff_eq_none] at h
  obtain ⟨_, _, ⟨rfl, rfl⟩, ⟨unmarked, missing⟩, rfl⟩ := h
  exact ⟨unmarked, missing, rfl⟩

theorem callbackAnswer_ok {callback : AdmissionCallback} {l : Ledger F}
    {answer : DecisionState × String} (h : callbackAnswer callback r l = .ok (answer, l')) :
    (answer.1 = .admitted ∨ answer.1 = .refusedAfterRace) ∧ validateText answer.2 true = true ∧
      l' = l := by
  unfold callbackAnswer at h
  cases given : callback r with
  | none =>
    rw [given] at h
    exact (throw_ok.mp h).elim
  | some said =>
    rw [given] at h
    simp only [bind_ok, require_ok, pure_ok, Bool.or_eq_true, decide_eq_true_eq] at h
    obtain ⟨_, _, ⟨state, rfl⟩, _, _, ⟨text, rfl⟩, rfl, rfl⟩ := h
    exact ⟨state, text, rfl⟩

end LedgerTx

end GasCity
