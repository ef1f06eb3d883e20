import GasCity.DecisionEffects

namespace GasCity

namespace DecisionRecord

variable {F : Type}

variable (r : DecisionRecord)

def moveReceipt (kind : ReceiptKind) (fingerprint : F) : IdempotencyRecord F :=
  { kind, fingerprint, decisionID := r.id, transition := some r.receipt }

def proposal (p : DecisionPayload) (storeRevision : Nat) : DecisionRecord :=
  { payload := p, state := .proposed, recordRevision := 1, storeRevision }

def localProposal (p : DecisionPayload) (storeRevision : Nat) : DecisionRecord :=
  { payload := p.normalized, isLocal := true, state := .proposed, recordRevision := 1, storeRevision }

def ingested (request : IngestRequest) (storeRevision : Nat) : DecisionRecord :=
  { payload := request.payload.normalized
    approval := some request.approval.normalized
    signature := some request.signature
    state := .approved
    recordRevision := 2
    storeRevision }

def next (state : DecisionState) (storeRevision : Nat) : DecisionRecord :=
  { r with state, recordRevision := r.recordRevision + 1, storeRevision }

end DecisionRecord

namespace LedgerTx

variable {F : Type} [DecidableEq F] {c : Crypto F} {l l' : Ledger F}
  {p : DecisionPayload} {clock : ZonedTime} {r : DecisionRecord} {token : String}
  {v : Verifier} {commits : Bool}
  {request : FinalAdmissionRequest}

omit [DecidableEq F] in
theorem wholeMinutes_proposal (whole : p.WholeMinutes) (storeRevision : Nat) :
    (DecisionRecord.proposal p storeRevision).WholeMinutes :=
  ⟨whole, fun _ same => by cases same⟩

theorem wholeMinutes_ingested (request : IngestRequest) (storeRevision : Nat) :
    (DecisionRecord.ingested request storeRevision).WholeMinutes :=
  ⟨⟨rfl, rfl⟩, fun _ same => by cases same; rfl⟩

omit [DecidableEq F] in
theorem attachApproval_ok {request : TransitionRequest} {signed : DecisionRecord}
    (h : attachApproval c request v r l = .ok (signed, l')) :
    l' = l ∧ ∃ approval signature, signed = { r with approval, signature } ∧
      ((request.target = .approved ∧ ∃ a s, request.approval = some a ∧ approval = some a ∧
          signature = some s ∧ v.verify c r.payload a s = .ok ()) ∨
        (request.target ≠ .approved ∧ approval = r.approval ∧ signature = r.signature)) := by
  unfold attachApproval at h
  split at h
  next approving =>
    cases given : request.approval <;> cases signed : request.signature <;>
      simp only [given, signed] at h <;> try exact (throw_ok.mp h).elim
    simp only [bind_ok, pure_ok] at h
    obtain ⟨_, _, checked, rfl, rfl⟩ := h
    obtain ⟨verified, rfl⟩ := verify_ok checked
    exact ⟨rfl, _, _, rfl, .inl ⟨approving, _, _, rfl, rfl, rfl, verified⟩⟩
  next other =>
    simp only [bind_ok, require_ok, pure_ok] at h
    obtain ⟨_, _, ⟨-, rfl⟩, rfl, rfl⟩ := h
    exact ⟨rfl, _, _, rfl, .inr ⟨other, rfl, rfl⟩⟩

omit [DecidableEq F] in
theorem commitAdmission_ok {kind : ReceiptKind} {fingerprint : F} {reason : String}
    {moved : DecisionRecord} {state : DecisionState} {now : ZonedTime} (whole : r.WholeMinutes)
    (h : commitAdmission kind fingerprint token commits r state now reason l = .ok (moved, l')) :
    moved = r.next state (l.storeRevision + 1) ∧
      l' = (l.replace r moved (moved.leaving r.state now.utc reason)).keepReceipt token
        (moved.moveReceipt kind fingerprint) := by
  simp only [commitAdmission, bind_ok, require_ok, pure_ok] at h
  obtain ⟨_, _, ⟨-, rfl⟩, moved, m₁, advanced, _, m₂, kept, rfl, rfl⟩ := h
  obtain ⟨rfl, rfl⟩ := advance_ok whole.1 advanced
  cases putIdempotency_ok (fun _ same => by cases same) kept
  have same (rev : Nat) : (r.next state rev).reencode = r.next state rev :=
    DecisionRecord.reencode_of_wholeMinutes ⟨whole.1, whole.2⟩
  refine ⟨rfl, congrArg (fun p : DecisionRecord => (Ledger.replace _ r p
    (p.leaving r.state now.utc reason)).keepReceipt token _) (same _)⟩

theorem wholeMinutes_localProposal (p : DecisionPayload) (storeRevision : Nat) :
    (DecisionRecord.localProposal p storeRevision).WholeMinutes :=
  ⟨⟨rfl, rfl⟩, fun _ same => by cases same⟩

theorem localGate_ok {gate : AdmissionGate (DecisionRecord × TransitionReceipt)}
    (h : localGate c p token clock l = .ok (gate, l')) :
    p.schema = executionSchemaVersion ∧ p.valid c = true ∧ trimSpace token ≠ "" ∧
      ((∃ row r receipt, l.idempotency.find token = some (token, row) ∧
          row.fingerprint = localFingerprint c p ∧ row.kind = .localAdmission ∧
          row.transition = some receipt ∧ l.decisions.find p.decisionID = some r ∧
          gate = .replay (r, receipt) ∧ l' = l) ∨
        (l.idempotency.find token = none ∧ l.purged.find p.decisionID = none ∧
          l.decisions.find p.decisionID = none ∧
          gate = .ask (DecisionRecord.localProposal p (l.storeRevision + 1)) ∧
          l' = l.enter (DecisionRecord.localProposal p (l.storeRevision + 1))
            ((DecisionRecord.localProposal p (l.storeRevision + 1)).opening clock.utc
              "created local advisory admission" (l.storeRevision + 1)))) := by
  simp only [localGate, bind_ok, require_ok, Bool.and_eq_true, decide_eq_true_eq] at h
  obtain ⟨_, _, ⟨⟨schema, -⟩, rfl⟩, _, _, ⟨valid, rfl⟩, _, _, ⟨named, rfl⟩, found, m, read, h⟩ := h
  refine ⟨schema, valid, named, ?_⟩
  obtain ⟨rfl, ⟨rfl, free⟩ | ⟨row, rfl, kept, same⟩⟩ := readIdempotency_ok read
  · simp only [bind_ok, require_ok, pure_ok] at h
    obtain ⟨_, _, fresh, _, _, ⟨-, rfl⟩, r, m₁, proposed, rfl, rfl⟩ := h
    obtain ⟨unmarked, missing, rfl⟩ := requireFresh_ok fresh
    obtain ⟨rfl, rfl⟩ := propose_ok (wholeMinutes_localProposal p 0) proposed
    exact .inr ⟨free, unmarked, missing, rfl, rfl⟩
  · cases kind : row.kind <;> cases moved : row.transition <;> simp only [kind, moved] at h <;>
      try exact (throw_ok.mp h).elim
    simp only [bind_ok, require_ok, get_ok] at h
    obtain ⟨_, _, ⟨-, rfl⟩, _, m, ⟨rfl, rfl⟩, h⟩ := h
    cases there : m.decisions.find p.decisionID with
    | none =>
      simp only [there] at h
      exact (throw_ok.mp h).elim
    | some r =>
      simp only [there, bind_ok, pure_ok] at h
      obtain ⟨_, _, decoded, rfl, rfl⟩ := h
      obtain ⟨-, rfl⟩ := decodeRecord_ok decoded
      exact .inl ⟨row, r, _, kept, same, kind, moved, rfl, rfl, rfl⟩

theorem admissionGate_ok {gate : AdmissionGate TransitionReceipt}
    (h : admissionGate c request v clock l = .ok (gate, l')) :
    l' = l ∧ trimSpace request.idempotencyToken ≠ "" ∧
      ((∃ row receipt, l.idempotency.find request.idempotencyToken =
            some (request.idempotencyToken, row) ∧
          row.fingerprint = c.fingerprint (.admission request.decisionID request.expectedRevision) ∧
          row.kind = .admission ∧ row.transition = some receipt ∧ gate = .replay receipt) ∨
        (l.idempotency.find request.idempotencyToken = none ∧
          ∃ r, l.decisions.find request.decisionID = some r ∧ r.state = .approved ∧
            (gate = .expired r ∨ gate = .ask r))) := by
  simp only [admissionGate, bind_ok, require_ok, Bool.and_eq_true, decide_eq_true_eq] at h
  obtain ⟨_, _, ⟨⟨-, named⟩, rfl⟩, found, m, read, h⟩ := h
  obtain ⟨rfl, ⟨rfl, free⟩ | ⟨row, rfl, kept, same⟩⟩ := readIdempotency_ok read
  · simp only [bind_ok, require_ok] at h
    obtain ⟨r, _, got, _, _, ⟨-, rfl⟩, h⟩ := h
    obtain ⟨there, -, rfl⟩ := getRecord_ok got
    cases state : r.state <;> cases approval : r.approval <;> cases signature : r.signature <;>
      simp only [state, approval, signature] at h <;> try exact (throw_ok.mp h).elim
    simp only [bind_ok] at h
    obtain ⟨_, _, verified, h⟩ := h
    obtain ⟨-, rfl⟩ := verify_ok verified
    split at h
    next =>
      obtain ⟨rfl, rfl⟩ := pure_ok.mp h
      exact ⟨rfl, named, .inr ⟨free, r, there, state, .inl rfl⟩⟩
    next =>
      simp only [bind_ok, require_ok, pure_ok] at h
      obtain ⟨_, _, ⟨-, rfl⟩, rfl, rfl⟩ := h
      exact ⟨rfl, named, .inr ⟨free, r, there, state, .inr rfl⟩⟩
  · cases kind : row.kind <;> cases moved : row.transition <;> simp only [kind, moved] at h <;>
      try exact (throw_ok.mp h).elim
    obtain ⟨rfl, rfl⟩ := pure_ok.mp h
    exact ⟨rfl, named, .inl ⟨row, _, kept, same, kind, moved, rfl⟩⟩

end LedgerTx

end GasCity
