import GasCity.DecisionConsistent
import GasCity.Interleave

namespace GasCity

open KeyedList

def Ledger.Settled {F : Type} (l : Ledger F) : Prop :=
  ∀ r ∈ l.decisions.rows, r.isLocal = true →
    r.state ≠ .proposed ∧ r.payload.schema = executionSchemaVersion

def DecisionRecord.ApprovedBy {F : Type} (c : Crypto F) (trusted : Verifier → Prop)
    (r : DecisionRecord) : Prop :=
  ∃ a s v, r.approval = some a ∧ r.signature = some s ∧ trusted v ∧ v.verify c r.payload a s = .ok ()

/-- What a ledger promises: the index holds one entry per record, under its state and expiry, the
counts are exact, the audits of each record tell its way, no two audits share a store revision, and
a record that was approved holds an approval that a trusted authority signed. -/
structure Ledger.Coherent {F : Type} (c : Crypto F) (trusted : Verifier → Prop) (l : Ledger F) :
    Prop where
  indexed : ∀ k, k ∈ l.stateExpiry.keys ↔ ∃ r ∈ l.decisions.rows, r.indexKey = k
  counted : ∀ state, l.stateCounts state = l.decisions.rows.countP fun r => decide (r.state = state)
  trails : ∀ r ∈ l.decisions.rows, Trail l.transitions r
  stamped : StampedApart l.transitions l.storeRevision
  approved : ∀ r ∈ l.decisions.rows, r.isLocal = false →
    (∃ a ∈ l.transitions.rows, a.decisionID = r.id ∧ a.target = .approved) → r.ApprovedBy c trusted

section

variable {F : Type} {c : Crypto F} {trusted : Verifier → Prop}
  {accepted : ApprovalRule} {guarded : Prop}
  {l l' : Ledger F}

theorem Ledger.Consistent.coherent
    (ok : l.Consistent fun p a s => ∃ v, trusted v ∧ v.verify c p a s = .ok ()) :
    l.Coherent c trusted := by
  refine ⟨fun k => ?_, ok.counted, fun r mem => ok.trails _ r (find_key_of_mem mem),
    ok.stamped, ?_⟩
  · rw [mem_keys_iff, ← Option.isSome_iff_exists, ok.isSome_index k]
  · rintro r mem lane ⟨a, audit, ofRecord, target⟩
    rcases ok.approvals _ r (find_key_of_mem mem) with
      ⟨-, a, s, given, signed, v, trust, verified⟩ | ⟨-, -, never, -⟩
    · exact ⟨a, s, v, given, signed, trust, verified⟩
    · refine (never a.recordRevision a ?_ target).elim
      rw [← ofRecord]
      exact find_key_of_mem audit

namespace LedgerWrite

theorem settled (write : LedgerWrite c accepted guarded l l') (before : l.Settled) : l'.Settled := by
  cases write with
  | opened r _ _ _ _ _ _ _ _ lane =>
    exact forall_mem_set before fun isLocal => by rw [lane] at isLocal; cases isLocal
  | @admitted r state _ _ _ _ _ _ _ _ _ _ _ _ schema answer =>
    intro s mem
    have mem : s ∈ (l.decisions.set (r.next state (l.storeRevision + 2))).rows :=
      (mem_set_set (show r.id = (r.next state _).id from rfl)).mp mem
    have decided : state ≠ .proposed := by rcases answer with rfl | rfl <;> exact nofun
    rcases mem_set.mp mem with rfl | ⟨mem, -⟩
    · exact fun _ => ⟨decided, schema⟩
    · exact before s mem
  | ingested r _ _ _ _ _ _ _ _ lane =>
    exact forall_mem_set before fun isLocal => by rw [lane] at isLocal; cases isLocal
  | moved old new moves =>
    refine forall_mem_set before fun isLocal => ?_
    have prior := before old (mem_of_find moves.found) (moves.lane ▸ isLocal)
    refine ⟨fun state => ?_, by rw [moves.payload]; exact prior.2⟩
    have allowed := moves.allowed
    rw [state] at allowed
    cases from' : old.state <;> rw [from'] at allowed <;> cases allowed
  | receipted | imported => exact before

theorem consistent (write : LedgerWrite c accepted guarded l l') (ok : l.Consistent accepted)
    (settled : l.Settled) : l'.Consistent accepted := by
  cases write with
  | opened r missing _ _ whole state first stamp unsigned =>
    exact ok.enter missing whole state first stamp unsigned
  | admitted r missing _ _ whole proposed first stamp unsigned lane _ answer =>
    exact ok.admitted missing whole proposed first stamp unsigned lane answer
  | ingested r missing _ _ whole state second stamp approved lane =>
    exact ok.enterApproved missing whole state second stamp approved lane
  | moved old new moves =>
    exact ok.move moves fun isLocal => (settled old (mem_of_find moves.found) isLocal).1
  | receipted | imported => exact { ok with }

theorem consistents (writes : LedgerWrites c accepted guarded l l') (ok : l.Consistent accepted)
    (settled : l.Settled) : l'.Consistent accepted ∧ l'.Settled := by
  induction writes with
  | refl => exact ⟨ok, settled⟩
  | tail _ write ih => exact ⟨write.consistent ih.1 ih.2, write.settled ih.2⟩

end LedgerWrite

theorem LedgerPurge.consistents {cutoff : ZonedTime} (purges : LedgerPurges c cutoff l l')
    (ok : l.Consistent accepted) (settled : l.Settled) : l'.Consistent accepted ∧ l'.Settled := by
  induction purges with
  | refl => exact ⟨ok, settled⟩
  | tail _ purge ih =>
    obtain ⟨found, -, -, -, -⟩ := purge
    exact ⟨ih.1.remove found, fun r mem => ih.2 r (List.mem_of_mem_filter mem)⟩

end

namespace Ledger

variable {F : Type} [DecidableEq F] {c : Crypto F} {accepted : ApprovalRule} {l : Ledger F}

theorem step_consistent {e : LedgerEvent} (ok : l.Consistent accepted) (settled : l.Settled)
    (whole : e.call.WholeWindow) (accept : ∀ p a s, e.call.Approves c p a s → accepted p a s) :
    (l.step c e).Consistent accepted ∧ (l.step c e).Settled := by
  rcases e.purges_or with ⟨options, clock, rfl⟩ | kept
  · exact LedgerPurge.consistents step_purges ok settled
  · have writes : LedgerWrites c accepted False l (l.step c e) :=
      step_writes ok.whole whole accept False.elim False.elim kept
    exact LedgerWrite.consistents writes ok settled

def after (c : Crypto F) (events : List LedgerEvent) : Ledger F := events.foldl (step c) {}

def VerifiedWith (events : List LedgerEvent) (v : Verifier) : Prop :=
  ∃ e ∈ events, e.call.verifier = some v

omit [DecidableEq F] in
theorem verified_of_approves {call : LedgerCall} (whole : call.WholeApproval) {p : DecisionPayload}
    {a : ApprovalPayload} {s : Signature} (approves : call.Approves c p a s) :
    ∃ v, call.verifier = some v ∧ v.verify c p a s = .ok () := by
  cases call with
  | ingestApproved request v => exact ⟨v, rfl, approves.2.2⟩
  | transition request v =>
    obtain ⟨given, asked, rfl, verified⟩ := approves
    refine ⟨v, congrArg (Option.map fun _ => v) asked, ?_⟩
    unfold ApprovalPayload.reencode
    rw [ZonedTime.reencode_of_wholeMinutes (whole given asked)]
    exact verified
  | _ => exact approves.elim

/-- Every ledger reached by calls that store only times in zones of whole minutes is coherent. -/
theorem coherent_of_wholeMinutes (c : Crypto F) (events : List LedgerEvent)
    (whole : ∀ e ∈ events, e.call.WholeWindow ∧ e.call.WholeApproval) :
    (after c events).Coherent c (VerifiedWith events) := by
  have keeps (l : Ledger F) (e : LedgerEvent)
      (ok : l.Consistent (fun p a s => ∃ v, VerifiedWith events v ∧ v.verify c p a s = .ok ()) ∧
        l.Settled) (meets : e ∈ events) :
      (l.step c e).Consistent (fun p a s => ∃ v, VerifiedWith events v ∧ v.verify c p a s = .ok ()) ∧
        (l.step c e).Settled := by
    refine step_consistent ok.1 ok.2 (whole e meets).1 fun p a s approves => ?_
    obtain ⟨v, is, verified⟩ := verified_of_approves (whole e meets).2 approves
    exact ⟨v, ⟨e, meets, is⟩, verified⟩
  exact (Along.invariant keeps (Along.of_forall _ fun e mem => mem)
    ⟨.empty, fun r mem => (List.not_mem_nil mem).elim⟩).1.coherent

end Ledger

/-- A digest, and the crypto that answers it to everything and tells requests apart. -/
def zeroDigest : String := "0000000000000000000000000000000000000000000000000000000000000000"

def plainCrypto : Crypto LedgerRequest where
  bindingHash := fun _ => zeroDigest
  ed25519 := fun _ _ _ => true
  fingerprint := fun q => q
  isDigest := fun _ => true
  fingerprint_isDigest := fun _ => rfl

/-- A decision of the year 2025 that is valid for an hour, in a zone east of UTC by some seconds. -/
def hourPayload (id : String) (offset : Int) : DecisionPayload where
  schema := 1
  decisionID := id
  bindingID := zeroDigest
  workBeadID := "w"
  workStateDigest := zeroDigest
  city := "c"
  target := "t"
  targetConfigDigest := zeroDigest
  policyDigest := zeroDigest
  observationDigest := zeroDigest
  model := "m"
  source := "s"
  account := "a"
  createdAt := ⟨63900000000 * ZonedTime.second, offset⟩
  expiresAt := ⟨63900003600 * ZonedTime.second, offset⟩
  noMigration := true

def halfPast : Nat → ZonedTime := fun _ => ⟨63900001800 * ZonedTime.second, 0⟩

def createCall (id : String) (offset : Int) (token : String := "token") : LedgerEvent :=
  ⟨.create (hourPayload id offset) token, halfPast⟩

def revokeCall (id : String) : LedgerEvent :=
  ⟨.transition ⟨id, 1, .proposed, .revoked, none, none, "revoke", "late"⟩ ⟨[]⟩, halfPast⟩

namespace Ledger

theorem coherent_of_wholeMinutes_revoked :
    (after plainCrypto [createCall "d" 3600, revokeCall "d"]).decisions.rows.map (·.state) = [.revoked] ∧
      (after plainCrypto [createCall "d" 3600, revokeCall "d"]).Coherent plainCrypto
        (VerifiedWith [createCall "d" 3600, revokeCall "d"]) := by
  refine ⟨by decide +kernel, coherent_of_wholeMinutes plainCrypto _ ?_⟩
  intro e mem
  rcases List.mem_pair.mp mem with rfl | rfl
  · exact ⟨⟨rfl, rfl⟩, trivial⟩
  · exact ⟨trivial, fun a is => by cases is⟩

/-- A zone half a minute from UTC: the index holds the expiry that was given, the record the one that
JSON reads back. -/
theorem not_coherent_halfMinute :
    ¬ (after plainCrypto [createCall "d" 30]).Coherent plainCrypto
      (VerifiedWith [createCall "d" 30]) := by
  intro coherent
  have entry : (after plainCrypto [createCall "d" 30]).stateExpiry.keys =
      [⟨.proposed, 63900003600 * ZonedTime.second, "d"⟩] := by decide +kernel
  have keys : (after plainCrypto [createCall "d" 30]).decisions.rows.map DecisionRecord.indexKey =
      [⟨.proposed, 63900003630 * ZonedTime.second, "d"⟩] := by decide +kernel
  obtain ⟨r, mem, key⟩ := (coherent.indexed _).mp (by rw [entry]; exact List.mem_singleton_self _)
  have mem := List.mem_map_of_mem (f := DecisionRecord.indexKey) mem
  rw [keys, key] at mem
  revert mem
  decide

end Ledger

end GasCity
