import Mathlib.Logic.Relation
import GasCity.DecisionInversion

namespace GasCity

open KeyedList List LedgerTx DecisionRecord

def LedgerRequest.kind : LedgerRequest → Option ReceiptKind
  | .create _ => some .create
  | .ingest _ _ => some .ingest
  | .transition _ => some .transition
  | .localAdmission _ => some .localAdmission
  | .admission _ _ => some .admission
  | .purged _ => none

abbrev ApprovalRule := DecisionPayload → ApprovalPayload → Signature → Prop

section

variable {F : Type} (c : Crypto F) (accepted : ApprovalRule) (guarded : Prop)

def DecisionRecord.Accepted (r : DecisionRecord) : Prop :=
  ∃ a s, r.approval = some a ∧ r.signature = some s ∧ accepted r.payload a s

def IdempotencyRecord.Genuine (l : Ledger F) (receipt : IdempotencyRecord F) : Prop :=
  (∃ q : LedgerRequest, receipt.fingerprint = c.fingerprint q ∧ q.kind = some receipt.kind) ∧
    (l.decisions.find receipt.decisionID).isSome = true ∧
    ((receipt.kind = .create ∧ receipt.transition = none ∧ ∃ r, receipt.created = some r ∧
        r.id = receipt.decisionID ∧ 1 ≤ r.storeRevision ∧ r.storeRevision ≤ l.storeRevision) ∨
      (receipt.kind ≠ .create ∧ receipt.created = none ∧ ∃ t, receipt.transition = some t ∧
        t.decisionID = receipt.decisionID ∧ 1 ≤ t.storeRevision ∧
        t.storeRevision ≤ l.storeRevision ∧ (receipt.kind = .ingest → t.state = .approved) ∧
        (receipt.kind = .localAdmission → t.state = .admitted ∨ t.state = .refusedAfterRace)))

/-- A transition of a stored record. -/
structure DecisionRecord.Moves (l : Ledger F) (old new : DecisionRecord) : Prop where
  found : l.decisions.find old.id = some old
  payload : new.payload = old.payload
  lane : new.isLocal = old.isLocal
  whole : new.WholeMinutes
  next : new.recordRevision = old.recordRevision + 1
  stamp : new.storeRevision = l.storeRevision + 1
  allowed : old.state.isAllowedTransition new.state = true
  approval : new.state = .approved ∧ new.Accepted accepted ∨
    new.state ≠ .approved ∧ new.approval = old.approval ∧ new.signature = old.signature

/-- What a call other than a purge writes, one decision or one receipt at a time. A guarded write
does not open a decision that was purged, and its clock tells a time. -/
inductive LedgerWrite : Ledger F → Ledger F → Prop
  | opened {l : Ledger F} (r : DecisionRecord) {time : ZonedTime} {reason : String}
      (missing : l.decisions.find r.id = none) (unmarked : guarded → l.purged.find r.id = none)
      (valid : r.payload.valid c = true) (whole : r.WholeMinutes) (state : r.state = .proposed)
      (first : r.recordRevision = 1) (stamp : r.storeRevision = l.storeRevision + 1)
      (unsigned : r.approval = none ∧ r.signature = none) (lane : r.isLocal = false)
      (text : validateText reason true = true) (ticking : guarded → time.isZero = false) :
      LedgerWrite l (l.enter r (r.opening time reason r.storeRevision))
  | admitted {l : Ledger F} (r : DecisionRecord) {state : DecisionState} {time : ZonedTime}
      {opening reason : String} (missing : l.decisions.find r.id = none)
      (unmarked : l.purged.find r.id = none) (valid : r.payload.valid c = true)
      (whole : r.WholeMinutes) (proposed : r.state = .proposed) (first : r.recordRevision = 1)
      (stamp : r.storeRevision = l.storeRevision + 1)
      (unsigned : r.approval = none ∧ r.signature = none) (lane : r.isLocal = true)
      (schema : r.payload.schema = executionSchemaVersion)
      (answer : state = .admitted ∨ state = .refusedAfterRace)
      (openingText : validateText opening true = true) (text : validateText reason true = true)
      (ticking : guarded → time.isZero = false) :
      LedgerWrite l ((l.enter r (r.opening time opening r.storeRevision)).replace r
        (r.next state (l.storeRevision + 2))
        ((r.next state (l.storeRevision + 2)).leaving r.state time reason))
  | ingested {l : Ledger F} (r : DecisionRecord) {time : ZonedTime} {opening reason : String}
      (missing : l.decisions.find r.id = none) (unmarked : l.purged.find r.id = none)
      (valid : r.payload.valid c = true) (whole : r.WholeMinutes) (state : r.state = .approved)
      (second : r.recordRevision = 2) (stamp : r.storeRevision = l.storeRevision + 2)
      (approved : r.Accepted accepted) (lane : r.isLocal = false)
      (openingText : validateText opening true = true) (text : validateText reason true = true)
      (ticking : guarded → time.isZero = false) :
      LedgerWrite l (l.enterApproved r (r.opening time opening (l.storeRevision + 1))
        (r.leaving .proposed time reason))
  | moved {l : Ledger F} (old new : DecisionRecord) {time : ZonedTime} {reason : String}
      (moves : Moves accepted l old new) (text : validateText reason true = true)
      (ticking : guarded → time.isZero = false) :
      LedgerWrite l (l.replace old new (new.leaving old.state time reason))
  | receipted {l : Ledger F} {token : String} {receipt : IdempotencyRecord F}
      (free : l.idempotency.find token = none) (named : token ≠ "")
      (genuine : receipt.Genuine c l) : LedgerWrite l (l.keepReceipt token receipt)
  | imported {l : Ledger F} {row : String × LegacyReceipt} :
      LedgerWrite l { l with imports := l.imports.set row }

def LedgerReply.Of (row : IdempotencyRecord F) : LedgerReply → Prop
  | record r => row.kind = .create ∧ row.created = some r
  | admitted _ t => (row.kind = .ingest ∨ row.kind = .localAdmission) ∧ row.transition = some t
  | receipt t => (row.kind = .transition ∨ row.kind = .admission) ∧ row.transition = some t
  | _ => False

inductive LedgerPurge (cutoff : ZonedTime) : Ledger F → Ledger F → Prop
  | removed {l : Ledger F} {r : DecisionRecord} {a : TransitionAudit}
      (found : l.decisions.find r.id = some r) (terminal : r.state.isTerminal = true)
      (latest : l.transitions.find (r.id, r.recordRevision) = some a) (state : a.target = r.state)
      (old : a.time.instant ≤ cutoff.instant) : LedgerPurge cutoff l (l.remove c r)

abbrev LedgerWrites : Ledger F → Ledger F → Prop :=
  Relation.ReflTransGen (LedgerWrite c accepted guarded)

abbrev LedgerPurges (cutoff : ZonedTime) : Ledger F → Ledger F → Prop :=
  Relation.ReflTransGen (LedgerPurge c cutoff)

/-- A call has succeeded under a token: it answered as the receipt tells that was there, or it wrote
and left its own. -/
def Ledger.Succeeds (token : String) (q : LedgerRequest) (decisionID : String) (ρ : LedgerReply)
    (l l' : Ledger F) : Prop :=
  ∃ row, row.fingerprint = c.fingerprint q ∧ ρ.Of row ∧
    (l.idempotency.find token = some (token, row) ∧ l' = l ∨
      l.idempotency.find token = none ∧ token ≠ "" ∧ row.decisionID = decisionID ∧
        ∃ m, LedgerWrite c accepted guarded l m ∧ m.idempotency = l.idempotency ∧
          row.Genuine c m ∧ l' = m.keepReceipt token row)

end

def Ledger.Whole {F : Type} (l : Ledger F) : Prop :=
  ∀ r ∈ l.decisions.rows, r.WholeMinutes

theorem Ledger.Whole.find {F : Type} {l : Ledger F} (whole : l.Whole) (id : String)
    (r : DecisionRecord) (found : l.decisions.find id = some r) : r.WholeMinutes :=
  whole r (mem_of_find found)

namespace LedgerCall

def token : LedgerCall → Option String
  | create _ token => some token
  | ingestApproved request _ => some request.idempotencyToken
  | transition request _ => some request.idempotencyToken
  | admitLocal _ token _ _ => some token
  | finalAdmission request _ _ _ => some request.idempotencyToken
  | _ => none

def request : LedgerCall → Option LedgerRequest
  | create p _ => some (.create p.normalized)
  | ingestApproved request _ => some (.ingest
      ⟨request.payload.normalized, request.approval.normalized⟩ request.signature)
  | transition request _ => some (.transition request)
  | admitLocal p _ _ _ => some (.localAdmission
      { p.normalized with createdAt := ⟨0, 0⟩, expiresAt := ⟨0, 0⟩ })
  | finalAdmission request _ _ _ => some (.admission request.decisionID request.expectedRevision)
  | _ => none

def decisionID : LedgerCall → String
  | create p _ => p.decisionID
  | ingestApproved request _ => request.payload.decisionID
  | transition request _ => request.decisionID
  | admitLocal p _ _ _ => p.decisionID
  | finalAdmission request _ _ _ => request.decisionID
  | _ => ""

/-- The zones of a window that is stored as given are whole minutes away from UTC. -/
def WholeWindow : LedgerCall → Prop
  | create payload _ => payload.WholeMinutes
  | importLegacy _ payloads _ => ∀ p ∈ payloads, p.WholeMinutes
  | _ => True

def WholeApproval : LedgerCall → Prop
  | transition request _ => ∀ a, request.approval = some a → a.approvedAt.WholeMinutes
  | _ => True

def Approves {F : Type} (c : Crypto F) (call : LedgerCall) (p : DecisionPayload) (a : ApprovalPayload)
    (s : Signature) : Prop :=
  match call with
  | ingestApproved request v => p = request.payload.normalized ∧ a = request.approval.normalized ∧
      v.verify c p a s = .ok ()
  | transition request v => ∃ given, request.approval = some given ∧ a = given.reencode ∧
      v.verify c p given s = .ok ()
  | _ => False

def unlooked : LedgerCall → List String
  | create payload _ => [payload.decisionID]
  | importLegacy _ payloads _ => payloads.map fun p => p.decisionID
  | _ => []

/-- The verifier of the approval that a call carries. -/
def verifier : LedgerCall → Option Verifier
  | ingestApproved _ v => some v
  | transition request v => request.approval.map fun _ => v
  | _ => none

end LedgerCall

namespace LedgerWrite

variable {F : Type} {c : Crypto F}  {accepted : ApprovalRule} {guarded : Prop} {l l' : Ledger F}

theorem whole (write : LedgerWrite c accepted guarded l l') (before : l.Whole) : l'.Whole := by
  cases write with
  | opened _ _ _ _ whole => exact forall_mem_set before whole
  | admitted _ _ _ _ whole =>
    exact forall_mem_set (forall_mem_set before whole) ⟨whole.1, whole.2⟩
  | ingested _ _ _ _ whole => exact forall_mem_set before whole
  | moved _ _ moves => exact forall_mem_set before moves.whole
  | receipted | imported => exact before

theorem wholes (writes : LedgerWrites c accepted guarded l l') (before : l.Whole) : l'.Whole := by
  induction writes with
  | refl => exact before
  | tail _ write ih => exact write.whole ih

end LedgerWrite

theorem ZonedTime.isZero_orClock {t clock : ZonedTime} (ticking : clock.isZero = false) :
    (t.orClock clock).isZero = false := by
  unfold ZonedTime.orClock
  split
  next => exact ticking
  next nonzero => exact Bool.eq_false_iff.mpr nonzero

namespace LedgerTx

open Relation

variable {F : Type} {c : Crypto F} {accepted : ApprovalRule} {guarded : Prop} {l l' : Ledger F}
  {token : String} {r : DecisionRecord} {clock : ZonedTime} {receipt : TransitionReceipt}
  {callback : Option AdmissionCallback} {payloads : List DecisionPayload} {candidates : List DecisionRecord}

theorem ne_empty_of_trimSpace (named : trimSpace token ≠ "") : token ≠ "" := by
  rintro rfl
  exact named rfl

theorem ne_empty_of_validateText (text : validateText token true = true) :
    token ≠ "" := by
  rintro rfl
  cases text

theorem genuine_moveReceipt {kind : ReceiptKind} {q : LedgerRequest}
    (found : l.decisions.find r.id = some r) (stamp : r.storeRevision = l.storeRevision)
    (positive : 1 ≤ r.storeRevision) (asked : q.kind = some kind) (notCreate : kind ≠ .create)
    (ingest : kind = .ingest → r.state = .approved)
    (local' : kind = .localAdmission → r.state = .admitted ∨ r.state = .refusedAfterRace) :
    (r.moveReceipt kind (c.fingerprint q)).Genuine c l := by
  refine ⟨⟨q, rfl, asked⟩, ?_, .inr ⟨notCreate, rfl, _, rfl, rfl, positive, stamp.le, ingest, local'⟩⟩
  exact Option.isSome_iff_exists.mpr ⟨r, found⟩

theorem advance_succeeds {old p : DecisionRecord} {approval : Option ApprovalPayload}
    {signature : Option Signature} {target : DecisionState} {time : ZonedTime} {reason : String}
    {kind : ReceiptKind} {q : LedgerRequest} {decisionID : String} {m : Ledger F} {u : Unit}
    {ρ : LedgerReply} (found : l.decisions.find decisionID = some old) (times : old.WholeMinutes)
    (allowed : old.state.isAllowedTransition target = true)
    (attached : (target = .approved ∧ ∃ a s, approval = some a ∧ signature = some s ∧
        accepted old.payload a.reencode s) ∨
      (target ≠ .approved ∧ approval = old.approval ∧ signature = old.signature))
    (text : validateText reason true = true) (ticking : guarded → time.isZero = false)
    (free : l.idempotency.find token = none) (named : token ≠ "") (asked : q.kind = some kind)
    (notCreate : kind ≠ .create) (notIngest : kind ≠ .ingest) (notLocal : kind ≠ .localAdmission)
    (advanced : advance { old with approval, signature } target time reason l = .ok (p, m))
    (kept : putIdempotency token (p.moveReceipt kind (c.fingerprint q)) m = .ok (u, l'))
    (reply : ρ.Of (p.moveReceipt kind (c.fingerprint q))) :
    Ledger.Succeeds c accepted guarded token q decisionID ρ l l' := by
  have key : decisionID = old.id := (key_of_find found).symm
  subst key
  obtain ⟨rfl, rfl⟩ := advance_ok (r := { old with approval, signature }) times.1 advanced
  cases putIdempotency_ok (fun _ same => by cases same) kept
  have payload : old.payload.reencode = old.payload := DecisionPayload.reencode_of_wholeMinutes times.1
  have whole : old.payload.reencode.WholeMinutes := payload.symm ▸ times.1
  have zero (guard : guarded) : time.utc.isZero = false := ticking guard
  have given (b : ApprovalPayload) (is : approval.map ApprovalPayload.reencode = some b) :
      b.approvedAt.WholeMinutes := by
    obtain ⟨a, -, rfl⟩ := Option.map_eq_some_iff.mp is
    exact a.approvedAt.wholeMinutes_reencode
  let new := ({ old with approval, signature } : DecisionRecord).next target (l.storeRevision + 1)
  refine ⟨_, rfl, reply, .inr ⟨free, named, rfl, _, .moved old new.reencode
    ⟨found, payload, rfl, ⟨whole, given⟩, rfl, rfl, allowed, ?_⟩ text zero, rfl,
    genuine_moveReceipt (r := new.reencode) ?_ rfl (Nat.le_add_left 1 _) asked notCreate
    (absurd · notIngest) (absurd · notLocal), rfl⟩⟩
  · rcases attached with ⟨target, a, s, rfl, rfl, good⟩ | ⟨other, rfl, rfl⟩
    · rw [← payload] at good
      exact .inl ⟨target, _, _, rfl, rfl, good⟩
    · have same := congrArg approval (reencode_of_wholeMinutes times)
      exact .inr ⟨other, same, rfl⟩
  · exact (find_set _ _ _).trans (if_pos rfl)

theorem importPayloads_writes {clock : Nat → ZonedTime} {seen intents : List String} {u : Unit}
    (whole : ∀ p ∈ payloads, p.WholeMinutes)
    (unmarked : guarded → ∀ p ∈ payloads, l.purged.find p.decisionID = none)
    (ticking : guarded → ∀ n, (clock n).isZero = false)
    (h : importPayloads c clock seen intents payloads l = .ok (u, l')) :
    LedgerWrites c accepted guarded l l' := by
  induction payloads generalizing l seen intents with
  | nil =>
    obtain ⟨-, rfl⟩ := pure_ok.mp h
    exact .refl
  | cons p rest ih =>
    simp only [importPayloads, bind_ok, get_ok, require_ok, Bool.and_eq_true,
      Option.isNone_iff_eq_none] at h
    obtain ⟨_, _, ⟨⟨valid, -⟩, rfl⟩, _, _, ⟨-, rfl⟩, _, _, ⟨rfl, rfl⟩, _, _, ⟨missing, rfl⟩, r, m,
      proposed, more⟩ := h
    have times : p.WholeMinutes := whole p mem_cons_self
    have text : validateText "imported from unsigned legacy routing intent" true = true := by decide
    obtain ⟨rfl, rfl⟩ := propose_ok (wholeMinutes_proposal times 0) proposed
    have zero (guard : guarded) : (clock rest.length).utc.isZero = false := ticking guard _
    refine ReflTransGen.head (LedgerWrite.opened (proposal p _) missing
      (fun guard => unmarked guard p mem_cons_self) valid (wholeMinutes_proposal times _)
      rfl rfl rfl ⟨rfl, rfl⟩ rfl text zero) (ih ?_ ?_ more)
    · exact fun q mem => whole q (mem_cons_of_mem _ mem)
    · exact fun guard q mem => unmarked guard q (mem_cons_of_mem _ mem)

theorem importLegacy_writes {source : LegacySource} {clock : Nat → ZonedTime} {ids : List String}
    (whole : ∀ p ∈ payloads, p.WholeMinutes)
    (unmarked : guarded → ∀ p ∈ payloads, l.purged.find p.decisionID = none)
    (ticking : guarded → ∀ n, (clock n).isZero = false)
    (h : importLegacy c source payloads clock l = .ok (ids, l')) :
    LedgerWrites c accepted guarded l l' := by
  simp only [importLegacy, bind_ok, require_ok, get_ok] at h
  obtain ⟨_, _, ⟨-, rfl⟩, _, m, ⟨rfl, rfl⟩, h⟩ := h
  cases known : m.imports.find source.digest with
  | some row =>
    simp only [known, bind_ok, require_ok, pure_ok] at h
    obtain ⟨_, _, ⟨-, rfl⟩, -, rfl⟩ := h
    exact .refl
  | none =>
    simp only [known, bind_ok, require_ok, modify_ok, pure_ok] at h
    obtain ⟨_, _, ⟨-, rfl⟩, _, m₁, payloads, _, _, ⟨-, rfl⟩, _, m₂, rfl, -, rfl⟩ := h
    exact (importPayloads_writes whole unmarked ticking payloads).tail .imported

theorem latestAudit_ok {a : TransitionAudit} (h : latestAudit r l = .ok (a, l')) :
    l' = l ∧ l.transitions.find (r.id, r.recordRevision) = some a ∧ a.target = r.state := by
  simp only [latestAudit, bind_ok, get_ok] at h
  obtain ⟨_, m, ⟨rfl, rfl⟩, h⟩ := h
  cases found : m.transitions.find (r.id, r.recordRevision) with
  | none =>
    simp only [found] at h
    exact (throw_ok.mp h).elim
  | some b =>
    simp only [found, bind_ok, require_ok, pure_ok, decide_eq_true_eq] at h
    obtain ⟨_, _, ⟨target, rfl⟩, rfl, rfl⟩ := h
    exact ⟨rfl, rfl, target⟩

theorem purgeDecision_ok {u : Unit} (h : purgeDecision c r l = .ok (u, l')) :
    r.state.isTerminal = true ∧ l' = l.remove c r := by
  simp only [purgeDecision, bind_ok, require_ok, modify_ok, pure_ok] at h
  obtain ⟨_, _, ⟨terminal, rfl⟩, _, _, rfl, _, _, less, _, _, next, -, rfl⟩ := h
  cases decrementCount_ok less
  obtain ⟨-, rfl⟩ := nextStoreRevision_ok next
  exact ⟨terminal, rfl⟩

def Purgeable (l : Ledger F) (cutoff : ZonedTime) (r : DecisionRecord) : Prop :=
  r.state.isTerminal = true ∧ ∃ a, l.transitions.find (r.id, r.recordRevision) = some a ∧
    a.target = r.state ∧ a.time.instant ≤ cutoff.instant

theorem purgeCandidates_ok {cutoff : ZonedTime} {page : List DecisionRecord}
    (h : purgeCandidates c cutoff page l = .ok (candidates, l')) :
    l' = l ∧ candidates.Sublist page ∧ ∀ r ∈ candidates, Purgeable l cutoff r := by
  induction page generalizing candidates l' with
  | nil =>
    obtain ⟨rfl, rfl⟩ := pure_ok.mp h
    exact ⟨rfl, .slnil, by simp⟩
  | cons r rest ih =>
    simp only [purgeCandidates, bind_ok] at h
    obtain ⟨_, _, decoded, h⟩ := h
    obtain ⟨-, rfl⟩ := decodeRecord_ok decoded
    split at h
    next terminal =>
      simp only [bind_ok, pure_ok] at h
      obtain ⟨a, _, latest, more, _, others, rfl, rfl⟩ := h
      obtain ⟨rfl, found, target⟩ := latestAudit_ok latest
      obtain ⟨rfl, sub, each⟩ := ih others
      split
      next old =>
        refine ⟨rfl, sub.cons_cons r, ?_⟩
        rintro s (_ | ⟨_, mem⟩)
        · exact ⟨terminal, a, found, target, old⟩
        · exact each s mem
      next => exact ⟨rfl, sub.cons r, each⟩
    next =>
      obtain ⟨rfl, sub, each⟩ := ih h
      exact ⟨rfl, sub.cons r, each⟩

theorem forM_purgeDecision_purges {cutoff : ZonedTime} {u : PUnit}
    (apart : (candidates.map DecisionRecord.id).Nodup)
    (found : ∀ r ∈ candidates, l.decisions.find r.id = some r)
    (each : ∀ r ∈ candidates, Purgeable l cutoff r)
    (h : candidates.forM (purgeDecision c) l = .ok (u, l')) : LedgerPurges c cutoff l l' := by
  induction candidates generalizing l with
  | nil =>
    obtain ⟨-, rfl⟩ := pure_ok.mp h
    exact .refl
  | cons r rest ih =>
    simp only [forM_eq_forM, forM_cons, bind_ok] at h
    obtain ⟨_, _, removed, h⟩ := h
    obtain ⟨-, rfl⟩ := purgeDecision_ok removed
    obtain ⟨terminal, a, latest, target, old⟩ := each r mem_cons_self
    obtain ⟨different, apart⟩ := nodup_cons.mp apart
    have ne : ∀ s ∈ rest, s.id ≠ r.id := fun s mem eq => different (mem_map.mpr ⟨s, mem, eq⟩)
    refine ReflTransGen.head (LedgerPurge.removed (found r mem_cons_self) terminal latest target
      old) (ih apart ?_ ?_ h)
    · intro s mem
      show (l.decisions.erase r.id).find s.id = some s
      rw [find_erase, if_neg (ne s mem)]
      exact found s (mem_cons_of_mem _ mem)
    · intro s mem
      obtain ⟨terminal, a, latest, target, old⟩ := each s (mem_cons_of_mem _ mem)
      refine ⟨terminal, a, ?_, target, old⟩
      show (l.transitions.keep _).find _ = some a
      rw [find_keep, latest]
      have key := key_of_find latest
      have other : a.decisionID ≠ r.id := (congrArg Prod.fst key).trans_ne (ne s mem)
      simp [other]

theorem purgeTerminal_purges {options : PurgeOptions} {result : PurgeResult}
    (h : purgeTerminal c options clock l = .ok (result, l')) :
    LedgerPurges c ((options.now.orClock clock).subtractCalendarMonths retentionMonths) l l' := by
  simp only [purgeTerminal, bind_ok, require_ok, get_ok, pure_ok] at h
  obtain ⟨_, n, ⟨-, rfl⟩, after, _, decoded, _, m, ⟨rfl, rfl⟩, candidates, _, chosen, _, _, purged, -,
    rfl⟩ := h
  have same : m = n := by
    cases given : options.after with
    | error e =>
      rw [given] at decoded
      cases decoded
    | ok a =>
      rw [given] at decoded
      cases decoded
      rfl
  subst same
  obtain ⟨kept, sub, each⟩ := purgeCandidates_ok chosen
  rw [kept] at purged
  have page : ∀ r ∈ candidates, r ∈ m.decisions.rows := fun r mem =>
    (mem_insertionSort _).mp (mem_of_mem_filter (mem_of_mem_take (sub.subset mem)))
  have sorted : ((m.decisions.rows.insertionSort fun a b => a.id ≤ b.id).map
      DecisionRecord.id).Nodup :=
    ((perm_insertionSort _ _).map _).nodup_iff.mpr m.decisions.nodup
  refine forM_purgeDecision_purges (sorted.sublist ?_) ?_ each purged
  · exact ((sub.trans (take_sublist _ _)).trans filter_sublist).map _
  · exact fun r mem => find_key_of_mem (page r mem)

variable [DecidableEq F]

theorem create_succeeds {p : DecisionPayload} (whole : p.WholeMinutes)
    (unmarked : guarded → l.purged.find p.decisionID = none) (ticking : guarded → clock.isZero = false)
    (h : create c p token clock l = .ok (r, l')) :
    Ledger.Succeeds c accepted guarded token (.create p.normalized) p.decisionID (.record r) l l' := by
  simp only [create, bind_ok, require_ok, decide_eq_true_eq] at h
  obtain ⟨_, _, ⟨valid, rfl⟩, _, _, ⟨named, rfl⟩, found, m, read, h⟩ := h
  obtain ⟨rfl, ⟨rfl, free⟩ | ⟨row, rfl, stored, same⟩⟩ := readIdempotency_ok read
  · simp only [bind_ok, get_ok, require_ok, pure_ok, Option.isNone_iff_eq_none] at h
    obtain ⟨_, _, ⟨rfl, rfl⟩, _, _, ⟨missing, rfl⟩, p₁, m₁, proposed, _, m₂, kept, rfl, rfl⟩ := h
    obtain ⟨rfl, rfl⟩ := propose_ok (wholeMinutes_proposal whole 0) proposed
    cases putIdempotency_ok (fun _ same => by cases same; exact wholeMinutes_proposal whole _) kept
    have text : validateText "created" true = true := by decide
    have zero (guard : guarded) : clock.utc.isZero = false := ticking guard
    refine ⟨_, rfl, ⟨rfl, rfl⟩, .inr ⟨free, ne_empty_of_trimSpace named, rfl, _, .opened
      (proposal p _) missing unmarked valid
      (wholeMinutes_proposal whole _) rfl rfl rfl ⟨rfl, rfl⟩ rfl text zero, rfl,
      ⟨⟨_, rfl, rfl⟩, ?_, .inl ⟨rfl, rfl, _, rfl, rfl, Nat.le_add_left 1 _, Nat.le_refl _⟩⟩, rfl⟩⟩
    exact Option.isSome_iff_exists.mpr ⟨_, (find_set _ _ _).trans (if_pos rfl)⟩
  · cases kind : row.kind <;> cases created : row.created <;> simp only [kind, created] at h <;>
      try exact (throw_ok.mp h).elim
    obtain ⟨rfl, rfl⟩ := pure_ok.mp h
    exact ⟨row, same, ⟨kind, created⟩, .inl ⟨stored, rfl⟩⟩

theorem ingestApproved_succeeds {request : IngestRequest} {v : Verifier}
    (accept : ∀ p a s, (LedgerCall.ingestApproved request v).Approves c p a s → accepted p a s)
    (ticking : guarded → clock.isZero = false)
    (h : ingestApproved c request v clock l = .ok ((r, receipt), l')) :
    Ledger.Succeeds c accepted guarded request.idempotencyToken
      (.ingest ⟨request.payload.normalized, request.approval.normalized⟩ request.signature)
      request.payload.decisionID (.admitted r receipt) l l' := by
  simp only [ingestApproved, bind_ok, require_ok] at h
  obtain ⟨_, _, ⟨text, rfl⟩, _, _, ⟨valid, rfl⟩, _, _, ⟨-, rfl⟩, _, _, ⟨-, rfl⟩, _, _, checked, _, _,
    ⟨-, rfl⟩, found, m, read, h⟩ := h
  obtain ⟨verified, rfl⟩ := verify_ok checked
  obtain ⟨rfl, ⟨rfl, free⟩ | ⟨row, rfl, stored, same⟩⟩ := readIdempotency_ok read
  · simp only [bind_ok, pure_ok] at h
    obtain ⟨_, _, fresh, n₁, m₁, next₁, _, m₂, audit₁, n₂, m₃, next₂, _, m₄, put, _, m₅, counted, _, m₆,
      audit₂, _, m₇, kept, done, rfl⟩ := h
    obtain ⟨unmarked, missing, rfl⟩ := requireFresh_ok fresh
    obtain ⟨rfl, rfl⟩ := nextStoreRevision_ok next₁
    cases putAudit_ok audit₁
    obtain ⟨rfl, rfl⟩ := nextStoreRevision_ok next₂
    cases putRecord_ok put (wholeMinutes_ingested request _)
    cases incrementCount_ok counted
    cases putAudit_ok audit₂
    cases putIdempotency_ok (fun _ same => by cases same) kept
    cases done
    have opening : validateText "ingested signed decision" true = true := by decide
    have admitted : validateText "signature admitted" true = true := by decide
    refine ⟨_, rfl, ⟨.inl rfl, rfl⟩, .inr ⟨free, ne_empty_of_validateText text, rfl, _, .ingested
      (ingested request _) missing unmarked
      ((DecisionPayload.valid_normalized c request.payload).trans valid)
      (wholeMinutes_ingested request _) rfl rfl rfl ⟨_, _, rfl, rfl, accept _ _ _ ⟨rfl, rfl, ?_⟩⟩ rfl
      opening admitted fun guard => ZonedTime.isZero_orClock (ticking guard), rfl,
      genuine_moveReceipt ?_ rfl (Nat.le_add_left 1 _) rfl nofun (fun _ => rfl) nofun, rfl⟩⟩
    · exact (Verifier.verify_normalized c v _ _ _).trans verified
    · exact (find_set _ _ _).trans (if_pos rfl)
  · cases kind : row.kind <;> cases moved : row.transition <;> simp only [kind, moved] at h <;>
      try exact (throw_ok.mp h).elim
    simp only [bind_ok, require_ok, pure_ok] at h
    obtain ⟨_, _, ⟨-, rfl⟩, done, rfl⟩ := h
    cases done
    exact ⟨row, same, ⟨.inl kind, moved⟩, .inl ⟨stored, rfl⟩⟩

theorem transition_succeeds {request : TransitionRequest} {v : Verifier} (stored : l.Whole)
    (accept : ∀ p a s, (LedgerCall.transition request v).Approves c p a s → accepted p a s)
    (ticking : guarded → clock.isZero = false)
    (h : transition c request v clock l = .ok (receipt, l')) :
    Ledger.Succeeds c accepted guarded request.idempotencyToken (.transition request)
      request.decisionID (.receipt receipt) l l' := by
  simp only [transition, bind_ok, require_ok] at h
  obtain ⟨_, _, ⟨-, rfl⟩, _, _, ⟨text, rfl⟩, _, _, ⟨reason, rfl⟩, found, m, read, h⟩ := h
  obtain ⟨rfl, ⟨rfl, free⟩ | ⟨row, rfl, kept, same⟩⟩ := readIdempotency_ok read
  · simp only [bind_ok, require_ok, pure_ok, Bool.and_eq_true, decide_eq_true_eq] at h
    obtain ⟨r, _, got, _, _, ⟨-, rfl⟩, _, _, ⟨⟨source, allowed⟩, rfl⟩, signed, _, attach, moved, m₁,
      advanced, _, m₂, kept, rfl, rfl⟩ := h
    obtain ⟨there, -, rfl⟩ := getRecord_ok got
    obtain ⟨rfl, approval, signature, rfl, attached⟩ := attachApproval_ok attach
    rw [← source] at allowed
    refine advance_succeeds there (stored.find _ _ there) allowed (attached.imp_left ?_) reason ticking
      free (ne_empty_of_validateText text) rfl nofun nofun nofun advanced kept ⟨.inl rfl, rfl⟩
    rintro ⟨target, a, s, asked, rfl, rfl, verified⟩
    exact ⟨target, a, s, rfl, rfl, accept _ _ _ ⟨a, asked, rfl, verified⟩⟩
  · cases kind : row.kind <;> cases moved : row.transition <;> simp only [kind, moved] at h <;>
      try exact (throw_ok.mp h).elim
    obtain ⟨rfl, rfl⟩ := pure_ok.mp h
    exact ⟨row, same, ⟨.inl kind, moved⟩, .inl ⟨kept, rfl⟩⟩

theorem admitLocal_succeeds {p : DecisionPayload} {commits : Bool}
    (ticking : guarded → clock.isZero = false)
    (h : admitLocal c p token callback commits clock l = .ok ((r, receipt), l')) :
    Ledger.Succeeds c accepted guarded token
      (.localAdmission { p.normalized with createdAt := ⟨0, 0⟩, expiresAt := ⟨0, 0⟩ }) p.decisionID
      (.admitted r receipt) l l' := by
  cases callback with
  | none => exact (throw_ok.mp h).elim
  | some callback =>
    simp only [admitLocal, bind_ok] at h
    obtain ⟨gate, m, passed, h⟩ := h
    obtain ⟨schema, valid, named, outcome⟩ := localGate_ok passed
    rcases outcome with ⟨row, r₀, t, kept, same, kind, moved, there, rfl, rfl⟩ |
      ⟨free, unmarked, missing, rfl, rfl⟩
    · obtain ⟨done, rfl⟩ := pure_ok.mp h
      cases done
      exact ⟨row, same, ⟨.inr kind, moved⟩, .inl ⟨kept, rfl⟩⟩
    · simp only [bind_ok, pure_ok] at h
      obtain ⟨answer, _, answered, moved, m₁, committed, done, rfl⟩ := h
      cases done
      obtain ⟨state, text, rfl⟩ := callbackAnswer_ok answered
      obtain ⟨rfl, rfl⟩ := commitAdmission_ok (wholeMinutes_localProposal p _) committed
      have opening : validateText "created local advisory admission" true = true := by decide
      have zero (guard : guarded) : clock.utc.isZero = false := ticking guard
      refine ⟨_, rfl, ⟨.inr rfl, rfl⟩, .inr ⟨free, ne_empty_of_trimSpace named, rfl, _, .admitted
        (localProposal p (l.storeRevision + 1)) missing unmarked
        ((DecisionPayload.valid_normalized c p).trans valid) (wholeMinutes_localProposal p _) rfl rfl
        rfl ⟨rfl, rfl⟩ rfl schema state opening text zero, rfl,
        genuine_moveReceipt ?_ rfl (Nat.le_add_left 1 _) rfl nofun nofun fun _ => state, rfl⟩⟩
      exact (find_set _ _ _).trans (if_pos rfl)

theorem finalAdmission_succeeds {request : FinalAdmissionRequest} {v : Verifier} {commits : Bool}
    (stored : l.Whole) (ticking : guarded → clock.isZero = false)
    (h : finalAdmission c request v callback commits clock l = .ok (receipt, l')) :
    Ledger.Succeeds c accepted guarded request.idempotencyToken
      (.admission request.decisionID request.expectedRevision) request.decisionID (.receipt receipt)
      l l' := by
  cases callback with
  | none => exact (throw_ok.mp h).elim
  | some callback =>
    simp only [finalAdmission, bind_ok] at h
    obtain ⟨gate, m, passed, h⟩ := h
    obtain ⟨rfl, named, ⟨row, t, kept, same, kind, moved, rfl⟩ | ⟨free, r, there, approved, gate⟩⟩ :=
      admissionGate_ok passed
    · obtain ⟨rfl, rfl⟩ := pure_ok.mp h
      exact ⟨row, same, ⟨.inr kind, moved⟩, .inl ⟨kept, rfl⟩⟩
    -- the record moves on, to the answer of the callback or as expired
    have commits {state : DecisionState} {reason : String} {moved : DecisionRecord}
        (answered : state = .admitted ∨ state = .refusedAfterRace ∨ state = .expired)
        (text : validateText reason true = true)
        (committed : commitAdmission .admission
          (c.fingerprint (.admission request.decisionID request.expectedRevision))
          request.idempotencyToken commits r state (request.now.orClock clock) reason m =
          .ok (moved, l')) :
        Ledger.Succeeds c accepted guarded request.idempotencyToken
          (.admission request.decisionID request.expectedRevision) request.decisionID
          (.receipt moved.receipt) m l' := by
      have allowed : r.state.isAllowedTransition state = true := by
        rw [approved]
        rcases answered with rfl | rfl | rfl <;> rfl
      have other : state ≠ .approved := by rcases answered with rfl | rfl | rfl <;> decide
      simp only [commitAdmission, bind_ok, require_ok, pure_ok] at committed
      obtain ⟨_, _, ⟨-, rfl⟩, moved, m₁, advanced, _, m₂, kept, rfl, rfl⟩ := committed
      exact advance_succeeds there (stored.find _ _ there) allowed (.inr ⟨other, rfl, rfl⟩) text
        (fun guard => ZonedTime.isZero_orClock (ticking guard)) free (ne_empty_of_trimSpace named) rfl
        (by decide) (by decide) (by decide) advanced kept ⟨.inr rfl, rfl⟩
    rcases gate with rfl | rfl
    · simp only [bind_ok, pure_ok] at h
      obtain ⟨moved, _, committed, rfl, rfl⟩ := h
      exact commits (.inr (.inr rfl)) (by decide) committed
    · simp only [bind_ok, pure_ok] at h
      obtain ⟨answer, _, answered, moved, _, committed, rfl, rfl⟩ := h
      obtain ⟨state, text, rfl⟩ := callbackAnswer_ok answered
      exact commits (state.imp_right .inl) text committed

end LedgerTx

namespace Ledger

open Relation

variable {F : Type} {c : Crypto F} {accepted : ApprovalRule} {guarded : Prop}
  {l l' : Ledger F} {e : LedgerEvent} {token : String}

theorem Succeeds.writes {decisionID : String} {q : LedgerRequest} {ρ : LedgerReply}
    (done : Succeeds c accepted guarded token q decisionID ρ l l') :
    LedgerWrites c accepted guarded l l' := by
  obtain ⟨row, -, -, ⟨-, rfl⟩ | ⟨free, named, -, m, write, same, genuine, rfl⟩⟩ := done
  · exact .refl
  · exact (ReflTransGen.single write).tail (.receipted (same ▸ free) named genuine)

theorem update_ok {α : Type} {tx : LedgerTx F α} {reply : α → LedgerReply} {ρ : LedgerReply}
    (done : (l.update tx reply).2 = .ok ρ) :
    ∃ a, tx l = .ok (a, (l.update tx reply).1) ∧ ρ = reply a := by
  unfold update at done ⊢
  cases result : tx l with
  | ok pair =>
    rw [result] at done
    cases done
    exact ⟨pair.1, rfl, rfl⟩
  | error e =>
    rw [result] at done
    cases done

variable [DecidableEq F]

theorem expireEach_writes {tokenFor : String → String} {clock : Nat → ZonedTime}
    {records : List DecisionRecord} {expired : Nat} (stored : l.Whole)
    (ticking : guarded → ∀ n, (clock n).isZero = false) :
    LedgerWrites c accepted guarded l (expireEach c tokenFor clock records expired l).1 := by
  induction records generalizing l expired with
  | nil => exact .refl
  | cons r rest ih =>
    unfold expireEach
    cases done : transition c (expiryRequest tokenFor r) {} (clock rest.length) l with
    | ok result =>
      obtain ⟨receipt, next⟩ := result
      have first : LedgerWrites c accepted guarded l next :=
        (transition_succeeds stored (fun _ _ _ ⟨_, given, _⟩ => by cases given)
          (fun guard => ticking guard _) done).writes
      exact first.trans (ih (LedgerWrite.wholes first stored))
    | error e =>
      dsimp only
      split
      next => exact ih stored
      next => exact .refl

theorem run_failed (named : e.call.token = some token) {err : LedgerError}
    (failed : (l.run c e).2 = .error err) : l.step c e = l := by
  have kept {α : Type} {tx : LedgerTx F α} {reply : α → LedgerReply}
      (failed : (l.update tx reply).2 = .error err) : (l.update tx reply).1 = l := by
    unfold update at failed ⊢
    cases result : tx l with
    | ok pair =>
      rw [result] at failed
      cases failed
    | error e => rfl
  obtain ⟨call, clock⟩ := e
  cases call with
  | create | ingestApproved | transition | admitLocal | finalAdmission => exact kept failed
  | _ => cases named

variable (stored : l.Whole) (whole : e.call.WholeWindow)
  (accept : ∀ p a s, e.call.Approves c p a s → accepted p a s)
  (ticking : guarded → ∀ n, (e.clock n).isZero = false)
  (unmarked : guarded → ∀ id ∈ e.call.unlooked, l.purged.find id = none)

include stored whole accept ticking unmarked

theorem run_succeeds (named : e.call.token = some token) {ρ : LedgerReply} (done : (l.run c e).2 = .ok ρ) :
    ∃ q, e.call.request = some q ∧
      Succeeds c accepted guarded token q e.call.decisionID ρ l (l.step c e) := by
  have ticking (guard : guarded) : (e.clock 0).isZero = false := ticking guard 0
  obtain ⟨call, clock⟩ := e
  cases call with
  | create p _ =>
    cases named
    obtain ⟨r, result, rfl⟩ := update_ok done
    exact ⟨_, rfl, create_succeeds whole (fun guard => unmarked guard _ mem_cons_self)
      ticking result⟩
  | ingestApproved request v =>
    cases named
    obtain ⟨⟨r, receipt⟩, result, rfl⟩ := update_ok done
    exact ⟨_, rfl, ingestApproved_succeeds accept ticking result⟩
  | transition request v =>
    cases named
    obtain ⟨receipt, result, rfl⟩ := update_ok done
    exact ⟨_, rfl, transition_succeeds stored accept ticking result⟩
  | admitLocal p _ callback commits =>
    cases named
    obtain ⟨⟨r, receipt⟩, result, rfl⟩ := update_ok done
    exact ⟨_, rfl, admitLocal_succeeds ticking result⟩
  | finalAdmission request v callback commits =>
    cases named
    obtain ⟨receipt, result, rfl⟩ := update_ok done
    exact ⟨_, rfl, finalAdmission_succeeds stored ticking result⟩
  | _ => cases named

theorem step_writes (kept : ∀ options, e.call ≠ .purgeTerminal options) :
    LedgerWrites c accepted guarded l (l.step c e) := by
  have tokened {token : String} (named : e.call.token = some token) :
      LedgerWrites c accepted guarded l (l.step c e) := by
    cases result : (l.run c e).2 with
    | error err =>
      rw [run_failed named result]
    | ok ρ =>
      obtain ⟨q, -, done⟩ := run_succeeds stored whole accept ticking unmarked named result
      exact done.writes
  obtain ⟨call, clock⟩ := e
  cases call with
  | expireDue now limit tokenFor =>
    unfold step run
    dsimp only
    unfold expireDue
    split
    next => exact .refl
    next tokenFor =>
      split
      next => exact .refl
      next =>
        split
        next => exact .refl
        next => exact expireEach_writes stored ticking
  | purgeTerminal options => exact (kept options rfl).elim
  | importLegacy source payloads archives =>
    unfold step run update
    dsimp only
    cases done : importLegacy c source payloads clock l with
    | error err => exact .refl
    | ok result =>
      refine importLegacy_writes whole ?_ ticking done
      exact fun guard p mem => unmarked guard _ (mem_map.mpr ⟨p, mem, rfl⟩)
  | _ => exact tokened rfl

omit stored whole accept ticking unmarked

def cutoff (options : PurgeOptions) (clock : Nat → ZonedTime) : ZonedTime :=
  (options.now.orClock (clock 0)).subtractCalendarMonths retentionMonths

theorem step_purges {options : PurgeOptions} {clock : Nat → ZonedTime} :
    LedgerPurges c (cutoff options clock) l (l.step c ⟨.purgeTerminal options, clock⟩) := by
  unfold step run update
  dsimp only
  cases done : purgeTerminal c options (clock 0) l with
  | ok result => exact purgeTerminal_purges done
  | error e => exact .refl

end Ledger

end GasCity
