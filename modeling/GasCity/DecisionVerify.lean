import Mathlib.Data.Prod.Lex
import GasCity.DecisionRetry
import GasCity.SortKey

namespace GasCity.Ledger

open List KeyedList

variable {F : Type} (c : Crypto F) (v : Verifier) (l : Ledger F)

def recordVerifies (r : DecisionRecord) : Bool :=
  (r.payload.valid c &&
    !(r.isLocal && (r.payload.schema ≠ executionSchemaVersion || r.approval.isSome ||
      r.signature.isSome)) && r.recordRevision ≠ 0 && r.storeRevision ≠ 0) &&
    (l.stateExpiry.find r.indexKey).isSome &&
    (r.isLocal || !(r.state.requiresApproval && (r.approval.isNone || r.signature.isNone))) &&
    (r.isLocal || match r.approval, r.signature with
      | none, none => true
      | some a, some s => (v.verify c r.payload a s).isOk
      | _, _ => false) &&
    decide (r.storeRevision ≤ l.storeRevision)

def indexVerifies : Bool :=
  (l.stateExpiry.rows.all fun k => (l.decisions.find k.decisionID).any fun r => r.indexKey == k) &&
    l.stateExpiry.rows.length == l.decisions.rows.length

def countsVerify : Bool :=
  [DecisionState.proposed, .approved, .admitted, .refusedAfterRace, .expired, .revoked, .claimed,
    .outcomeRecorded].all fun state =>
      l.stateCounts state == l.decisions.rows.countP fun r => decide (r.state = state)

/-- How many audits of each decision were read, and the state the last one led to. -/
abbrev AuditsRead := String → Nat × Option DecisionState

def auditFollows (r : DecisionRecord) (read : Nat × Option DecisionState) (a : TransitionAudit) : Bool :=
  let expected := read.1 + 1
  let localEdge := expected == 2 && r.isLocal && read.2 == some .proposed &&
    (a.target == .admitted || a.target == .refusedAfterRace)
  a.recordRevision == expected &&
    !(expected == 1 && (a.source.isSome || a.target ≠ .proposed)) &&
    !(decide (1 < expected) && !localEdge &&
      (read.2 ≠ a.source || !a.source.any fun source => source.isAllowedTransition a.target))

def auditVerifies (read : AuditsRead) (a : TransitionAudit) : Bool :=
  a.decisionID ≠ "" && a.recordRevision ≠ 0 && a.storeRevision ≠ 0 &&
    decide (a.storeRevision ≤ l.storeRevision) && !a.time.isZero && validateText a.reason true &&
    (l.decisions.find a.decisionID).any fun r => auditFollows r (read a.decisionID) a

def readAudits : AuditsRead → List TransitionAudit → Option AuditsRead
  | read, [] => some read
  | read, a :: rest =>
    if l.auditVerifies read a then
      readAudits (Function.update read a.decisionID (a.recordRevision, some a.target)) rest
    else none

def auditOrder : List TransitionAudit :=
  l.transitions.rows.insertionSort fun a b =>
    a.decisionID < b.decisionID ∨ (a.decisionID = b.decisionID ∧ a.recordRevision ≤ b.recordRevision)

def auditsVerify : Bool :=
  (l.readAudits (fun _ => (0, none)) l.auditOrder).any fun read =>
    l.decisions.rows.all fun r => read r.id == (r.recordRevision, some r.state)

def receiptIdentity (receipt : IdempotencyRecord F) : Option (String × Nat) :=
  match receipt.kind, receipt.created, receipt.transition with
  | .create, some r, none => some (r.id, r.storeRevision)
  | .create, _, _ => none
  | kind, none, some t =>
    if kind = .ingest ∧ t.state ≠ .approved then none
    else if kind = .localAdmission ∧ t.state ≠ .admitted ∧ t.state ≠ .refusedAfterRace then none
    else some (t.decisionID, t.storeRevision)
  | _, _, _ => none

def receiptVerifies (row : String × IdempotencyRecord F) : Bool :=
  c.isDigest row.2.fingerprint && (receiptIdentity row.2).any fun (id, revision) =>
    revision ≠ 0 && decide (revision ≤ l.storeRevision) && row.2.decisionID ≠ "" &&
      row.2.decisionID == id && (l.receiptByDecision.find (id, row.1)).isSome

def receiptsVerify : Bool :=
  l.idempotency.rows.all (receiptVerifies c l) && l.receiptByDecision.rows.all fun (id, token) =>
    id ≠ "" && token ≠ "" && (l.idempotency.find token).any fun row => row.2.decisionID == id

def marksVerify : Bool :=
  l.purged.rows.all fun (id, mark) => id ≠ "" && c.isDigest mark && (l.decisions.find id).isNone

def verifies : Bool :=
  l.decisions.rows.all (recordVerifies c v l) && l.indexVerifies && l.countsVerify &&
    l.auditsVerify && receiptsVerify c l && marksVerify c l

def Told (m : Audits) : Prop :=
  ∀ a ∈ m.rows, a.time.isZero = false ∧ validateText a.reason true = true

structure Verifiable : Prop where
  valid : ∀ r ∈ l.decisions.rows, r.payload.valid c = true
  audits : Told l.transitions
  receipts : ∀ token row, l.idempotency.find token = some (token, row) → token ≠ "" ∧
    row.Genuine c l ∧ (l.receiptByDecision.find (row.decisionID, token)).isSome = true
  marks : ∀ id mark, l.purged.find id = some (id, mark) →
    id ≠ "" ∧ c.isDigest mark = true ∧ l.decisions.find id = none

variable {c v l} {accepted : ApprovalRule}
  {r : DecisionRecord} {read : AuditsRead} {rest : List TransitionAudit}

theorem id_ne_empty (valid : r.payload.valid c = true) : r.id ≠ "" := by
  simp only [DecisionPayload.valid, DecisionPayload.validTexts, all_cons, Bool.and_eq_true] at valid
  exact LedgerTx.ne_empty_of_validateText valid.1.1.1.1.1.1.1.1.1

theorem recordVerifies_of (ok : l.Consistent fun p a s => v.verify c p a s = .ok ())
    (settled : l.Settled) (verifiable : l.Verifiable c) (mem : r ∈ l.decisions.rows) :
    recordVerifies c v l r = true := by
  have found := find_key_of_mem mem
  have revision := ok.revision_le found
  have started := (ok.trails _ _ found).started
  have indexed : (l.stateExpiry.find r.indexKey).isSome = true :=
    (ok.indexed r.indexKey).mpr ⟨r, found, rfl⟩
  have positive : r.storeRevision ≠ 0 := by omega
  have first : r.recordRevision ≠ 0 := by omega
  unfold recordVerifies
  rcases ok.approvals _ _ found with ⟨lane, a, s, given, signed, verified⟩ | ⟨given, signed, -, state⟩
  · simp [verifiable.valid r mem, lane, given, signed, verified, indexed, revision.2, positive, first,
      Except.isOk, Except.toBool]
  · rcases state with lane | early
    · have schema := (settled r mem lane).2
      simp [verifiable.valid r mem, lane, given, signed, schema, indexed, revision.2, positive, first]
    · by_cases lane : r.isLocal = true
      · have schema := (settled r mem lane).2
        simp [verifiable.valid r mem, lane, given, signed, schema, indexed, revision.2, positive, first]
      · simp [verifiable.valid r mem, lane, given, signed, early, indexed, revision.2, positive, first]

theorem indexVerifies_of (ok : l.Consistent accepted) : l.indexVerifies = true := by
  have perm : l.stateExpiry.rows.Perm (l.decisions.rows.map DecisionRecord.indexKey) := by
    have keys : l.stateExpiry.rows.Nodup := by simpa using l.stateExpiry.nodup
    have images : (l.decisions.rows.map DecisionRecord.indexKey).Nodup := by
      refine List.Nodup.of_map IndexKey.decisionID ?_
      rw [map_map]
      exact l.decisions.nodup
    refine (perm_ext_iff_of_nodup keys images).mpr fun k => ?_
    have entry : k ∈ l.stateExpiry.rows ↔ (l.stateExpiry.find k).isSome = true := by
      rw [Option.isSome_iff_exists, ← KeyedList.mem_keys_iff]
      simp [KeyedList.keys]
    rw [entry, ok.isSome_index k, mem_map]
  unfold indexVerifies
  rw [Bool.and_eq_true, all_eq_true, beq_iff_eq, perm.length_eq, length_map]
  refine ⟨fun k mem => ?_, rfl⟩
  obtain ⟨r, there, rfl⟩ := mem_map.mp (perm.mem_iff.mp mem)
  have found : l.decisions.find r.indexKey.decisionID = some r := find_key_of_mem there
  simp [found]

theorem countsVerify_of (ok : l.Consistent accepted) : l.countsVerify = true := by
  simp [countsVerify, ok.counted]

structure ReadUpTo (l : Ledger F) (read : AuditsRead) (rest : List TransitionAudit) : Prop where
  ordered : rest.Pairwise fun a b => a.decisionID = b.decisionID → a.recordRevision < b.recordRevision
  stored : ∀ a ∈ rest, a ∈ l.transitions.rows
  ahead : ∀ a ∈ rest, (read a.decisionID).1 < a.recordRevision
  covers : ∀ a ∈ l.transitions.rows, a.recordRevision ≤ (read a.decisionID).1 ∨ a ∈ rest
  last : ∀ id, read id = (0, none) ∨
    ∃ a, l.transitions.find (id, (read id).1) = some a ∧ (read id).2 = some a.target

theorem ReadUpTo.step {a : TransitionAudit} (upTo : ReadUpTo l read (a :: rest)) :
    ReadUpTo l (Function.update read a.decisionID (a.recordRevision, some a.target)) rest := by
  obtain ⟨later, ordered⟩ := pairwise_cons.mp upTo.ordered
  refine ⟨ordered, fun b mem => upTo.stored b (mem_cons_of_mem _ mem), fun b mem => ?_,
    fun b mem => ?_, fun id => ?_⟩
  · by_cases same : b.decisionID = a.decisionID
    · rw [same, Function.update_self]
      exact later b mem same.symm
    · rw [Function.update_of_ne same]
      exact upTo.ahead b (mem_cons_of_mem _ mem)
  · have before := upTo.covers b mem
    have front := upTo.ahead a mem_cons_self
    by_cases same : b.decisionID = a.decisionID
    · rw [same, Function.update_self]
      rcases before with read | here
      · rw [same] at read
        exact .inl (by omega)
      · rcases mem_cons.mp here with rfl | here
        · exact .inl (Nat.le_refl _)
        · exact .inr here
    · rw [Function.update_of_ne same]
      rcases before with read | here
      · exact .inl read
      · rcases mem_cons.mp here with rfl | here
        · exact (same rfl).elim
        · exact .inr here
  · by_cases same : id = a.decisionID
    · subst same
      rw [Function.update_self]
      exact .inr ⟨a, find_key_of_mem (upTo.stored a mem_cons_self), rfl⟩
    · rw [Function.update_of_ne same]
      exact upTo.last id

theorem auditFollows_of {a : TransitionAudit} (upTo : ReadUpTo l read (a :: rest))
    (trail : Trail l.transitions r) (mine : r.id = a.decisionID) : auditFollows r (read a.decisionID) a = true := by
  have here := find_key_of_mem (upTo.stored a mem_cons_self)
  rw [← mine] at here
  have numbered := (trail.numbered a.recordRevision).mp (Option.isSome_iff_exists.mpr ⟨a, here⟩)
  have front := upTo.ahead a mem_cons_self
  obtain ⟨later, -⟩ := pairwise_cons.mp upTo.ordered
  -- the audit right after those that were read is the next one to come
  have next : a.recordRevision = (read a.decisionID).1 + 1 := by
    by_contra gap
    have between := (trail.numbered ((read a.decisionID).1 + 1)).mpr ⟨by omega, by omega⟩
    obtain ⟨b, found⟩ := Option.isSome_iff_exists.mp between
    have key := key_of_find found
    obtain ⟨sameID, number⟩ := Prod.mk.inj key
    rcases upTo.covers b (mem_of_find found) with read | mem
    · rw [sameID, mine] at read
      omega
    · rcases mem_cons.mp mem with rfl | mem
      · omega
      · have := later b mem (mine.symm.trans sameID.symm)
        omega
  have last := upTo.last a.decisionID
  generalize read a.decisionID = seen at next last front
  obtain ⟨count, state⟩ := seen
  dsimp only at next front last
  rcases last with none | ⟨b, found, target⟩
  · cases none
    rw [next] at here
    obtain ⟨source, target⟩ := trail.opened a here
    simp [auditFollows, next, source, target]
  · rw [← mine] at found
    have counted := (trail.numbered count).mp (Option.isSome_iff_exists.mpr ⟨b, found⟩)
    rw [next] at here
    obtain ⟨source, -, edge⟩ := trail.chained count b a found here
    have past : 1 < count + 1 := by omega
    have notFirst : ¬ count = 0 := by omega
    rcases edge with allowed | ⟨lane, one, proposed, answer⟩
    · simp [auditFollows, next, source, target, allowed, notFirst]
    · rcases answer with admitted | refused
      · simp [auditFollows, next, target, lane, one, proposed, admitted]
      · simp [auditFollows, next, target, lane, one, proposed, refused]

theorem readAudits_of (ok : l.Consistent accepted) (verifiable : l.Verifiable c)
    (upTo : ReadUpTo l read rest) :
    ∃ read', l.readAudits read rest = some read' ∧ ReadUpTo l read' [] := by
  induction rest generalizing read with
  | nil => exact ⟨read, rfl, upTo⟩
  | cons a rest ih =>
    have mem := upTo.stored a mem_cons_self
    have found : ∃ r, l.decisions.find a.decisionID = some r := by
      cases there : l.decisions.find a.decisionID with
      | some r => exact ⟨r, rfl⟩
      | none =>
        have missing := ok.owned _ a.recordRevision there
        rw [find_key_of_mem mem] at missing
        cases missing
    obtain ⟨r, found⟩ := found
    have mine : r.id = a.decisionID := key_of_find found
    have trail := ok.trails _ _ found
    have follows := auditFollows_of upTo trail mine
    have named : a.decisionID ≠ "" :=
      mine ▸ id_ne_empty (verifiable.valid r (mem_of_find found))
    have positive : a.storeRevision ≠ 0 := by
      have := ok.stamped.positive a mem
      omega
    have first : a.recordRevision ≠ 0 := by
      have := upTo.ahead a mem_cons_self
      omega
    have verified : l.auditVerifies read a = true := by
      simp [auditVerifies, named, first, positive, ok.stamped.bounded a mem,
        (verifiable.audits a mem).1, (verifiable.audits a mem).2, found, follows]
    unfold readAudits
    rw [if_pos verified]
    exact ih upTo.step

theorem auditsVerify_of (ok : l.Consistent accepted) (verifiable : l.Verifiable c) :
    l.auditsVerify = true := by
  have mem (a : TransitionAudit) : a ∈ l.auditOrder ↔ a ∈ l.transitions.rows := mem_insertionSort _
  have numbered (a : TransitionAudit) (stored : a ∈ l.transitions.rows) : 1 ≤ a.recordRevision := by
    have found := find_key_of_mem stored
    cases there : l.decisions.find a.decisionID with
    | none =>
      rw [ok.owned _ a.recordRevision there] at found
      cases found
    | some r =>
      have mine : r.id = a.decisionID := key_of_find there
      refine (((ok.trails _ _ there).numbered a.recordRevision).mp ?_).1
      rw [mine]
      exact Option.isSome_iff_exists.mpr ⟨a, found⟩
  have ordered : l.auditOrder.Pairwise fun a b =>
      a.decisionID = b.decisionID → a.recordRevision < b.recordRevision := by
    have sorted := insertionSort_increasing (fun a : TransitionAudit =>
      toLex (a.decisionID, a.recordRevision)) (fun _ _ => Prod.Lex.toLex_le_toLex.symm)
      l.transitions.nodup
    refine sorted.imp fun order same => ?_
    rcases Prod.Lex.toLex_lt_toLex.mp order with less | ⟨-, lt⟩
    · exact (less.ne same).elim
    · exact lt
  obtain ⟨read, done, upTo⟩ := readAudits_of ok verifiable
    (⟨ordered, fun a here => (mem a).mp here, fun a here => numbered a ((mem a).mp here),
      fun a stored => .inr ((mem a).mpr stored), fun _ => .inl rfl⟩ :
      ReadUpTo l (fun _ => (0, none)) l.auditOrder)
  unfold auditsVerify
  rw [done, Option.any_some, all_eq_true]
  intro r there
  have trail := ok.trails _ _ (find_key_of_mem there)
  obtain ⟨newest, found⟩ := Option.isSome_iff_exists.mp
    ((trail.numbered r.recordRevision).mpr ⟨trail.started, Nat.le_refl _⟩)
  have covered : r.recordRevision ≤ (read r.id).1 := by
    have key := key_of_find found
    obtain ⟨sameID, number⟩ := Prod.mk.inj key
    rcases upTo.covers newest (mem_of_find found) with le | none
    · rwa [sameID, number] at le
    · cases none
  have started := trail.started
  rcases upTo.last r.id with none | ⟨a, latest, target⟩
  · rw [none] at covered
    omega
  · have top := (trail.numbered (read r.id).1).mp (Option.isSome_iff_exists.mpr ⟨a, latest⟩)
    have count : (read r.id).1 = r.recordRevision := by omega
    rw [count] at latest
    rw [beq_iff_eq]
    exact Prod.ext count (target.trans (congrArg some (trail.ends a latest).1))

theorem receiptsVerify_of (listed : l.Receipted) (verifiable : l.Verifiable c) :
    receiptsVerify c l = true := by
  have named (id : String) (found : (l.decisions.find id).isSome = true) : id ≠ "" := by
    obtain ⟨r, there⟩ := Option.isSome_iff_exists.mp found
    have mine : r.id = id := key_of_find there
    exact mine ▸ id_ne_empty (verifiable.valid r (mem_of_find there))
  unfold receiptsVerify
  rw [Bool.and_eq_true, all_eq_true, all_eq_true]
  refine ⟨fun row mem => ?_, fun k mem => ?_⟩
  · obtain ⟨-, ⟨⟨q, fingerprint, -⟩, found, told⟩, index⟩ :=
      verifiable.receipts row.1 row.2 (find_key_of_mem mem)
    have digest : c.isDigest row.2.fingerprint = true := fingerprint ▸ c.fingerprint_isDigest q
    have id := named _ found
    rcases told with ⟨kind, moved, r, created, ofDecision, positive, bounded⟩ |
      ⟨kind, created, t, moved, ofDecision, positive, bounded, ingest, admission⟩
    · have stamped : r.storeRevision ≠ 0 := by omega
      simp [receiptVerifies, receiptIdentity, kind, moved, created, digest, ofDecision, bounded, id,
        index, stamped]
    · have stamped : t.storeRevision ≠ 0 := by omega
      cases is : row.2.kind <;> simp [is] at kind ingest admission <;>
        simp [receiptVerifies, receiptIdentity, is, moved, created, digest, ofDecision, bounded, id,
          index, stamped, ingest]
      rcases admission with admitted | refused
      · simp [admitted, bounded, stamped, index]
      · simp [refused, bounded, stamped, index]
  · obtain ⟨id, token⟩ := k
    have there := find_key_of_mem mem
    obtain ⟨row, found, rfl⟩ := listed id token (by rw [there]; rfl)
    obtain ⟨tokenNamed, ⟨-, present, -⟩, -⟩ := verifiable.receipts token row found
    simp [named _ present, tokenNamed, found]

theorem marksVerify_of (verifiable : l.Verifiable c) : marksVerify c l = true := by
  unfold marksVerify
  rw [all_eq_true]
  intro row mem
  obtain ⟨named, digest, gone⟩ := verifiable.marks row.1 row.2 (find_key_of_mem mem)
  simp [named, digest, gone]

theorem verifies_of (ok : l.Consistent fun p a s => v.verify c p a s = .ok ()) (settled : l.Settled)
    (listed : l.Receipted) (verifiable : l.Verifiable c) : verifies c v l = true := by
  simp only [verifies, Bool.and_eq_true, all_eq_true]
  exact ⟨⟨⟨⟨⟨fun r mem => recordVerifies_of ok settled verifiable mem, indexVerifies_of ok⟩,
    countsVerify_of ok⟩, auditsVerify_of ok verifiable⟩, receiptsVerify_of listed verifiable⟩,
    marksVerify_of verifiable⟩

end GasCity.Ledger
