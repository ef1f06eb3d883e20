import GasCity.DecisionVerify

namespace GasCity

open KeyedList

section

variable {F : Type} {c : Crypto F} {accepted : ApprovalRule} {l l' : Ledger F}

theorem IdempotencyRecord.Genuine.mono {receipt : IdempotencyRecord F} (genuine : receipt.Genuine c l)
    (grown : l.storeRevision ≤ l'.storeRevision)
    (kept : (l.decisions.find receipt.decisionID).isSome = true →
      (l'.decisions.find receipt.decisionID).isSome = true) : receipt.Genuine c l' := by
  obtain ⟨asked, found, told⟩ := genuine
  refine ⟨asked, kept found, told.imp ?_ ?_⟩
  · rintro ⟨kind, moved, r, created, ofDecision, positive, bounded⟩
    exact ⟨kind, moved, r, created, ofDecision, positive, bounded.trans grown⟩
  · rintro ⟨kind, created, t, moved, ofDecision, positive, bounded, rest⟩
    exact ⟨kind, created, t, moved, ofDecision, positive, bounded.trans grown, rest⟩

namespace Ledger.Verifiable

variable {r : DecisionRecord}

theorem isSome_set {m : KeyedList DecisionRecord.id} {id : String}
    (found : (m.find id).isSome = true) : ((m.set r).find id).isSome = true := by
  rw [find_set]
  split
  next => rfl
  next => exact found

theorem told_set {m : Audits} {a : TransitionAudit} (before : Told m) (ticking : a.time.isZero = false)
    (text : validateText a.reason true = true) : Told (m.set a) :=
  forall_mem_set before ⟨ticking, text⟩

theorem set {audits : Audits} (before : l.Verifiable c) (valid : r.payload.valid c = true)
    (unmarked : l.purged.find r.id = none) (told : Told audits)
    (decisions : l'.decisions = l.decisions.set r) (transitions : l'.transitions = audits)
    (idempotency : l'.idempotency = l.idempotency)
    (receipts : l'.receiptByDecision = l.receiptByDecision) (purged : l'.purged = l.purged)
    (grown : l.storeRevision ≤ l'.storeRevision) : l'.Verifiable c := by
  refine ⟨?_, ?_, fun token row found => ?_, fun id mark found => ?_⟩
  · rw [decisions]
    exact forall_mem_set before.valid valid
  · rw [transitions]
    exact told
  · rw [idempotency] at found
    obtain ⟨named, genuine, index⟩ := before.receipts token row found
    refine ⟨named, genuine.mono grown fun there => ?_, by rw [receipts]; exact index⟩
    rw [decisions]
    exact isSome_set there
  · rw [purged] at found
    obtain ⟨named, digest, gone⟩ := before.marks id mark found
    refine ⟨named, digest, ?_⟩
    rw [decisions, find_set, if_neg, gone]
    rintro rfl
    rw [unmarked] at found
    cases found

theorem write (write : LedgerWrite c accepted True l l') (before : l.Verifiable c) :
    l'.Verifiable c := by
  cases write with
  | @opened r time reason missing unmarked valid _ _ _ _ _ _ text ticking =>
    exact before.set valid (unmarked trivial)
      (told_set (a := r.opening time reason r.storeRevision) before.audits (ticking trivial) text)
      rfl rfl rfl rfl rfl (Nat.le_add_right _ _)
  | @admitted r state time opening reason missing unmarked valid _ _ _ _ _ _ _ _ openingText text
      ticking =>
    have entered : (l.enter r (r.opening time opening r.storeRevision)).Verifiable c :=
      before.set valid unmarked (told_set (a := r.opening time opening r.storeRevision) before.audits
        (ticking trivial) openingText) rfl rfl rfl rfl rfl (Nat.le_add_right _ _)
    exact entered.set (r := r.next state (l.storeRevision + 2)) valid unmarked
      (told_set (a := (r.next state (l.storeRevision + 2)).leaving r.state time reason) entered.audits
        (ticking trivial) text) rfl rfl rfl rfl rfl (Nat.le_add_right _ _)
  | @ingested r time opening reason missing unmarked valid _ _ _ _ _ _ openingText text ticking =>
    exact before.set valid unmarked (told_set (a := r.leaving .proposed time reason)
      (told_set (a := r.opening time opening (l.storeRevision + 1)) before.audits (ticking trivial)
        openingText) (ticking trivial) text) rfl rfl rfl rfl rfl (Nat.le_add_right _ _)
  | @moved old new time reason moves text ticking =>
    obtain ⟨found, payload, -⟩ := moves
    have same : new.id = old.id := congrArg DecisionPayload.decisionID payload
    have unmarked : l.purged.find new.id = none := by
      cases marked : l.purged.find new.id with
      | none => rfl
      | some mark =>
        have key : mark.1 = new.id := key_of_find marked
        have gone := (before.marks new.id mark.2 (by rw [marked, ← key])).2.2
        rw [same, found] at gone
        cases gone
    refine before.set ?_ unmarked (told_set (a := new.leaving old.state time reason) before.audits
      (ticking trivial) text) rfl rfl rfl rfl rfl (Nat.le_add_right _ _)
    rw [payload]
    exact before.valid old (mem_of_find found)
  | @receipted token receipt free named genuine =>
    refine ⟨before.valid, before.audits, fun token' row found => ?_, before.marks⟩
    have found : (l.idempotency.set (token, receipt)).find token' = some (token', row) := found
    rw [find_set] at found
    show _ ∧ _ ∧ ((l.receiptByDecision.set (receipt.decisionID, token)).find _).isSome = true
    rw [find_set]
    split at found
    next same =>
      cases same
      cases found
      exact ⟨named, genuine, by simp⟩
    next =>
      obtain ⟨named', genuine', index⟩ := before.receipts token' row found
      refine ⟨named', genuine', ?_⟩
      split
      next => rfl
      next => exact index
  | imported => exact { before with }

theorem remove (found : l.decisions.find r.id = some r) (before : l.Verifiable c) :
    (l.remove c r).Verifiable c := by
  refine ⟨fun s mem => before.valid s (List.mem_of_mem_filter mem),
    fun a mem => before.audits a (List.mem_of_mem_filter mem), fun token row there => ?_,
    fun id mark marked => ?_⟩
  · have there : (l.idempotency.keep fun row =>
        (l.receiptByDecision.find (r.id, row.1)).isNone).find token = some (token, row) := there
    rw [find_keep, Option.filter_eq_some_iff] at there
    obtain ⟨stored, unlisted⟩ := there
    obtain ⟨named, genuine, index⟩ := before.receipts token row stored
    have other : row.decisionID ≠ r.id := by
      intro same
      rw [same] at index
      simp [Option.isNone_iff_eq_none] at unlisted
      rw [unlisted] at index
      cases index
    refine ⟨named, genuine.mono (Nat.le_add_right _ _) fun present => ?_, ?_⟩
    · show ((l.decisions.erase r.id).find row.decisionID).isSome = true
      rw [find_erase, if_neg other]
      exact present
    · rw [LedgerPurge.find_receiptByDecision, if_neg other]
      exact index
  · have marked : (l.purged.set (r.id, c.fingerprint (.purged r.payload.normalized))).find id =
      some (id, mark) := marked
    show _ ∧ _ ∧ (l.decisions.erase r.id).find id = none
    rw [find_set] at marked
    rw [find_erase]
    split at marked
    next same =>
      cases marked
      refine ⟨Ledger.id_ne_empty (before.valid r (mem_of_find found)),
        c.fingerprint_isDigest _, if_pos rfl⟩
    next other =>
      obtain ⟨named, digest, gone⟩ := before.marks id mark marked
      exact ⟨named, digest, by rw [gone, ite_self]⟩

end Ledger.Verifiable

namespace Ledger

structure SameOf (l l' : Ledger F) (id : String) : Prop where
  record : l'.decisions.find id = l.decisions.find id
  audits : ∀ n, l'.transitions.find (id, n) = l.transitions.find (id, n)
  index : ∀ k : IndexKey, k.decisionID = id → l'.stateExpiry.find k = l.stateExpiry.find k
  tokens : ∀ token, l'.receiptByDecision.find (id, token) = l.receiptByDecision.find (id, token)
  receipts : ∀ token row, row.decisionID = id →
    (l'.idempotency.find token = some (token, row) ↔ l.idempotency.find token = some (token, row))

structure GoneFrom (l : Ledger F) (id : String) : Prop where
  record : l.decisions.find id = none
  audits : ∀ n, l.transitions.find (id, n) = none
  index : ∀ k : IndexKey, k.decisionID = id → l.stateExpiry.find k = none
  tokens : ∀ token, l.receiptByDecision.find (id, token) = none
  receipts : ∀ token row, row.decisionID = id → l.idempotency.find token ≠ some (token, row)
  marked : (l.purged.find id).isSome = true

namespace SameOf

variable {l'' : Ledger F} {id : String}

theorem trans (first : SameOf l l' id) (second : SameOf l' l'' id) : SameOf l l'' id where
  record := second.record.trans first.record
  audits n := (second.audits n).trans (first.audits n)
  index k mine := (second.index k mine).trans (first.index k mine)
  tokens token := (second.tokens token).trans (first.tokens token)
  receipts token row mine := (second.receipts token row mine).trans (first.receipts token row mine)

theorem gone (same : SameOf l l' id) (before : GoneFrom l id)
    (marked : (l'.purged.find id).isSome = true) : GoneFrom l' id where
  record := same.record.trans before.record
  audits n := (same.audits n).trans (before.audits n)
  index k mine := (same.index k mine).trans (before.index k mine)
  tokens token := (same.tokens token).trans (before.tokens token)
  receipts token row mine there :=
    before.receipts token row mine ((same.receipts token row mine).mp there)
  marked := marked

end SameOf

structure Passing (c : Crypto F) (v : Verifier) (l : Ledger F) : Prop where
  consistent : l.Consistent fun p a s => v.verify c p a s = .ok ()
  settled : l.Settled
  listed : l.Receipted
  verifiable : l.Verifiable c

variable {v : Verifier}

theorem remove_gone {r : DecisionRecord} (passing : l.Passing c v)
    (found : l.decisions.find r.id = some r) : GoneFrom (l.remove c r) r.id where
  record := by
    show (l.decisions.erase r.id).find r.id = none
    rw [find_erase, if_pos rfl]
  audits n := (Consistent.find_transitions_remove r r.id n).trans (if_pos rfl)
  index k mine := by
    show (l.stateExpiry.erase r.indexKey).find k = none
    rw [find_erase]
    split
    next => rfl
    next other =>
      cases there : l.stateExpiry.find k with
      | none => rfl
      | some entry =>
        obtain ⟨s, stored, key⟩ := (passing.consistent.indexed k).mp (by rw [there]; rfl)
        rw [mine, found] at stored
        cases stored
        exact (other key.symm).elim
  tokens token := (LedgerPurge.find_receiptByDecision r.id token).trans (if_pos rfl)
  receipts token row mine there := by
    have there : (l.idempotency.keep fun row =>
        (l.receiptByDecision.find (r.id, row.1)).isNone).find token = some (token, row) := there
    rw [find_keep, Option.filter_eq_some_iff, Option.isNone_iff_eq_none] at there
    have index := (passing.verifiable.receipts token row there.1).2.2
    rw [mine, there.2] at index
    cases index
  marked := by
    show ((l.purged.set _).find r.id).isSome = true
    rw [find_set, if_pos rfl]
    rfl

theorem remove_same {r : DecisionRecord} (passing : l.Passing c v) {id : String} (other : id ≠ r.id) :
    SameOf l (l.remove c r) id where
  record := by
    show (l.decisions.erase r.id).find id = _
    rw [find_erase, if_neg other]
  audits n := (Consistent.find_transitions_remove r id n).trans (if_neg other)
  index k mine := by
    show (l.stateExpiry.erase r.indexKey).find k = _
    rw [find_erase, if_neg]
    rintro rfl
    exact other mine.symm
  tokens token := (LedgerPurge.find_receiptByDecision id token).trans (if_neg other)
  receipts token row mine := by
    refine ⟨fun there => ?_, fun there =>
      LedgerPurge.receipt_kept passing.listed there (mine.trans_ne other)⟩
    have there : (l.idempotency.keep _).find token = some (token, row) := there
    rw [find_keep, Option.filter_eq_some_iff] at there
    exact there.1

theorem purges_classified {cutoff : ZonedTime} (purges : LedgerPurges c cutoff l l')
    (passing : l.Passing c v) : l'.Passing c v ∧ ∀ id, (SameOf l l' id ∧
        ((l.purged.find id).isSome = true → (l'.purged.find id).isSome = true)) ∨
      ∃ r, l.decisions.find id = some r ∧ LedgerTx.Purgeable l cutoff r ∧ GoneFrom l' id := by
  induction purges with
  | refl =>
    refine ⟨passing, fun id => .inl ⟨?_, fun marked => marked⟩⟩
    exact ⟨rfl, fun _ => rfl, fun _ _ => rfl, fun _ => rfl, fun _ _ _ => Iff.rfl⟩
  | @tail m _ _ purge ih =>
    obtain ⟨before, classified⟩ := ih
    cases purge with
    | @removed r a found terminal latest target old =>
      have marks (id : String) (marked : (m.purged.find id).isSome = true) :
          ((m.remove c r).purged.find id).isSome = true := by
        show ((m.purged.set _).find id).isSome = true
        rw [find_set]
        split
        next => rfl
        next => exact marked
      refine ⟨⟨before.consistent.remove found,
        fun s mem => before.settled s (List.mem_of_mem_filter mem),
        LedgerPurge.receipts_listed before.listed, before.verifiable.remove found⟩, fun id => ?_⟩
      by_cases mine : id = r.id
      · subst mine
        rcases classified r.id with ⟨same, -⟩ | ⟨s, -, -, gone⟩
        · refine .inr ⟨r, same.record ▸ found, ⟨terminal, a, ?_, target, old⟩, remove_gone before found⟩
          rw [← same.audits]
          exact latest
        · rw [gone.record] at found
          cases found
      · have step := remove_same before mine
        rcases classified id with ⟨same, kept⟩ | ⟨s, stored, purgeable, gone⟩
        · exact .inl ⟨same.trans step, fun marked => marks id (kept marked)⟩
        · exact .inr ⟨s, stored, purgeable, step.gone gone (marks id gone.marked)⟩

end Ledger

namespace LedgerWrite

theorem present (write : LedgerWrite c accepted True l l') {id : String}
    (found : (l.decisions.find id).isSome = true) : (l'.decisions.find id).isSome = true := by
  cases write with
  | opened | ingested | moved => exact Ledger.Verifiable.isSome_set found
  | admitted => exact Ledger.Verifiable.isSome_set (Ledger.Verifiable.isSome_set found)
  | receipted | imported => exact found

theorem marks (write : LedgerWrite c accepted True l l') : l'.purged = l.purged := by
  cases write <;> rfl

theorem passings {v : Verifier}
    (writes : LedgerWrites c (fun p a s => v.verify c p a s = .ok ()) True l l')
    (passing : l.Passing c v) : l'.Passing c v ∧ l'.purged = l.purged ∧
      ∀ id, (l.decisions.find id).isSome = true → (l'.decisions.find id).isSome = true := by
  induction writes with
  | refl => exact ⟨passing, rfl, fun _ found => found⟩
  | tail _ write ih =>
    obtain ⟨before, same, present⟩ := ih
    refine ⟨⟨write.consistent before.consistent before.settled, write.settled before.settled,
      write.receipts_listed before.listed, before.verifiable.write write⟩, write.marks.trans same,
      fun id found => write.present (present id found)⟩

end LedgerWrite

end

/-- A call that does not bring back what was purged: it opens no decision that carries a mark. Its
times are in zones of whole minutes, its clock tells a time, and if it carries an approval it is given the one verifier. -/
structure LedgerEvent.Honours {F : Type} (v : Verifier) (l : Ledger F) (e : LedgerEvent) : Prop where
  unmarked : ∀ id ∈ e.call.unlooked, l.purged.find id = none
  window : e.call.WholeWindow
  approval : e.call.WholeApproval
  ticking : ∀ n, (e.clock n).isZero = false
  verifier : ∀ w, e.call.verifier = some w → w = v

namespace Ledger

variable {F : Type} [DecidableEq F] {c : Crypto F} {v : Verifier} {l : Ledger F} {e : LedgerEvent}

theorem step_writes_honoured (passing : l.Passing c v) (honours : e.Honours v l)
    (kept : ∀ options, e.call ≠ .purgeTerminal options) :
    LedgerWrites c (fun p a s => v.verify c p a s = .ok ()) True l (l.step c e) := by
  refine step_writes passing.consistent.whole honours.window (fun p a s approves => ?_)
    (fun _ => honours.ticking) (fun _ => honours.unmarked) kept
  obtain ⟨w, is, verified⟩ := verified_of_approves honours.approval approves
  cases honours.verifier w is
  exact verified

theorem step_passing (passing : l.Passing c v) (honours : e.Honours v l) : (l.step c e).Passing c v := by
  rcases e.purges_or with ⟨options, clock, rfl⟩ | kept
  · exact (purges_classified step_purges passing).1
  · exact (LedgerWrite.passings (step_writes_honoured passing honours kept) passing).1

theorem after_passing {events : List LedgerEvent}
    (honours : Along (step c) (LedgerEvent.Honours v) ({} : Ledger F) events) :
    (after c events).Passing c v := by
  have keeps (l : Ledger F) (e : LedgerEvent) (passing : l.Passing c v) (now : e.Honours v l) :
      (l.step c e).Passing c v := step_passing passing now
  refine Along.invariant keeps honours ⟨.empty, fun r mem => (List.not_mem_nil mem).elim,
    fun _ _ there => ?_, ⟨fun r mem => (List.not_mem_nil mem).elim, fun a mem =>
      (List.not_mem_nil mem).elim, fun _ _ there => ?_, fun _ _ there => ?_⟩⟩
  all_goals cases there

/-- After every run whose calls open no purged decision: only terminal decisions that are old enough
are purged, a purge takes all of a decision and nothing else, a purged decision does not come back,
and the ledger passes. -/
theorem purged_stays_away (c : Crypto F) (v : Verifier) (events : List LedgerEvent) (e : LedgerEvent)
    (honours : Along (step c) (LedgerEvent.Honours v) ({} : Ledger F) (events ++ [e])) :
    verifies c v (after c (events ++ [e])) = true ∧
      (∀ id, ((after c (events ++ [e])).purged.find id).isSome = true →
        (after c (events ++ [e])).decisions.find id = none) ∧
      (∀ id, ((after c events).purged.find id).isSome = true →
        ((after c (events ++ [e])).purged.find id).isSome = true) ∧
      (∀ id r, (after c events).decisions.find id = some r →
        (after c (events ++ [e])).decisions.find id = none →
        ∃ options, e.call = .purgeTerminal options ∧
          LedgerTx.Purgeable (after c events) (cutoff options e.clock) r ∧
          GoneFrom (after c (events ++ [e])) id) ∧
      ∀ options, e.call = .purgeTerminal options → ∀ id,
        SameOf (after c events) (after c (events ++ [e])) id ∨
          ∃ r, (after c events).decisions.find id = some r ∧
            LedgerTx.Purgeable (after c events) (cutoff options e.clock) r ∧
            GoneFrom (after c (events ++ [e])) id := by
  obtain ⟨run, now⟩ := honours.append
  have before : (after c events).Passing c v := after_passing run
  have last := step_passing before now.1
  rw [after_append]
  refine ⟨verifies_of last.consistent last.settled last.listed last.verifiable, fun id marked => ?_, ?_⟩
  · obtain ⟨mark, found⟩ := Option.isSome_iff_exists.mp marked
    have key : mark.1 = id := key_of_find found
    exact (last.verifiable.marks id mark.2 (by rw [← key] at found ⊢; exact found)).2.2
  rcases e.purges_or with ⟨options, clock, rfl⟩ | kept
  · have purges : LedgerPurges c (cutoff options clock) (after c events)
        ((after c events).step c ⟨.purgeTerminal options, clock⟩) := step_purges
    have classified := (purges_classified purges before).2
    refine ⟨fun id marked => ?_, fun id r found gone => ?_, fun options' same id => ?_⟩
    · rcases classified id with ⟨-, kept⟩ | ⟨r, -, -, gone⟩
      · exact kept marked
      · exact gone.marked
    · rcases classified id with ⟨same, -⟩ | ⟨s, stored, purgeable, left⟩
      · have record := same.record
        rw [found] at record
        exact absurd (gone.symm.trans record) (by simp)
      · rw [found] at stored
        cases stored
        exact ⟨options, rfl, purgeable, left⟩
    · cases same
      exact (classified id).imp_left And.left
  · obtain ⟨-, marks, present⟩ := LedgerWrite.passings (step_writes_honoured before now.1 kept)
      before
    refine ⟨fun id marked => ?_, fun id r found gone => ?_, fun options is => (kept options is).elim⟩
    · exact marks ▸ marked
    · have still := present id (by rw [found]; rfl)
      have gone : ((after c events).step c e).decisions.find id = none := gone
      rw [gone] at still
      cases still

def revoked : List LedgerEvent :=
  [createCall "d" 0, revokeCall "d"]

def nextYear : Nat → ZonedTime := fun _ => ⟨63931537800 * ZonedTime.second, 0⟩

def purgeCall : LedgerEvent := ⟨.purgeTerminal ⟨⟨0, 0⟩, 10, .ok ""⟩, nextYear⟩

theorem purged_stays_away_revoked :
    (after plainCrypto revoked).decisions.keys = ["d"] ∧
      (after plainCrypto (revoked ++ [purgeCall])).purged.keys = ["d"] ∧
      verifies plainCrypto ⟨[]⟩ (after plainCrypto (revoked ++ [purgeCall])) = true := by
  refine ⟨by decide +kernel, by decide +kernel, (purged_stays_away plainCrypto ⟨[]⟩ _ _ ?_).1⟩
  refine ⟨⟨fun _ _ => rfl, ⟨rfl, rfl⟩, trivial, fun _ => rfl, fun _ is => ?_⟩,
    ⟨fun _ mem => ?_, trivial, fun _ is => ?_, fun _ => rfl, fun w is => ?_⟩,
    ⟨fun _ mem => ?_, trivial, trivial, fun _ => rfl, fun _ is => ?_⟩, trivial⟩
  · cases is
  · exact (List.not_mem_nil mem).elim
  · cases is
  · cases is
  · exact (List.not_mem_nil mem).elim
  · cases is

/-- The purge takes the receipt of the creation along, so that the same request creates anew. -/
theorem recreated_purged :
    (after plainCrypto (revoked ++ [purgeCall])).purged.keys = ["d"] ∧
      (after plainCrypto (revoked ++ [purgeCall, createCall "d" 0])).decisions.keys = ["d"] ∧
      verifies plainCrypto ⟨[]⟩ (after plainCrypto (revoked ++ [purgeCall, createCall "d" 0])) = false := by
  decide +kernel

end Ledger

end GasCity
