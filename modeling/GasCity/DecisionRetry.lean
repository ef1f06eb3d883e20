import GasCity.DecisionLedgerRuns

namespace GasCity

open KeyedList LedgerTx

def LedgerEvent.asks {F : Type} [DecidableEq F] (c : Crypto F) (l : Ledger F) (e : LedgerEvent) : Bool :=
  match e.call with
  | .admitLocal p token (some _) _ =>
    match localGate c p token (e.clock 0) l with
    | .ok (.ask _, _) => true
    | _ => false
  | .finalAdmission request v (some _) _ =>
    match admissionGate c request v (e.clock 0) l with
    | .ok (.ask _, _) => true
    | _ => false
  | _ => false

namespace LedgerReply

/-- Two replies carry the same receipt. The receipt of a creation is the record it created. -/
def SameReceipt : LedgerReply → LedgerReply → Prop
  | record r, record s => r = s
  | admitted _ t, admitted _ u => t = u
  | receipt t, receipt u => t = u
  | _, _ => False

theorem sameReceipt_of {F : Type} {row : IdempotencyRecord F} {ρ σ : LedgerReply} (first : ρ.Of row)
    (second : σ.Of row) : σ.SameReceipt ρ := by
  cases ρ <;> cases σ <;> simp only [Of] at first second <;>
    first
    | exact Option.some.inj (second.2.symm.trans first.2)
    | (rcases first with ⟨first | first, -⟩ <;> rcases second with ⟨second, -⟩ <;>
        simp [first] at second)
    | (rcases second with ⟨second | second, -⟩ <;> simp [first.1] at second)

end LedgerReply

section

variable {F : Type}

def Ledger.Receipted (l : Ledger F) : Prop :=
  ∀ id token, (l.receiptByDecision.find (id, token)).isSome = true →
    ∃ row, l.idempotency.find token = some (token, row) ∧ row.decisionID = id

variable {c : Crypto F} {accepted : ApprovalRule} {guarded : Prop} {l l' : Ledger F}

namespace LedgerWrite

theorem receipt_kept (write : LedgerWrite c accepted guarded l l') {token : String}
    {row : String × IdempotencyRecord F} (there : l.idempotency.find token = some row) :
    l'.idempotency.find token = some row := by
  cases write with
  | receipted free =>
    show (l.idempotency.set _).find token = some row
    rw [find_set, if_neg, there]
    rintro rfl
    rw [free] at there
    cases there
  | _ => exact there

theorem receipts_listed (write : LedgerWrite c accepted guarded l l') (listed : l.Receipted) :
    l'.Receipted := by
  intro id token there
  have grown (row : String × IdempotencyRecord F) : l.idempotency.find token = some row →
      l'.idempotency.find token = some row := write.receipt_kept
  cases write with
  | @receipted fresh receipt free =>
    have there : ((l.receiptByDecision.set (receipt.decisionID, fresh)).find (id, token)).isSome =
      true := there
    rw [find_set] at there
    split at there
    next same =>
      cases same
      exact ⟨receipt, (find_set _ _ _).trans (if_pos rfl), rfl⟩
    next =>
      obtain ⟨row, found, ofDecision⟩ := listed id token there
      exact ⟨row, grown _ found, ofDecision⟩
  | _ => exact listed id token there

theorem receipts (writes : LedgerWrites c accepted guarded l l') (listed : l.Receipted) :
    l'.Receipted ∧ ∀ token row, l.idempotency.find token = some row →
      l'.idempotency.find token = some row := by
  induction writes with
  | refl => exact ⟨listed, fun _ _ there => there⟩
  | tail _ write ih =>
    exact ⟨write.receipts_listed ih.1, fun token row there => write.receipt_kept (ih.2 token row there)⟩

end LedgerWrite

namespace LedgerPurge

variable {r : DecisionRecord}

theorem find_receiptByDecision (id token : String) :
    (l.remove c r).receiptByDecision.find (id, token) =
      if id = r.id then none else l.receiptByDecision.find (id, token) := by
  show (l.receiptByDecision.keep _).find (id, token) = _
  rw [find_keep]
  cases there : l.receiptByDecision.find (id, token) with
  | none => simp
  | some k =>
    have key : k = (id, token) := key_of_find there
    subst key
    by_cases mine : id = r.id <;> simp [mine, Option.filter]

theorem receipt_kept (listed : l.Receipted) {token : String} {row : IdempotencyRecord F}
    (there : l.idempotency.find token = some (token, row)) (other : row.decisionID ≠ r.id) :
    (l.remove c r).idempotency.find token = some (token, row) := by
  show (l.idempotency.keep _).find token = _
  have free : l.receiptByDecision.find (r.id, token) = none := by
    cases mine : l.receiptByDecision.find (r.id, token) with
    | none => rfl
    | some k =>
      obtain ⟨row', found, ofDecision⟩ := listed r.id token (by rw [mine]; rfl)
      rw [there] at found
      cases found
      exact (other ofDecision).elim
  rw [find_keep, there]
  simp [Option.filter, free]

theorem receipts_listed (listed : l.Receipted) : (l.remove c r).Receipted := by
  intro id token there
  rw [find_receiptByDecision] at there
  split at there
  next => cases there
  next other =>
    obtain ⟨row, found, ofDecision⟩ := listed id token there
    exact ⟨row, receipt_kept listed found (ofDecision.trans_ne other), ofDecision⟩

theorem receipts {cutoff : ZonedTime} (purges : LedgerPurges c cutoff l l') (listed : l.Receipted) :
    l'.Receipted ∧ ∀ token row, l.idempotency.find token = some (token, row) →
      (l'.decisions.find row.decisionID).isSome = true →
      l'.idempotency.find token = some (token, row) := by
  induction purges with
  | refl => exact ⟨listed, fun _ _ there _ => there⟩
  | @tail m _ _ purge ih =>
    cases purge with
    | @removed r =>
      refine ⟨receipts_listed ih.1, fun token row there present => ?_⟩
      have erased : ((m.decisions.erase r.id).find row.decisionID).isSome = true := present
      rw [find_erase] at erased
      split at erased
      next => cases erased
      next other => exact receipt_kept ih.1 (ih.2 token row there erased) other

end LedgerPurge

end

namespace Ledger

variable {F : Type} [DecidableEq F] {c : Crypto F} {l : Ledger F} {e : LedgerEvent} {token : String}

theorem run_done (stored : l.Whole) (whole : e.call.WholeWindow) (named : e.call.token = some token)
    {ρ : LedgerReply} (done : (l.run c e).2 = .ok ρ) : ∃ q, e.call.request = some q ∧
      Succeeds c (fun _ _ _ => True) False token q e.call.decisionID ρ l (l.step c e) :=
  run_succeeds stored whole (fun _ _ _ _ => trivial) False.elim False.elim named done

theorem run_commits (stored : l.Whole) (whole : e.call.WholeWindow) (named : e.call.token = some token)
    (free : l.idempotency.find token = none) {ρ : LedgerReply} (done : (l.run c e).2 = .ok ρ) :
    ∃ row q, (l.step c e).idempotency.find token = some (token, row) ∧ e.call.request = some q ∧
      row.fingerprint = c.fingerprint q ∧ row.decisionID = e.call.decisionID ∧ ρ.Of row := by
  obtain ⟨q, asked, row, same, reply, ⟨taken, -⟩ | ⟨-, -, ofDecision, m, -, -, -, written⟩⟩ :=
    run_done stored whole named done
  · rw [free] at taken
    cases taken
  · refine ⟨row, q, ?_, asked, same, ofDecision, reply⟩
    rw [written]
    exact (find_set _ _ _).trans (if_pos rfl)

theorem run_replays (stored : l.Whole) (whole : e.call.WholeWindow) (named : e.call.token = some token)
    {row : IdempotencyRecord F} (there : l.idempotency.find token = some (token, row)) :
    l.step c e = l ∧ ∀ ρ, (l.run c e).2 = .ok ρ →
      (∃ q, e.call.request = some q ∧ row.fingerprint = c.fingerprint q) ∧ ρ.Of row := by
  cases result : (l.run c e).2 with
  | error err => exact ⟨run_failed named result, fun _ done => by cases done⟩
  | ok σ =>
    obtain ⟨q, asked, row', same, reply, ⟨taken, kept⟩ | ⟨free, -⟩⟩ := run_done stored whole named result
    · cases there.symm.trans taken
      refine ⟨kept, fun ρ done => ?_⟩
      cases done
      exact ⟨⟨q, asked, same⟩, reply⟩
    · rw [there] at free
      cases free

theorem asks_of_taken (named : e.call.token = some token) (taken : l.idempotency.find token ≠ none) :
    e.asks c l = false := by
  obtain ⟨call, clock⟩ := e
  cases call with
  | admitLocal p _ callback commits =>
    cases named
    cases callback with
    | none => rfl
    | some callback =>
      unfold LedgerEvent.asks
      dsimp only
      split
      next r _ gate =>
        obtain ⟨-, -, -, ⟨_, _, _, -, -, -, -, -, replay, -⟩ | ⟨free, -⟩⟩ := localGate_ok gate
        · cases replay
        · exact (taken free).elim
      next => rfl
  | finalAdmission request v callback commits =>
    cases named
    cases callback with
    | none => rfl
    | some callback =>
      unfold LedgerEvent.asks
      dsimp only
      split
      next r _ gate =>
        obtain ⟨-, -, ⟨_, _, -, -, -, -, replay⟩ | ⟨free, -⟩⟩ := admissionGate_ok gate
        · cases replay
        · exact (taken free).elim
      next => rfl
  | _ => rfl

end Ledger

theorem Trail.after_admitted {m : Audits} {r : DecisionRecord} (trail : Trail m r) {n : Nat}
    {a : TransitionAudit} (first : m.find (r.id, n) = some a) (admitted : a.target = .admitted)
    (k : Nat) {b : TransitionAudit} (second : m.find (r.id, n + k + 1) = some b) :
    b.target = .claimed ∨ b.target = .outcomeRecorded := by
  induction k generalizing b with
  | zero =>
    obtain ⟨-, -, allowed | ⟨-, -, proposed, -⟩⟩ := trail.chained n a b first second
    · rw [admitted] at allowed
      simpa [DecisionState.isAllowedTransition] using allowed
    · rw [admitted] at proposed
      cases proposed
  | succ k ih =>
    have numbered := (trail.numbered (n + k + 1 + 1)).mp (Option.isSome_iff_exists.mpr ⟨b, second⟩)
    have between := (trail.numbered (n + k + 1)).mpr ⟨by omega, by omega⟩
    obtain ⟨d, middle⟩ := Option.isSome_iff_exists.mp between
    obtain ⟨-, -, allowed | ⟨-, -, proposed, -⟩⟩ := trail.chained (n + k + 1) d b middle second
    · rcases ih middle with claimed | recorded
      · rw [claimed] at allowed
        exact .inr (by simpa [DecisionState.isAllowedTransition] using allowed)
      · rw [recorded] at allowed
        cases allowed
    · rcases ih middle with claimed | recorded
      · rw [claimed] at proposed
        cases proposed
      · rw [recorded] at proposed
        cases proposed

theorem Trail.admitted_once {m : Audits} {r : DecisionRecord} (trail : Trail m r) {n k : Nat}
    {a b : TransitionAudit} (first : m.find (r.id, n) = some a) (admitted : a.target = .admitted)
    (second : m.find (r.id, k) = some b) (again : b.target = .admitted) : n = k := by
  have before {i j : Nat} {x y : TransitionAudit} (here : m.find (r.id, i) = some x)
      (is : x.target = .admitted) (there : m.find (r.id, j) = some y) (too : y.target = .admitted) :
      ¬ i < j := by
    intro less
    obtain ⟨d, rfl⟩ := Nat.exists_eq_add_of_lt less
    rcases trail.after_admitted here is d there with claimed | recorded
    · rw [too] at claimed
      cases claimed
    · rw [too] at recorded
      cases recorded
  have := before first admitted second again
  have := before second again first admitted
  omega

namespace Ledger

variable {F : Type} [DecidableEq F] {c : Crypto F} {l : Ledger F}

theorem step_receipts {e : LedgerEvent} (stored : l.Whole) (whole : e.call.WholeWindow)
    (listed : l.Receipted) :
    (l.step c e).Receipted ∧ ∀ token row, l.idempotency.find token = some (token, row) →
      ((l.step c e).decisions.find row.decisionID).isSome = true →
      (l.step c e).idempotency.find token = some (token, row) := by
  rcases e.purges_or with ⟨options, clock, rfl⟩ | kept
  · exact LedgerPurge.receipts step_purges listed
  · have writes : LedgerWrites c (fun _ _ _ => True) False l (l.step c e) :=
      step_writes stored whole (fun _ _ _ _ => trivial) False.elim False.elim kept
    obtain ⟨after, kept⟩ := LedgerWrite.receipts writes listed
    exact ⟨after, fun token row there _ => kept token _ there⟩

def Kept (l : Ledger F) : Prop :=
  l.Consistent (fun _ _ _ => True) ∧ l.Settled ∧ l.Receipted

theorem step_kept {e : LedgerEvent} (kept : l.Kept) (whole : e.call.WholeWindow) :
    (l.step c e).Kept := by
  obtain ⟨consistent, settled⟩ := step_consistent kept.1 kept.2.1 whole fun _ _ _ _ => trivial
  exact ⟨consistent, settled, (step_receipts kept.1.whole whole kept.2.2).1⟩

theorem after_kept (events : List LedgerEvent) (whole : ∀ e ∈ events, e.call.WholeWindow) :
    (after c events).Kept := by
  have start : ({} : Ledger F).Kept :=
    ⟨.empty, fun r mem => (List.not_mem_nil mem).elim, fun _ _ there => by cases there⟩
  have keeps (l : Ledger F) (e : LedgerEvent) (kept : l.Kept) (whole : e.call.WholeWindow) :
      (l.step c e).Kept := step_kept kept whole
  exact Along.invariant keeps (Along.of_forall _ whole) start

theorem after_append (before events : List LedgerEvent) :
    after c (before ++ events) = events.foldl (step c) (after c before) := List.foldl_append

theorem receipt_stays {between : List LedgerEvent} (kept : l.Kept)
    (whole : ∀ e ∈ between, e.call.WholeWindow) {token : String} {row : IdempotencyRecord F}
    (there : l.idempotency.find token = some (token, row))
    (stays : Along (step c) (fun l e => ((l.step c e).decisions.find row.decisionID).isSome = true)
      l between) :
    (between.foldl (step c) l).idempotency.find token = some (token, row) := by
  have keeps (l : Ledger F) (e : LedgerEvent)
      (ok : l.Kept ∧ l.idempotency.find token = some (token, row))
      (now : ((l.step c e).decisions.find row.decisionID).isSome = true ∧ e.call.WholeWindow) :
      (l.step c e).Kept ∧ (l.step c e).idempotency.find token = some (token, row) :=
    ⟨step_kept ok.1 now.2, (step_receipts ok.1.1.whole now.2 ok.1.2.2).2 token row ok.2 now.1⟩
  exact (Along.invariant keeps (stays.and (Along.of_forall l whole)) ⟨kept, there⟩).2

/-- A call that is retried takes effect once, as long as its decision is not purged. -/
theorem retry_takes_effect_once (c : Crypto F) (apart : Function.Injective c.fingerprint)
    (before between : List LedgerEvent) (first again : LedgerEvent)
    (whole : ∀ e ∈ again :: (before ++ first :: between), e.call.WholeWindow) {token : String}
    (named : first.call.token = some token) :
    (∀ err, ((after c before).run c first).2 = .error err →
        after c (before ++ [first]) = after c before) ∧
      (∀ r ∈ (after c (before ++ first :: between)).decisions.rows, ∀ n k a b,
        (after c (before ++ first :: between)).transitions.find (r.id, n) = some a →
        a.target = .admitted →
        (after c (before ++ first :: between)).transitions.find (r.id, k) = some b →
        b.target = .admitted → n = k) ∧
      ∀ ρ, (after c before).idempotency.find token = none →
        ((after c before).run c first).2 = .ok ρ →
        Along (step c) (fun l e => ((l.step c e).decisions.find first.call.decisionID).isSome = true)
          (after c (before ++ [first])) between →
        again.call.token = some token →
        after c (before ++ first :: between ++ [again]) = after c (before ++ first :: between) ∧
          (again.call.request = first.call.request →
            again.asks c (after c (before ++ first :: between)) = false ∧
            ∀ σ, ((after c (before ++ first :: between)).run c again).2 = .ok σ → σ.SameReceipt ρ) ∧
          (again.call.request ≠ first.call.request →
            ∃ err, ((after c (before ++ first :: between)).run c again).2 = .error err) := by
  have wholeAgain := whole again List.mem_cons_self
  have whole (e : LedgerEvent) (mem : e ∈ before ++ first :: between) : e.call.WholeWindow :=
    whole e (List.mem_cons_of_mem _ mem)
  have wholeFirst := whole first (List.mem_append_right _ List.mem_cons_self)
  have keptBefore : (after c before).Kept :=
    after_kept before fun e mem => whole e (List.mem_append_left _ mem)
  have keptBetween : (after c (before ++ first :: between)).Kept := after_kept _ whole
  refine ⟨fun err failed => ?_, ?_, fun ρ free done stays same => ?_⟩
  · rw [after_append]
    exact run_failed named failed
  · intro r mem n k a b here is there too
    exact (keptBetween.1.trails _ r (find_key_of_mem mem)).admitted_once here is there too
  · obtain ⟨row, q, written, asked, fingerprint, ofDecision, reply⟩ :=
      run_commits keptBefore.1.whole wholeFirst named free done
    rw [← ofDecision, after_append] at stays
    have there : (after c (before ++ first :: between)).idempotency.find token =
        some (token, row) := by
      rw [after_append]
      exact receipt_stays (step_kept keptBefore wholeFirst)
        (fun e mem => whole e (List.mem_append_right _ (List.mem_cons_of_mem _ mem))) written stays
    obtain ⟨unchanged, answers⟩ := run_replays (c := c) keptBetween.1.whole wholeAgain same there
    refine ⟨?_, fun _ => ⟨asks_of_taken same (by simp [there]), fun σ result => ?_⟩, fun other => ?_⟩
    · rw [after_append]
      exact unchanged
    · exact LedgerReply.sameReceipt_of reply (answers σ result).2
    · cases result : ((after c (before ++ first :: between)).run c again).2 with
      | error err => exact ⟨err, rfl⟩
      | ok σ =>
        obtain ⟨⟨q', asked', fingerprint'⟩, -⟩ := answers σ result
        have eq : q' = q := apart (fingerprint'.symm.trans fingerprint)
        exact (other (by rw [asked', asked, eq])).elim

theorem retry_takes_effect_once_created :
    ((after plainCrypto []).run plainCrypto (createCall "d" 3600)).2.isOk = true ∧
      after plainCrypto [createCall "d" 3600, createCall "d" 3600] =
        after plainCrypto [createCall "d" 3600] := by
  have done : ((after plainCrypto []).run plainCrypto (createCall "d" 3600)).2.isOk = true := by
    decide +kernel
  refine ⟨done, ?_⟩
  cases reply : ((after plainCrypto []).run plainCrypto (createCall "d" 3600)).2 with
  | error err =>
    rw [reply] at done
    cases done
  | ok ρ =>
    have whole : ∀ e ∈ createCall "d" 3600 :: ([] ++ [createCall "d" 3600]), e.call.WholeWindow := by
      intro e mem
      have is : e = createCall "d" 3600 := by simpa using mem
      rw [is]
      exact ⟨rfl, rfl⟩
    exact ((retry_takes_effect_once plainCrypto (fun _ _ same => same) [] [] (createCall "d" 3600)
      (createCall "d" 3600) whole rfl).2.2 ρ rfl reply trivial rfl).1

/-- In a zone half a minute from UTC the retry answers another expiry than the first call did. -/
theorem retried_halfMinute_differs :
    ∃ ρ σ, ((after plainCrypto []).run plainCrypto (createCall "d" 30)).2 = .ok ρ ∧
      ((after plainCrypto [createCall "d" 30]).run plainCrypto (createCall "d" 30)).2 = .ok σ ∧
      ¬ σ.SameReceipt ρ := by
  refine ⟨.record (DecisionRecord.proposal (hourPayload "d" 30) 1),
    .record (DecisionRecord.proposal (hourPayload "d" 30) 1).reencode, by decide +kernel,
    by decide +kernel, fun same => ?_⟩
  have expiry := congrArg (fun r : DecisionRecord => r.payload.expiresAt.instant) same
  revert expiry
  decide +kernel

end Ledger

end GasCity
