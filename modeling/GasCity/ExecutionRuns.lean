import Mathlib.Data.List.Induction
import GasCity.DecisionLedgerRuns
import GasCity.ExecutionLedger

namespace GasCity

open KeyedList List LedgerTx Threads

theorem atoi_range (text : String) : -2 ^ 63 ≤ (atoi text).1 ∧ (atoi text).1 < 2 ^ 63 := by
  have positive (l : List Char) (n : Int) (start : 0 ≤ n) :
      0 ≤ l.foldl (fun (n : Int) ch => n * 10 + (ch.toNat - '0'.toNat : Nat)) n := by
    induction l generalizing n with
    | nil => exact start
    | cons ch l ih => exact ih _ (show 0 ≤ n * 10 + _ by omega)
  unfold atoi
  dsimp only
  generalize '0'.toNat = low at positive ⊢
  split
  case _ digits is =>
    have := positive digits 0 le_rfl
    repeat' split
    all_goals dsimp only; omega
  case _ digits is =>
    have := positive digits 0 le_rfl
    repeat' split
    all_goals dsimp only; omega
  case _ digits _ _ =>
    have := positive text.toList 0 le_rfl
    repeat' split
    all_goals dsimp only; omega

namespace ExecutionSessionAuthorization

/-- Both generations are numbers, they are in this order, and they are the same only with the token. -/
structure Precedes (a b : ExecutionSessionAuthorization) : Prop where
  number : (atoi a.generation).2 = true
  number' : (atoi b.generation).2 = true
  le : (atoi a.generation).1 ≤ (atoi b.generation).1
  token : (atoi a.generation).1 = (atoi b.generation).1 → a.instanceToken = b.instanceToken

theorem Precedes.trans {a b d : ExecutionSessionAuthorization} (first : Precedes a b)
    (second : Precedes b d) : Precedes a d where
  number := first.number
  number' := second.number'
  le := first.le.trans second.le
  token same := by
    have le := first.le
    have le' := second.le
    exact (first.token (by omega)).trans (second.token (by omega))

end ExecutionSessionAuthorization

open ExecutionSessionAuthorization

namespace ExecutionLedger

section

variable {F : Type} {c : Crypto F} {s s' : ExecutionLedger F} {auth : ExecutionSessionAuthorization}

theorem require_ok {holds : Bool} {e : LedgerError} {u : Unit} (h : require holds e = .ok u) :
    holds = true := by
  unfold require at h
  split at h
  next is => exact is
  next => cases h

theorem readRecord_ok {id : String} {r : DecisionRecord} (h : s.readRecord c id = .ok r) :
    s.ledger.decisions.find id = some r := by
  unfold readRecord StateT.run' at h
  cases read : getRecord c id s.ledger with
  | error e => rw [read] at h; cases h
  | ok result =>
    rw [read] at h
    cases h
    exact (getRecord_ok read).1

theorem bindExecutionSession_ok (h : s.bindExecutionSession c auth = .ok s') :
    s' = s ∨ s.sessions.find auth.sessionID = none ∧
      s' = { s with sessions := s.sessions.set auth } := by
  obtain ⟨_, -, h⟩ := bind_eq_ok h
  split at h
  next =>
    split at h
    next => cases h
    next => exact .inl (Except.ok.inj h).symm
  next free => exact .inr ⟨free, (Except.ok.inj h).symm⟩

theorem checkExecutionIncarnationHead_ok (h : s.checkExecutionIncarnationHead auth = .ok ())
    {head : ExecutionSessionAuthorization} (found : s.heads.find auth.sessionID = some head) :
    Precedes head auth := by
  unfold checkExecutionIncarnationHead at h
  simp only [found] at h
  split at h
  · cases h
  next number =>
    split at h
    · cases h
    next number' =>
      split at h
      · cases h
      next newer =>
        simp only [Bool.not_eq_true', Bool.not_eq_false] at number number'
        simp only [Bool.or_eq_true, decide_eq_true_eq, Bool.and_eq_true, not_or, not_and, not_not] at newer
        exact ⟨number, number', by omega, fun same => (newer.2 same.symm).symm⟩

variable {current prior : ExecutionSessionAuthorization} {generation token : String}

theorem checkIncarnation_ok {original : ExecutionSessionAuthorization}
    (h : s.checkIncarnation original generation token = .ok current) :
    current = original.incarnate generation token ∧
      (current = original ∨ s.successors.find current.executionIncarnationKey = some current) ∧
      s.checkExecutionIncarnationHead current = .ok () := by
  obtain ⟨_, known, h⟩ := bind_eq_ok h
  obtain ⟨_, checked, h⟩ := bind_eq_ok h
  cases h
  refine ⟨rfl, ?_, checked⟩
  unfold knownIncarnation at known
  split at known
  next =>
    split at known
    next => cases known
    next data found =>
      have same : data = original.incarnate generation token := of_decide_eq_true (require_ok known)
      exact .inr (same ▸ found)
  next same =>
    rw [Bool.or_eq_true, decide_eq_true_eq, decide_eq_true_eq, not_or, not_not, not_not] at same
    obtain ⟨rfl, rfl⟩ : generation = original.generation ∧ token = original.instanceToken := same
    exact .inl rfl

theorem executionSession_ok {id : String} (h : s.executionSession id = .ok (some auth)) :
    s.sessions.find id = some auth := by
  unfold executionSession at h
  split at h
  next => cases h
  next found =>
    split at h
    next =>
      cases h
      exact found
    next => cases h

theorem successorAllowed_iff :
    successorAllowed prior current generation token = true ↔ prior = current ∧
      (atoi prior.generation).2 = true ∧ generation = itoa ((atoi prior.generation).1 + 1) ∧
      token ≠ "" ∧ token ≠ prior.instanceToken := by
  simp [successorAllowed, and_assoc]

theorem appendSuccessor_ok (h : s.appendSuccessor c prior generation token = .ok s') :
    (∃ r, s.ledger.decisions.find prior.decisionID = some r ∧ r.state = .claimed) ∧
      s' = { s with successors := s.successors.set (prior.incarnate generation token) } := by
  obtain ⟨_, -, h⟩ := bind_eq_ok h
  obtain ⟨r, read, h⟩ := bind_eq_ok h
  obtain ⟨_, claimed, h⟩ := bind_eq_ok h
  obtain ⟨_, -, h⟩ := bind_eq_ok h
  exact ⟨⟨r, readRecord_ok read, of_decide_eq_true (require_ok claimed)⟩, (Except.ok.inj h).symm⟩

theorem recordExecutionLaunchAttempt_ok
    {launchID : ExecutionSessionAuthorization → String → String} {attemptID : String} {now : ZonedTime}
    {result : ExecutionLaunchReceipt}
    (h : s.recordExecutionLaunchAttempt c launchID auth attemptID now = .ok (result, s')) :
    (s.sessions.find auth.sessionID = some auth ∨
        s.successors.find auth.executionIncarnationKey = some auth) ∧
      (s' = s ∨ s.launches.find result.executionID = none ∧ result.authorization = auth ∧
        s.checkExecutionIncarnationHead auth = .ok () ∧
        s' = { s with heads := s.heads.set auth, launches := s.launches.set result }) := by
  obtain ⟨_, -, h⟩ := bind_eq_ok h
  obtain ⟨_, -, h⟩ := bind_eq_ok h
  obtain ⟨_, known, h⟩ := bind_eq_ok h
  have known := require_ok known
  rw [Bool.or_eq_true, decide_eq_true_eq, decide_eq_true_eq] at known
  refine ⟨known, ?_⟩
  split at h
  next =>
    cases h
    exact .inl rfl
  next free =>
    obtain ⟨_, checked, h⟩ := bind_eq_ok h
    cases h
    exact .inr ⟨free, rfl, checked, rfl⟩

end

section

variable {F : Type} [DecidableEq F] {ι : Type} [DecidableEq ι] (fam : ExecutionFamily F ι)

def after (schedule : List (ι × (Nat → ZonedTime))) : ExecutionLedger F :=
  (interleaved fam schedule).shared

/-- At some point of the schedule a call wrote the successor, one generation up, while the decision was
claimed. -/
def Issued (schedule : List (ι × (Nat → ZonedTime))) (prior next : ExecutionSessionAuthorization) : Prop :=
  (atoi prior.generation).2 = true ∧ atoi next.generation = ((atoi prior.generation).1 + 1, true) ∧
    next = prior.incarnate next.generation next.instanceToken ∧
    ∃ before e rest, schedule = before ++ e :: rest ∧ (interleaved fam before).calls e.1 =
        .writing prior next.generation next.instanceToken ∧
      ∃ r, (after fam before).ledger.decisions.find prior.decisionID = some r ∧ r.state = .claimed

/-- The incarnations that are reached from the original one by successors. -/
inductive Descends (schedule : List (ι × (Nat → ZonedTime))) (original : ExecutionSessionAuthorization) :
    ExecutionSessionAuthorization → Prop where
  | original : Descends schedule original original
  | successor {prior next : ExecutionSessionAuthorization} (known : Descends schedule original prior)
      (issued : Issued fam schedule prior next) : Descends schedule original next

def Bounded : Prop :=
  ∀ i prior generation token, fam.requests i = .authorizeSuccessor prior generation token →
    atoi prior.generation ≠ (2 ^ 63 - 1, true)

variable {fam} {schedule : List (ι × (Nat → ZonedTime))} {e : ι × (Nat → ZonedTime)}
  {original a : ExecutionSessionAuthorization}

theorem interleaved_append : interleaved fam (schedule ++ [e]) =
    (interleaved fam schedule).step (transact fam.crypto fam.launchID) e :=
  foldl_append

theorem Descends.mono (known : Descends fam schedule original a) :
    Descends fam (schedule ++ [e]) original a := by
  induction known with
  | original => exact .original
  | successor _ issued ih =>
    obtain ⟨number, up, same, before, e', rest, rfl, writing⟩ := issued
    exact .successor ih ⟨number, up, same, before, e', rest ++ [e], by simp, writing⟩

theorem Descends.incarnate (known : Descends fam schedule original a) :
    a = original.incarnate a.generation a.instanceToken := by
  induction known with
  | original => rfl
  | successor _ issued ih =>
    obtain ⟨-, -, same, -⟩ := issued
    rw [same, ih]
    rfl

theorem Descends.above (known : Descends fam schedule original a) :
    a = original ∨ -2 ^ 63 < (atoi a.generation).1 := by
  cases known with
  | original => exact .inl rfl
  | @successor prior _ _ issued =>
    have low := (atoi_range prior.generation).1
    have up := congrArg Prod.fst issued.2.1
    exact .inr (by omega)

variable (fam schedule) in
/-- The original of the session is bound and the incarnation is reached from it. -/
def Known (s : ExecutionLedger F) (a : ExecutionSessionAuthorization) : Prop :=
  ∃ original, s.sessions.find a.sessionID = some original ∧ Descends fam schedule original a

theorem Known.mono {s s' : ExecutionLedger F} (known : Known fam schedule s a)
    (kept : ∀ id o, s.sessions.find id = some o → s'.sessions.find id = some o) :
    Known fam (schedule ++ [e]) s' a := by
  obtain ⟨o, bound, reached⟩ := known
  exact ⟨o, kept _ o bound, reached.mono⟩

variable (fam) in
def Placed (schedule : List (ι × (Nat → ZonedTime))) (s : ExecutionLedger F) (i : ι) :
    ExecutionControl → Prop
  | .ready request => request = fam.requests i
  | .checking prior original generation token =>
    fam.requests i = .authorizeSuccessor prior generation token ∧
      s.sessions.find prior.sessionID = some original
  | .writing prior generation _ => Known fam schedule s prior ∧
      (atoi prior.generation).2 = true ∧ atoi generation = ((atoi prior.generation).1 + 1, true)
  | .done => True

variable (fam) in
structure Sound (schedule : List (ι × (Nat → ZonedTime))) (s : ExecutionLedger F) : Prop where
  successors : ∀ a ∈ s.successors.rows, Known fam schedule s a
  launches : ∀ r ∈ s.launches.rows, Known fam schedule s r.authorization
  heads : ∀ r ∈ s.launches.rows, ∃ head, s.heads.find r.authorization.sessionID = some head ∧
    (r.authorization = head ∨ Precedes r.authorization head)

variable {s s' : ExecutionLedger F}

theorem Sound.precedes (sound : Sound fam schedule s)
    (checked : s.checkExecutionIncarnationHead a = .ok ()) {r : ExecutionLaunchReceipt}
    (mem : r ∈ s.launches.rows) (same : r.authorization.sessionID = a.sessionID) :
    Precedes r.authorization a := by
  obtain ⟨head, found, is | before⟩ := sound.heads r mem
  · rw [same] at found
    exact is ▸ checkExecutionIncarnationHead_ok checked found
  · rw [same] at found
    exact before.trans (checkExecutionIncarnationHead_ok checked found)

variable (fam) in
/-- What one transaction does to the buckets: it binds a session that was free, appends a known
successor, appends a receipt whose incarnation passes the check of the head, or nothing. -/
inductive Effect (schedule : List (ι × (Nat → ZonedTime))) (e : ι × (Nat → ZonedTime))
    (s : ExecutionLedger F) : ExecutionLedger F → Prop where
  | bound (auth : ExecutionSessionAuthorization) (free : s.sessions.find auth.sessionID = none) :
      Effect schedule e s { s with sessions := s.sessions.set auth }
  | appended (next : ExecutionSessionAuthorization) (known : Known fam (schedule ++ [e]) s next) :
      Effect schedule e s { s with successors := s.successors.set next }
  | launched (r : ExecutionLaunchReceipt) (known : Known fam schedule s r.authorization)
      (free : s.launches.find r.executionID = none)
      (checked : s.checkExecutionIncarnationHead r.authorization = .ok ()) :
      Effect schedule e s
        { s with heads := s.heads.set r.authorization, launches := s.launches.set r }
  | decided (l : Ledger F) : Effect schedule e s { s with ledger := l }

namespace Effect

variable (effect : Effect fam schedule e s s')

include effect

theorem kept (id : String) (o : ExecutionSessionAuthorization) (bound : s.sessions.find id = some o) :
    s'.sessions.find id = some o := by
  cases effect with
  | bound auth free =>
    rw [find_set, if_neg]
    · exact bound
    · rintro rfl
      rw [free] at bound
      cases bound
  | appended | launched | decided => exact bound

theorem launches (sound : Sound fam schedule s) : (∀ r ∈ s.launches.rows, r ∈ s'.launches.rows) ∧
      ∀ r ∈ s'.launches.rows, r ∉ s.launches.rows → ∀ r' ∈ s.launches.rows,
        r'.authorization.sessionID = r.authorization.sessionID →
        Precedes r'.authorization r.authorization := by
  cases effect with
  | launched r known free checked =>
    refine ⟨fun r' mem => mem_set.mpr (.inr ⟨mem, ?_⟩), fun r' mem new => ?_⟩
    · intro same
      have found := find_key_of_mem mem
      rw [same, free] at found
      cases found
    · rcases mem_set.mp mem with rfl | ⟨old, -⟩
      · exact fun r'' mem'' same => sound.precedes checked mem'' same
      · exact (new old).elim
  | bound | appended | decided => exact ⟨fun _ mem => mem, fun _ mem new => (new mem).elim⟩

theorem sound (before : Sound fam schedule s) :
    Sound fam (schedule ++ [e]) s' := by
  have kept := effect.kept
  cases effect with
  | bound | decided =>
    exact ⟨fun a mem => (before.successors a mem).mono kept,
      fun r mem => (before.launches r mem).mono kept, before.heads⟩
  | appended next known =>
    refine ⟨fun a mem => ?_, fun r mem => (before.launches r mem).mono kept, before.heads⟩
    rcases mem_set.mp mem with rfl | ⟨old, -⟩
    · exact known
    · exact (before.successors a old).mono kept
  | launched r known free checked =>
    refine ⟨fun a mem => (before.successors a mem).mono kept, fun r' mem => ?_, fun r' mem => ?_⟩
    · rcases mem_set.mp mem with rfl | ⟨old, -⟩
      · exact known.mono kept
      · exact (before.launches r' old).mono kept
    · rw [find_set]
      rcases mem_set.mp mem with rfl | ⟨old, -⟩
      · exact ⟨r'.authorization, if_pos rfl, .inl rfl⟩
      · by_cases same : r'.authorization.sessionID = r.authorization.sessionID
        · exact ⟨r.authorization, if_pos same, .inr (before.precedes checked old same)⟩
        · rw [if_neg same]
          exact before.heads r' old

end Effect

theorem Placed.mono {i : ι} {control : ExecutionControl} (placed : Placed fam schedule s i control)
    (kept : ∀ id o, s.sessions.find id = some o → s'.sessions.find id = some o) :
    Placed fam (schedule ++ [e]) s' i control := by
  cases control with
  | ready | done => exact placed
  | checking prior original => exact ⟨placed.1, kept _ original placed.2⟩
  | writing => exact ⟨placed.1.mono kept, placed.2⟩

theorem atoi_itoa_succ {prior : ExecutionSessionAuthorization} (number : (atoi prior.generation).2 = true)
    (small : atoi prior.generation ≠ (2 ^ 63 - 1, true)) :
    atoi (itoa ((atoi prior.generation).1 + 1)) = ((atoi prior.generation).1 + 1, true) := by
  obtain ⟨low, high⟩ := atoi_range prior.generation
  have below : (atoi prior.generation).1 ≠ 2 ^ 63 - 1 := fun is => small (Prod.ext is number)
  unfold itoa
  rw [Int.bmod_eq_of_le (by omega) (by omega), atoi_toString (by omega) (by omega)]

theorem transact_effect (bounded : Bounded fam) (sound : Sound fam schedule (after fam schedule))
    (placed : Placed fam schedule (after fam schedule) e.1 ((interleaved fam schedule).calls e.1)) :
    Effect fam schedule e (after fam schedule) (after fam (schedule ++ [e])) ∧
      Placed fam (schedule ++ [e]) (after fam (schedule ++ [e])) e.1
        ((interleaved fam (schedule ++ [e])).calls e.1) := by
  have idle : Effect fam schedule e (after fam schedule) (after fam schedule) :=
    .decided (after fam schedule).ledger
  unfold after at idle sound placed ⊢
  rw [interleaved_append, step_calls_self]
  show Effect fam schedule e _ (transact fam.crypto fam.launchID e.2 _ _).1 ∧ _
  show _ ∧ Placed fam (schedule ++ [e]) (transact fam.crypto fam.launchID e.2 _ _).1 e.1 _
  unfold transact
  cases control : (interleaved fam schedule).calls e.1 with (rw [control] at placed; try dsimp only)
  | done => exact ⟨idle, trivial⟩
  | checking prior original generation token =>
    split
    next current ok =>
      split
      next allowed =>
        refine ⟨idle, ?_⟩
        obtain ⟨rfl, number, rfl, -⟩ := successorAllowed_iff.mp allowed
        obtain ⟨is, known, -⟩ := checkIncarnation_ok ok
        refine ⟨?_, number, atoi_itoa_succ number (bounded _ _ _ _ placed.1)⟩
        rcases known with rfl | found
        · exact ⟨_, placed.2, .original⟩
        · exact (sound.successors _ (mem_of_find found)).mono fun _ _ bound => bound
      next => exact ⟨idle, trivial⟩
    next => exact ⟨idle, trivial⟩
  | writing prior generation token =>
    split
    next s' ok =>
      obtain ⟨claimed, rfl⟩ := appendSuccessor_ok ok
      refine ⟨.appended _ ?_, trivial⟩
      obtain ⟨⟨o, bound, reached⟩, number, up⟩ := placed
      exact ⟨o, bound, .successor reached.mono
        ⟨number, up, rfl, schedule, e, [], rfl, control, claimed⟩⟩
    next => exact ⟨idle, trivial⟩
  | ready request =>
    cases request with
    | bind auth =>
      dsimp only
      split
      next s' ok =>
        rcases bindExecutionSession_ok ok with rfl | ⟨free, rfl⟩
        · exact ⟨idle, trivial⟩
        · exact ⟨.bound auth free, trivial⟩
      next => exact ⟨idle, trivial⟩
    | launch auth attemptID =>
      dsimp only
      split
      next r s' ok =>
        obtain ⟨known, rfl | ⟨free, rfl, checked, rfl⟩⟩ := recordExecutionLaunchAttempt_ok ok
        · exact ⟨idle, trivial⟩
        · refine ⟨.launched r ?_ free checked, trivial⟩
          rcases known with found | found
          · exact ⟨_, found, .original⟩
          · exact sound.successors _ (mem_of_find found)
      next => exact ⟨idle, trivial⟩
    | authorizeSuccessor prior generation token =>
      dsimp only
      split
      next original ok =>
        exact ⟨idle, placed.symm, executionSession_ok ok⟩
      next => exact ⟨idle, trivial⟩
    | decide call => exact ⟨.decided _, trivial⟩

variable (schedule) in
theorem sound_placed (bounded : Bounded fam) :
    Sound fam schedule (after fam schedule) ∧ ∀ i, Placed fam schedule (after fam schedule) i
        ((interleaved fam schedule).calls i) := by
  induction schedule using reverseRecOn with
  | nil =>
    exact ⟨⟨fun _ mem => (not_mem_nil mem).elim, fun _ mem => (not_mem_nil mem).elim,
      fun _ mem => (not_mem_nil mem).elim⟩, fun i => rfl⟩
  | append_singleton schedule e ih =>
    obtain ⟨sound, placed⟩ := ih
    obtain ⟨effect, moved⟩ := transact_effect bounded sound (placed e.1)
    refine ⟨effect.sound sound, fun i => ?_⟩
    by_cases same : i = e.1
    · exact same ▸ moved
    · rw [interleaved_append, step_calls_of_ne same]
      exact (placed i).mono effect.kept

variable (schedule) in
theorem after_kept (bounded : Bounded fam) (later : List (ι × (Nat → ZonedTime))) :
    (∀ id o, (after fam schedule).sessions.find id = some o →
        (after fam (schedule ++ later)).sessions.find id = some o) ∧
      ∀ r ∈ (after fam schedule).launches.rows,
        r ∈ (after fam (schedule ++ later)).launches.rows := by
  induction later using reverseRecOn with
  | nil => rw [append_nil]; exact ⟨fun _ _ bound => bound, fun _ mem => mem⟩
  | append_singleton later e ih =>
    obtain ⟨sound, placed⟩ := sound_placed (schedule ++ later) bounded
    obtain ⟨effect, -⟩ := transact_effect bounded sound (placed e.1)
    rw [← append_assoc]
    exact ⟨fun id o bound => effect.kept id o (ih.1 id o bound),
      fun r mem => (effect.launches sound).1 r (ih.2 r mem)⟩

/-- Whatever the order of the transactions: a session keeps its authorization, every receipt carries it
and is of an incarnation that is reached from the original one, receipts stay and those that follow are
of later generations or of the same incarnation, and so is an incarnation that is answered. -/
theorem authority_never_rolls_back (fam : ExecutionFamily F ι) (bounded : Bounded fam)
    (schedule later : List (ι × (Nat → ZonedTime))) :
    (∀ id o, (after fam schedule).sessions.find id = some o →
        (after fam (schedule ++ later)).sessions.find id = some o) ∧
      (∀ r ∈ (after fam schedule).launches.rows, ∃ original,
        (after fam schedule).sessions.find r.authorization.sessionID = some original ∧
        r.authorization = original.incarnate r.authorization.generation r.authorization.instanceToken ∧
        Descends fam schedule original r.authorization) ∧
      (∀ r ∈ (after fam schedule).launches.rows,
        r ∈ (after fam (schedule ++ later)).launches.rows) ∧
      (∀ e, ∀ r ∈ (after fam (schedule ++ [e])).launches.rows,
        r ∉ (after fam schedule).launches.rows →
        ∀ r' ∈ (after fam schedule).launches.rows,
          r'.authorization.sessionID = r.authorization.sessionID →
          Precedes r'.authorization r.authorization) ∧
      ∀ id generation token a, executionSessionIncarnation (after fam schedule)
          (after fam (schedule ++ later)) id generation token = .ok (some a) →
        ∀ r ∈ (after fam (schedule ++ later)).launches.rows,
          r.authorization.sessionID = id → Precedes r.authorization a := by
  obtain ⟨sound, placed⟩ := sound_placed schedule bounded
  have kept := after_kept schedule bounded later
  refine ⟨kept.1, fun r mem => ?_, kept.2, fun e => ?_, fun id generation token a ok r mem same => ?_⟩
  · obtain ⟨o, bound, reached⟩ := sound.launches r mem
    exact ⟨o, bound, reached.incarnate, reached⟩
  · exact ((transact_effect bounded sound (placed e.1)).1.launches sound).2
  · obtain ⟨found, read, ok⟩ := bind_eq_ok ok
    cases found with
    | none => cases ok
    | some original =>
      obtain ⟨current, checked, ok⟩ := bind_eq_ok ok
      cases ok
      obtain ⟨rfl, -, head⟩ := checkIncarnation_ok checked
      have session : original.sessionID = id := key_of_find (executionSession_ok read)
      exact (sound_placed (schedule ++ later) bounded).1.precedes head mem
        (same.trans session.symm)

end

def tupleBinding : ExecutionBinding where
  canonicalModel := "m"
  serveAs := "v"
  reasoningEffort := "low"
  account := "a"
  provider := "p"
  target := "t"
  configDigest := zeroDigest
  adapterID := "x"
  adapterDigest := zeroDigest
  invocationDigest := zeroDigest

def tuplePayload : DecisionPayload :=
  { hourPayload "d" 0 with
    schema := 2
    recommendationID := "routing/v3:" ++ zeroDigest
    serveAs := "v"
    provider := "p"
    execution := some tupleBinding }

def tupleAuth (generation token : String) : ExecutionSessionAuthorization :=
  ⟨"d", zeroDigest, "session", generation, token, "w", 0, tupleBinding⟩

def claimedRecord : DecisionRecord where
  payload := tuplePayload
  isLocal := true
  state := .claimed
  recordRevision := 3
  storeRevision := 3

def claimedLedger : Ledger LedgerRequest where
  storeRevision := 3
  decisions := empty.set claimedRecord

variable (generation next : String)

def successorRequests : Fin 3 → ExecutionRequest
  | 0 => .bind (tupleAuth generation "first")
  | 1 => .authorizeSuccessor (tupleAuth generation "first") next "second"
  | 2 => .launch (tupleAuth next "second") "attempt"

def inTurn : List (Fin 3 × (Nat → ZonedTime)) :=
  [(0, halfPast), (1, halfPast), (1, halfPast), (1, halfPast), (2, halfPast)]

def plainLaunch (auth : ExecutionSessionAuthorization) (attemptID : String) : String :=
  auth.generation ++ attemptID

def successorFamily : ExecutionFamily LedgerRequest (Fin 3) :=
  ⟨plainCrypto, plainLaunch, claimedLedger, successorRequests generation next⟩

theorem authority_never_rolls_back_successor :
    (∃ r ∈ (after (successorFamily "1" "2") inTurn).launches.rows,
        r.authorization = tupleAuth "2" "second") ∧
      ∀ r ∈ (after (successorFamily "1" "2") inTurn).launches.rows,
        ∃ original, (after (successorFamily "1" "2") inTurn).sessions.find r.authorization.sessionID =
            some original ∧
          r.authorization = original.incarnate r.authorization.generation r.authorization.instanceToken ∧
          Descends (successorFamily "1" "2") inTurn original r.authorization := by
  constructor
  · decide +kernel
  · refine (authority_never_rolls_back (successorFamily "1" "2") ?_ inTurn []).2.1
    intro i prior generation token asked
    unfold successorFamily successorRequests at asked
    dsimp only at asked
    split at asked <;> cases asked
    decide +kernel

/-- The successor of the greatest generation is the least number. -/
theorem successor_wraps_around :
    let state := after (successorFamily "9223372036854775807" "-9223372036854775808") inTurn
    state.sessions.find "session" = some (tupleAuth "9223372036854775807" "first") ∧
      (∃ r ∈ state.launches.rows, r.authorization = tupleAuth "-9223372036854775808" "second") ∧
      ¬ Descends (successorFamily "9223372036854775807" "-9223372036854775808") inTurn
        (tupleAuth "9223372036854775807" "first") (tupleAuth "-9223372036854775808" "second") := by
  refine and_assoc.mp ⟨by decide +kernel, fun reached => ?_⟩
  rcases reached.above with is | above
  · exact absurd (congrArg instanceToken is) (by decide)
  · revert above
    decide +kernel

end ExecutionLedger

end GasCity
