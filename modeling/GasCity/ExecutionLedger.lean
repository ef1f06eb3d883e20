import GasCity.DecisionCalls
import GasCity.Interleave
import GasCity.PoolSession

namespace GasCity

def itoa (n : Int) : String := toString (n.bmod (2 ^ 64))

theorem foldl_digits (digits : List Char) (m : Nat) :
    digits.foldl (fun (n : Int) ch => n * 10 + (ch.toNat - '0'.toNat : Nat)) (m : Int) =
      (Nat.ofDigitChars 10 digits m : Nat) := by
  induction digits generalizing m with
  | nil => rfl
  | cons ch digits ih =>
    rw [List.foldl_cons, Nat.ofDigitChars_cons, ← ih]
    congr 1
    omega

theorem foldl_toDigits (n : Nat) :
    (Nat.toDigits 10 n).foldl (fun (n : Int) ch => n * 10 + (ch.toNat - '0'.toNat : Nat)) 0 = n := by
  have read := foldl_digits (Nat.toDigits 10 n) 0
  rwa [Nat.ofDigitChars_toDigits (by omega) (by omega)] at read

theorem atoi_toString {n : Int} (low : -2 ^ 63 ≤ n) (high : n < 2 ^ 63) : atoi (toString n) = (n, true) := by
  have digits (m : Nat) : (Nat.toDigits 10 m).all Char.isDigit = true :=
    List.all_eq_true.mpr fun ch mem => Nat.isDigit_of_mem_toDigits (by omega) (by omega) mem
  have nonempty (m : Nat) : (Nat.toDigits 10 m).isEmpty = false :=
    List.isEmpty_eq_false_iff.mpr Nat.toDigits_ne_nil
  cases n with
  | ofNat m =>
    have text : (toString (Int.ofNat m)).toList = Nat.toDigits 10 m := Nat.toList_repr
    have first (ch : Char) (rest : List Char) (is : Nat.toDigits 10 m = ch :: rest) : ch.isDigit = true :=
      List.all_eq_true.mp (digits m) ch (is ▸ List.mem_cons_self)
    unfold atoi
    rw [text]
    split
    next rest is => exact absurd (first _ rest is) (by decide)
    next rest is => exact absurd (first _ rest is) (by decide)
    next =>
      have high : (m : Int) < 2 ^ 63 := high
      simp only [digits, nonempty, foldl_toDigits, Bool.not_true, Bool.or_self, Bool.false_eq_true,
        if_false, if_pos high]
      rfl
  | negSucc m =>
    have text : (toString (Int.negSucc m)).toList = '-' :: Nat.toDigits 10 (m + 1) := by
      show ("-" ++ Nat.repr (m + 1)).toList = _
      rw [String.toList_append, Nat.toList_repr]
      rfl
    have low : ((m + 1 : Nat) : Int) ≤ 2 ^ 63 := by omega
    unfold atoi
    rw [text]
    simp only [digits, nonempty, foldl_toDigits, Bool.not_true, Bool.or_self, Bool.false_eq_true,
      if_false, if_true, if_pos low]
    rfl

structure ExecutionSessionAuthorization where
  decisionID : String
  bindingID : String
  sessionID : String
  generation : String
  instanceToken : String
  workID : String
  claimFence : Int
  execution : ExecutionBinding
  deriving DecidableEq

namespace ExecutionSessionAuthorization

def executionIncarnationKey (a : ExecutionSessionAuthorization) : String × String × String :=
  (a.sessionID, a.generation, a.instanceToken)

def incarnate (a : ExecutionSessionAuthorization) (generation token : String) :
    ExecutionSessionAuthorization :=
  { a with generation, instanceToken := token }

end ExecutionSessionAuthorization

structure ExecutionLaunchReceipt where
  executionID : String
  authorization : ExecutionSessionAuthorization
  attemptID : String
  startedAt : ZonedTime

/-- The ledger of decisions and the four buckets of execution authority. A bucket that was not
created is empty. -/
structure ExecutionLedger (F : Type) where
  ledger : Ledger F
  sessions : KeyedList ExecutionSessionAuthorization.sessionID := .empty
  successors : KeyedList ExecutionSessionAuthorization.executionIncarnationKey := .empty
  heads : KeyedList ExecutionSessionAuthorization.sessionID := .empty
  launches : KeyedList ExecutionLaunchReceipt.executionID := .empty

inductive ExecutionError where
  | ledger (e : LedgerError)
  | migrationRefused

def DecisionPayload.matchesExecution {F : Type} (c : Crypto F) (p : DecisionPayload)
    (actual : ExecutionBinding) : Bool :=
  p.schema = executionSchemaVersion && p.execution.isSome && p.valid c && actual.valid &&
    p.execution = some actual

namespace ExecutionLedger

variable {F : Type} (c : Crypto F) (s : ExecutionLedger F)

def require (holds : Bool) (e : LedgerError) : Except LedgerError Unit :=
  if holds then .ok () else .error e

def readRecord (id : String) : Except LedgerError DecisionRecord :=
  (LedgerTx.getRecord c id).run' s.ledger

variable (auth : ExecutionSessionAuthorization)

def validateExecutionAuthorization : Except LedgerError Unit := do
  require (auth.sessionID ≠ "" && auth.generation ≠ "" && auth.instanceToken ≠ "") .invalidDecision
  let r ← s.readRecord c auth.decisionID
  let p := r.payload
  require (p.schema = executionSchemaVersion && auth.bindingID = p.bindingID &&
    auth.workID = p.workBeadID && auth.claimFence = p.claimFence &&
    p.matchesExecution c auth.execution) .invalidDecision
  require (r.state = .admitted || r.state = .claimed) .invalidTransition

def bindExecutionSession :
    Except ExecutionError (ExecutionLedger F) := do
  (s.validateExecutionAuthorization c auth).mapError .ledger
  match s.sessions.find auth.sessionID with
  | some prior => if prior ≠ auth then throw .migrationRefused else return s
  | none => return { s with sessions := s.sessions.set auth }

def executionSession (id : String) : Except LedgerError (Option ExecutionSessionAuthorization) :=
  match s.sessions.find id with
  | none => .ok none
  | some auth => if auth.execution.valid then .ok (some auth) else .error .storeCorrupt

def checkExecutionIncarnationHead : Except LedgerError Unit :=
  match s.heads.find auth.sessionID with
  | none => .ok ()
  | some head =>
    let headGen := atoi head.generation
    let gen := atoi auth.generation
    if !headGen.2 then .error .storeCorrupt
    else if !gen.2 then .error .authorizationRequired
    else if gen.1 < headGen.1 || gen.1 = headGen.1 && auth.instanceToken ≠ head.instanceToken then
      .error .authorizationRequired
    else if head ≠ auth.incarnate head.generation head.instanceToken then .error .storeCorrupt
    else .ok ()

def knownIncarnation (original expected : ExecutionSessionAuthorization) : Except LedgerError Unit :=
  if expected.generation ≠ original.generation || expected.instanceToken ≠ original.instanceToken then
    match s.successors.find expected.executionIncarnationKey with
    | none => .error .authorizationRequired
    | some data => require (data = expected) .storeCorrupt
  else .ok ()

/-- The second transaction of ExecutionSessionIncarnation, given what the first one read. -/
def checkIncarnation (original : ExecutionSessionAuthorization) (generation token : String) :
    Except LedgerError ExecutionSessionAuthorization := do
  let expected := original.incarnate generation token
  s.knownIncarnation original expected
  s.checkExecutionIncarnationHead expected
  return expected

/-- The call reads the original in one state of the ledger and checks in a later one. -/
def executionSessionIncarnation (later : ExecutionLedger F) (id generation token : String) :
    Except LedgerError (Option ExecutionSessionAuthorization) := do
  match ← s.executionSession id with
  | none => return none
  | some original => return some (← later.checkIncarnation original generation token)

def successorAllowed (prior current : ExecutionSessionAuthorization) (generation token : String) : Bool :=
  prior = current && (atoi prior.generation).2 && generation = itoa ((atoi prior.generation).1 + 1) &&
    token ≠ "" && token ≠ prior.instanceToken

def freeFor (successor : ExecutionSessionAuthorization) : Bool :=
  match s.successors.find successor.executionIncarnationKey with
  | some existing => existing = successor
  | none => true

def appendSuccessor (prior : ExecutionSessionAuthorization) (generation token : String) :
    Except LedgerError (ExecutionLedger F) := do
  let successor := prior.incarnate generation token
  s.validateExecutionAuthorization c successor
  let r ← s.readRecord c prior.decisionID
  require (r.state = .claimed) .authorizationRequired
  require (s.freeFor successor) .authorizationRequired
  return { s with successors := s.successors.set successor }

def recordExecutionLaunchAttempt (launchID : ExecutionSessionAuthorization → String → String)
    (auth : ExecutionSessionAuthorization) (attemptID : String) (now : ZonedTime) :
    Except LedgerError (ExecutionLaunchReceipt × ExecutionLedger F) := do
  require (attemptID ≠ "") .invalidDecision
  s.validateExecutionAuthorization c auth
  require (s.sessions.find auth.sessionID = some auth ||
    s.successors.find auth.executionIncarnationKey = some auth) .authorizationRequired
  match s.launches.find (launchID auth attemptID) with
  | some prior => return (prior, s)
  | none =>
    s.checkExecutionIncarnationHead auth
    let result := ⟨launchID auth attemptID, auth, attemptID, now.utc⟩
    return (result, { s with heads := s.heads.set auth, launches := s.launches.set result })

end ExecutionLedger

/-- A call on the ledger: Transition is one of the calls that decide. -/
inductive ExecutionRequest where
  | bind (auth : ExecutionSessionAuthorization)
  | launch (auth : ExecutionSessionAuthorization) (attemptID : String)
  | authorizeSuccessor (prior : ExecutionSessionAuthorization) (generation token : String)
  | decide (call : LedgerCall)

inductive ExecutionControl where
  | ready (request : ExecutionRequest)
  | checking (prior original : ExecutionSessionAuthorization) (generation token : String)
  | writing (prior : ExecutionSessionAuthorization) (generation token : String)
  | done

namespace ExecutionLedger

variable {F : Type} [DecidableEq F] (c : Crypto F)
  (launchID : ExecutionSessionAuthorization → String → String)

def transact (clock : Nat → ZonedTime) (s : ExecutionLedger F) :
    ExecutionControl → ExecutionLedger F × ExecutionControl
  | .ready (.bind auth) =>
    match s.bindExecutionSession c auth with
    | .ok s' => (s', .done)
    | .error _ => (s, .done)
  | .ready (.launch auth attemptID) =>
    match s.recordExecutionLaunchAttempt c launchID auth attemptID (clock 0) with
    | .ok (_, s') => (s', .done)
    | .error _ => (s, .done)
  | .ready (.authorizeSuccessor prior generation token) =>
    match s.executionSession prior.sessionID with
    | .ok (some original) => (s, .checking prior original generation token)
    | _ => (s, .done)
  | .checking prior original generation token =>
    match s.checkIncarnation original prior.generation prior.instanceToken with
    | .ok current =>
      if successorAllowed prior current generation token then (s, .writing prior generation token)
      else (s, .done)
    | .error _ => (s, .done)
  | .writing prior generation token =>
    match s.appendSuccessor c prior generation token with
    | .ok s' => (s', .done)
    | .error _ => (s, .done)
  | .ready (.decide call) => ({ s with ledger := s.ledger.step c ⟨call, clock⟩ }, .done)
  | .done => (s, .done)

/-- The calls of a family and the ledger that they find. -/
structure ExecutionFamily (F ι : Type) where
  crypto : Crypto F
  launchID : ExecutionSessionAuthorization → String → String
  ledger : Ledger F
  requests : ι → ExecutionRequest

/-- The calls of a family run on one ledger, their transactions in the order of a schedule. -/
def interleaved {ι : Type} [DecidableEq ι] (fam : ExecutionFamily F ι)
    (schedule : List (ι × (Nat → ZonedTime))) : Threads ι (ExecutionLedger F) ExecutionControl :=
  Threads.run (transact fam.crypto fam.launchID)
    ⟨{ ledger := fam.ledger }, fun i => .ready (fam.requests i)⟩ schedule

end ExecutionLedger

end GasCity
