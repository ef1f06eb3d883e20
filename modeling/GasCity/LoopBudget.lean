import GasCity.CallRules
import GasCity.LoopPlan
import GasCity.LoopRun
import GasCity.LoopStats

namespace GasCity

open Program

def Budgeted (m : Int) : StoreOp → Prop
  | .setMetadata _ (.maxIterations _) | .setMetadata _ (.trigger _) => False
  | .createConvergenceBead _ => False
  | .pourWisp _ key _ | .pourSpeculativeWisp _ key _ =>
    ∀ n, ParseIterationFromKey key = some n → (n : Int) ≤ m
  | _ => True

section Handlers

variable {α σ : Type} {S : ConvergenceStore σ} {m : Int} {root wisp id : String} {n : Nat}
  {md : LoopMeta}

theorem budgeted_pourWisp {args : PourArgs} (within : (n : Int) ≤ m) :
    Budgeted m (.pourWisp root (IdempotencyKey root n) args) := by
  intro k key
  cases Option.some.inj key
  exact within

theorem budgeted_pourSpeculativeWisp {args : PourArgs} (within : (n : Int) ≤ m) :
    Budgeted m (.pourSpeculativeWisp root (IdempotencyKey root n) args) := by
  intro k key
  cases Option.some.inj key
  exact within

theorem only_deleteBeadSubtree (depth : Nat) (id : String) :
    (deleteBeadSubtree S depth id).Only (Budgeted m) := by
  induction depth generalizing id with
  | zero => exact trivial
  | succ depth ih =>
    refine only_query.bind fun children => ?_
    refine Only.bind ?_ fun _ => only_must trivial
    induction children with
    | nil => exact trivial
    | cons child children rest => exact (ih child.id).bind fun _ => rest

theorem only_burnSpeculativeWisp : (burnSpeculativeWisp S root id).Only (Budgeted m) := by
  refine Only.ite (fun _ => trivial) fun _ => ?_
  refine only_look.bind fun depth => (only_deleteBeadSubtree depth id).bind fun _ => ?_
  exact only_attempt trivial

theorem only_burnBefore {doing : String} : (burnBefore S doing root id).Only (Budgeted m) :=
  only_burnSpeculativeWisp.onError fun _ => only_fail _

theorem only_burnAfter {e : HandlerError} :
    (burnAfter S e root id : Call σ α).Only (Budgeted m) :=
  (only_burnSpeculativeWisp.onError fun _ => only_fail _).bind fun _ => only_fail e

theorem only_validPendingNextWisp {key : WispKey} :
    (validPendingNextWisp S root key id).Only (Budgeted m) := by
  refine Only.ite (fun _ => trivial) fun _ => only_look.bind fun valid => ?_
  exact Only.ite (fun _ => trivial) fun _ => (only_attempt trivial).bind fun _ => trivial

theorem only_transitionToWaitingManual {reason : WaitReason} {outcome : Option GateOutcome} :
    (transitionToWaitingManual root wisp n reason outcome : Call σ HandlerResult).Only
      (Budgeted m) := by
  refine (only_commit ?_ (only_ret ()) trivial).bind fun _ => trivial
  simp [Budgeted]

theorem only_clearScopedVerdict :
    (clearScopedVerdict root wisp md : Call σ Unit).Only (Budgeted m) :=
  only_onlyIf fun _ => only_then trivial (only_must trivial)

variable {result : GateResult}

theorem only_adopt : (adopt root wisp n result id : Call σ HandlerResult).Only (Budgeted m) := by
  refine only_then trivial ?_
  refine (only_commit ?_ (only_ret ()) trivial).bind fun _ => ?_
  · simp [Budgeted]
  · exact (only_attempt trivial).bind fun _ => trivial

theorem only_iterate (within : (n : Int) + 1 ≤ m) :
    (iterate S root wisp n result md id).Only (Budgeted m) := by
  refine only_clearScopedVerdict.bind fun _ => Only.ite (fun _ => only_adopt) fun _ => ?_
  refine (only_pourOrFind (budgeted_pourWisp (by push_cast; exact within))).bind fun poured => ?_
  cases poured with
  | ok next => exact only_adopt
  | error e => exact only_transitionToWaitingManual

theorem only_transitionToWaitingTrigger :
    (transitionToWaitingTrigger root wisp n result md : Call σ HandlerResult).Only
      (Budgeted m) := by
  refine only_clearScopedVerdict.bind fun _ => ?_
  refine (only_commit ?_ (only_ret ()) trivial).bind fun _ => trivial
  simp [Budgeted]

theorem only_terminate {reason : TerminalReason} {actor : String} :
    (terminate root wisp n result reason actor : Call σ HandlerResult).Only (Budgeted m) := by
  refine (only_commit ?_ (only_must trivial) trivial).bind fun _ => trivial
  simp [Budgeted]

variable (limit : md.maxIterations.getD 0 ≤ m)

include limit

theorem only_settle {cfg : GateConfig} {tc : TriggerConfig} {ahead : Speculation} :
    (settle S root wisp n cfg tc md result ahead).Only (Budgeted m) := by
  refine Only.ite (fun _ => only_burnBefore.bind fun _ => only_transitionToWaitingManual) ?_
  intro _
  split
  next => exact only_burnBefore.bind fun _ => only_terminate
  next goes_on =>
    refine Only.ite (fun _ => only_transitionToWaitingManual) fun _ => ?_
    refine Only.ite (fun _ => only_transitionToWaitingTrigger) fun _ => ?_
    have := below_limit goes_on
    exact only_iterate (by omega)

theorem only_speculate {key : WispKey} {cfg : GateConfig} {tc : TriggerConfig}
    (next : key = IdempotencyKey root (n + 1)) :
    (speculate S root key n cfg tc md id).Only (Budgeted m) := by
  refine Only.ite (fun below => ?_) fun _ => trivial
  subst next
  refine (only_pourOrFind (budgeted_pourSpeculativeWisp ?_)).bind fun poured => ?_
  · push_cast
    omega
  · cases poured with
    | error e => exact trivial
    | ok next =>
      refine (only_onlyIf fun _ => ?_).bind fun _ => trivial
      exact (only_must trivial).onError fun _ => only_burnAfter

theorem only_processWisp {script : GateResult} :
    (processWisp S root wisp n md script).Only (Budgeted m) := by
  refine only_query.bind fun count => (only_onlyIf fun _ => only_must trivial).bind fun _ => ?_
  refine only_orThrow.bind fun cfg => only_orThrow.bind fun tc => ?_
  refine Only.ite (fun _ => only_validPendingNextWisp.bind fun _ => only_burnAfter) ?_
  intro _
  refine only_validPendingNextWisp.bind fun pending => (only_speculate limit rfl).bind fun ahead => ?_
  refine Only.ite (fun _ => only_settle limit) fun _ => ?_
  refine Only.ite
    (fun _ => only_burnBefore.bind fun _ => only_transitionToWaitingManual) fun _ => ?_
  refine Only.ite
    (fun _ => only_burnBefore.bind fun _ => only_transitionToWaitingManual) fun _ => ?_
  refine Only.bind (Only.onError ?_ fun _ => only_burnAfter) fun _ =>
    only_settle limit
  refine only_commit ?_ (only_ret ()) trivial
  simp [Budgeted]

omit limit

theorem only_stopDrained {username last : String} :
    (stopDrained S root username id last).Only (Budgeted m) := by
  refine only_inspect.bind fun active => Only.bind ?_ fun forced => ?_
  · cases active with
    | none => exact trivial
    | some w => exact Only.ite (fun _ => trivial) fun _ => only_then trivial trivial
  · refine only_query.bind fun count => only_then trivial ?_
    refine only_then trivial ?_
    refine (only_commit ?_ (only_must trivial) trivial).bind fun _ => trivial
    simp [Budgeted]

theorem only_completeTerminalTransition :
    (completeTerminalTransition S root md).Only (Budgeted m) := by
  refine (only_onlyIf fun _ => only_must trivial).bind fun _ => only_look.bind fun stats => ?_
  refine (only_onlyIf fun _ => only_must trivial).bind fun _ => only_then trivial ?_
  split
  next => exact (only_attempt trivial).bind fun _ => trivial
  next => exact trivial

theorem only_nextWisp (within : (n : Int) ≤ m) :
    (nextWisp S root (IdempotencyKey root n) md).Only (Budgeted m) := by
  refine only_validPendingNextWisp.bind fun pending => Only.ite (fun _ => trivial) fun _ => ?_
  refine only_query.bind fun existing => ?_
  cases existing with
  | some id => exact trivial
  | none => exact (only_mustGet (budgeted_pourWisp within)).bind fun _ => trivial

end Handlers

namespace LoopStore

variable {α : Type} {ids : IDSupply} {m : Int} {s t : LoopStore} {p : Call LoopStore α}
  {script : GateResult} {doing id : String} {B : StoreOp → Prop}

abbrev Spends (ids : IDSupply) (m : Int) (p : Call LoopStore α) (s : LoopStore) : Prop :=
  p.Holds (exec ids) (fun _ op => Budgeted m op) (fun _ _ => True) (fun _ _ => True) s

theorem Spends.then {β : Type} {f : α → Call LoopStore β} (first : Spends ids m p s)
    (rest : ∀ a, (f a).Only (Budgeted m)) : Spends ids m (p >>= f) s :=
  first.bind fun a t _ => (rest a).holds t

theorem spends_ApproveHandler (username : String) :
    Spends ids m (ApproveHandler (store ids) s.rootID username) s := by
  refine metadata_then (fun _ => trivial) fun _ => Only.holds ?_ s
  refine Only.ite (fun _ => trivial) fun _ => Only.ite (fun _ => trivial) fun _ => ?_
  refine only_query.bind fun count => (only_commit ?_ (only_must trivial) trivial).bind fun _ => trivial
  simp [Budgeted]

variable (limit : s.metadata.maxIterations.getD 0 ≤ m)

include limit

theorem spends_HandleWispClosed : Spends ids m (HandleWispClosed (store ids) s.rootID id script) s := by
  refine metadata_then (fun _ => trivial) fun _ => Only.holds ?_ s
  refine Only.ite (fun _ => (only_attempt trivial).bind fun _ => trivial) fun _ => ?_
  refine only_query.bind fun info => ?_
  split
  next => exact trivial
  next =>
    refine only_look.bind fun last => Only.ite (fun _ => trivial) fun _ => ?_
    exact only_processWisp limit

theorem spends_IterateHandler : Spends ids m (IterateHandler (store ids) s.rootID) s := by
  refine metadata_then (fun _ => trivial) fun _ => Only.holds ?_ s
  refine Only.ite (fun _ => trivial) fun _ => only_query.bind fun count => ?_
  refine Only.ite (fun _ => trivial) fun below => ?_
  have within : ((count + 1 : Nat) : Int) ≤ m := by
    omega
  refine (only_pourOrFind (budgeted_pourWisp within)).bind fun poured => only_orFail.bind fun next => ?_
  refine (only_onlyIf fun _ => only_clearScopedVerdict).bind fun _ => ?_
  refine only_then trivial (only_then trivial ?_)
  exact only_then trivial trivial

theorem spends_StopHandler (username : String) :
    Spends ids m (StopHandler (store ids) s.rootID username script) s := by
  refine metadata_then (fun _ => trivial) fun _ => holds_else trivial fun _ => ?_
  refine holds_else trivial fun _ => inspect_then (fun _ => trivial) fun active _ => ?_
  cases active with
  | none => exact only_stopDrained.holds s
  | some w =>
    refine holds_ite.mpr ⟨fun _ => ?_, fun _ => only_stopDrained.holds s⟩
    refine Spends.then (holds_onError.mpr (spends_HandleWispClosed limit)) fun _ => ?_
    exact only_query.bind fun md => Only.ite (fun _ => trivial) fun _ => only_stopDrained

omit limit

theorem spends_HandleTrigger (limit : s.metadata.trigger ≠ .absent →
    s.metadata.maxIterations = some m) (positive : 0 < m) :
    Spends ids m (HandleTrigger (store ids) s.rootID script) s := by
  refine metadata_then (fun _ => trivial) fun _ => Only.holds ?_ s
  refine Only.ite (fun _ => trivial) fun _ => ?_
  cases parsed : ParseTriggerConfig s.metadata with
  | error e => exact trivial
  | ok tc =>
    refine Only.ite (fun _ => trivial) fun enabled => ?_
    have set : s.metadata.trigger ≠ .absent := by
      intro absent
      unfold ParseTriggerConfig at parsed
      rw [absent] at parsed
      cases parsed
      exact enabled rfl
    refine only_orThrow.bind fun _ => only_query.bind fun count => ?_
    refine Only.ite (fun _ => trivial) fun below => Only.ite (fun _ => trivial) ?_
    intro _
    have within : ((count + 1 : Nat) : Int) ≤ m := by
      by_contra past
      exact below ⟨m, limit set, positive, by omega⟩
    refine (only_pourOrFind (budgeted_pourWisp within)).bind fun poured => only_orFail.bind fun next => ?_
    refine only_then trivial (only_then trivial ?_)
    exact only_then trivial (only_then trivial trivial)

/-- The reconciler would go on with the iteration after the closed wisps: the loop is active, no
ending is under way, and no wisp can be told to be its active one. -/
def Adrift (ids : IDSupply) (s : LoopStore) : Prop :=
  s.metadata.state = .active ∧ s.metadata.terminalReason = none ∧
    currentActiveWisp (store ids) "" s.rootID s.metadata.activeWisp s.metadata.lastProcessedWisp s =
      .ok none

theorem spends_replayWispClosed (limit : t.metadata.maxIterations.getD 0 ≤ m)
    (root : t.rootID = s.rootID) :
    Spends ids m (replayWispClosed (store ids) s.rootID id script) t := by
  rw [← root]
  exact Spends.then (holds_onError.mpr (spends_HandleWispClosed limit)) fun _ => trivial

variable (created : s.created = true)

include limit created

theorem spends_reconcileActiveWisp {w : ActiveWisp} :
    Spends ids m (reconcileActiveWisp (store ids) s.rootID s.metadata w script) s := by
  refine Holds.bind
    (Q := fun _ t => t.rootID = s.rootID ∧ t.metadata.maxIterations.getD 0 ≤ m) ?_ ?_
  · exact holds_onlyIf.mpr
      ⟨fun _ => holds_set rfl created trivial ⟨rfl, limit⟩, fun _ => ⟨rfl, limit⟩⟩
  · rintro _ t ⟨root, limit⟩
    split
    next => exact trivial
    next => exact trivial
    next =>
      refine holds_else trivial fun _ => ?_
      exact (spends_replayWispClosed limit root).then fun _ => only_ret _
    next => exact trivial

theorem spends_adoptFirstWisp : Spends ids m (adoptFirstWisp (store ids) s.rootID id script) s := by
  refine query_then (fun _ => trivial) fun info _ => ?_
  refine set_then rfl created trivial ?_
  refine set_then rfl created trivial ?_
  refine set_then rfl created trivial ?_
  refine holds_bind.mpr (holds_onlyIf.mpr ⟨fun _ => ?_, fun _ => trivial⟩)
  exact spends_replayWispClosed limit rfl

theorem spends_reconcileMissingState (positive : 0 < m) :
    Spends ids m (reconcileMissingState (store ids) s.rootID s.metadata script) s := by
  refine answer_then (FindByIdempotencyKey_root s 1) ?_
  split
  next => exact spends_adoptFirstWisp limit created
  next =>
    refine Only.holds ?_ s
    refine (only_mustGet (budgeted_pourWisp (by omega))).bind fun first => ?_
    refine only_then trivial (only_then trivial ?_)
    exact only_then trivial (only_ret _)

theorem spends_reconcileActive (active : s.metadata.state = .active)
    (afloat : Adrift ids s → (s.closedCount : Int) < m) :
    Spends ids m (reconcileActive (store ids) s.rootID s.metadata script) s := by
  refine holds_ite.mpr
    ⟨fun _ => only_completeTerminalTransition.holds s, fun endless => inspect_then (fun _ => trivial) ?_⟩
  intro found told
  cases found with
  | some w => exact spends_reconcileActiveWisp limit created
  | none =>
    have within := afloat ⟨active, by simpa using endless, told⟩
    refine answer_then (Children_root s) ?_
    rw [(statsOf_childStats s.rootID s.wisps.rows).count]
    refine Only.holds ?_ s
    refine (only_nextWisp (by push_cast; exact within)).bind fun next => ?_
    refine only_then trivial (only_then trivial ?_)
    exact (only_attempt trivial).bind fun _ => only_ret _

omit limit created

theorem only_reconcileWaitingManual {σ : Type} {S : ConvergenceStore σ} {root : String}
    {md : LoopMeta} : (reconcileWaitingManual S root md).Only (Budgeted m) := by
  refine Only.ite (fun _ => only_completeTerminalTransition) fun _ => ?_
  refine only_query.bind fun children => ?_
  split
  next => exact trivial
  next =>
    refine Only.ite (fun _ => ?_) fun _ => only_then trivial (only_ret _)
    exact Only.ite (fun _ => trivial) fun _ => only_then trivial (only_ret _)

theorem spends_reconcileBead (limit : s.metadata.maxIterations.getD 0 ≤ m) (positive : 0 < m)
    (afloat : Adrift ids s → (s.closedCount : Int) < m) :
    Spends ids m (reconcileBead (store ids) s.rootID script) s := by
  refine holds_onError.mpr (Holds.bind (Q := fun _ _ => True) ?_ fun _ _ _ => trivial)
  refine metadata_then (fun _ => trivial) fun created => ?_
  cases state : s.metadata.state with
  | missing => exact spends_reconcileMissingState limit created positive
  | creating =>
    refine Only.holds ?_ s
    refine only_then trivial (only_then trivial ?_)
    exact only_then trivial (only_then trivial (only_ret _))
  | terminated =>
    refine Only.holds (only_query.bind fun info => ?_) s
    refine Only.ite (fun _ => only_ret _) fun _ => ?_
    refine (only_onlyIf fun _ => only_must trivial).bind fun _ => ?_
    exact only_then trivial (only_ret _)
  | waitingManual => exact only_reconcileWaitingManual.holds s
  | waitingTrigger =>
    refine Only.holds ?_ s
    exact Only.ite (fun _ => only_completeTerminalTransition) fun _ => only_ret _
  | active => exact spends_reconcileActive limit created state afloat
  | unknown text => exact trivial

end LoopStore

end GasCity
