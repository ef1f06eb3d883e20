import GasCity.LoopProcess

namespace GasCity.LoopStore

open Program

variable {s t : LoopStore} {w x : Wisp} {script : GateResult} {ids : IDSupply} {cfg : GateConfig}
  {tc : TriggerConfig}

structure Ahead (s : LoopStore) (w : Wisp) (t : LoopStore) (id : String) : Prop where
  unset : id = "" → poursAhead s.metadata w.iteration = false ∧ ¬ t.PendingValid (w.iteration + 1)
  set : id ≠ "" → (∃ x, t.wispAt (w.iteration + 1) = some x ∧ x.id = id) ∧
    (poursAhead s.metadata w.iteration = true ∨ t.PendingValid (w.iteration + 1))

theorem planFor_eq (gate : ParseGateConfig s.metadata = .ok cfg)
    (trigger : ParseTriggerConfig s.metadata = .ok tc) :
    s.planFor w script = planOf cfg tc s.metadata w.id w.iteration script := by
  unfold planFor plan
  rw [gate, trigger]

theorem poursAhead_eq {md : LoopMeta} {n : Nat} (gate : ParseGateConfig md = .ok cfg)
    (trigger : ParseTriggerConfig md = .ok tc) :
    poursAhead md n = (decide ((n : Int) < md.maxIterations.getD 0) &&
      !(needsManualWithoutGate cfg || tc.Enabled)) := by
  unfold poursAhead
  rw [gate, trigger]

variable {E : HandlerError → LoopStore → Prop} {ahead : Speculation}

theorem holds_burnBefore {doing ahead : String} (due : s.Unprocessed w) (prep : Prep s w script t)
    (known : Ahead s w t ahead)
    (burns : (∃ r, s.planFor w script = .hold r) ∨ ∃ q, s.planFor w script = .finish q) :
    (burnBefore (store ids) doing s.rootID ahead).Holds (exec ids) (Stage s w script)
      (fun _ u => Ready s w script u) E t := by
  have calm := prep.undecided.poursAhead w.iteration
  have leftover : Leftover (s.planFor w script) t w.iteration ↔
      poursAhead s.metadata w.iteration = false ∧ ¬ t.PendingValid (w.iteration + 1) ∧
        (t.wispAt (w.iteration + 1)).isSome := by
    rw [← calm]
    rcases burns with ⟨r, plan⟩ | ⟨q, plan⟩ <;> rw [plan] <;> exact Iff.rfl
  have burned : (s.planFor w script).Burns := by
    rcases burns with ⟨r, plan⟩ | ⟨q, plan⟩ <;> rw [plan] <;> trivial
  refine holds_onError.mpr (holds_burnSpeculativeWisp due prep burned ?_ ?_)
  · intro unset
    obtain ⟨quiet, invalid⟩ := known.unset unset
    rw [leftover]
    exact ⟨fun there => ⟨quiet, invalid, there⟩, fun left => left.2.2⟩
  · intro set
    obtain ⟨there, why⟩ := known.set set
    refine ⟨fun left => ?_, there⟩
    obtain ⟨quiet, invalid, _⟩ := leftover.mp left
    rcases why with ahead | valid
    · rw [quiet] at ahead
      cases ahead
    · exact invalid valid

theorem holds_settle {result : GateResult} (due : s.Unprocessed w) (prep : Prep s w script t)
    (known : Ahead s w t ahead.wispID) (poured : ahead.pourError = none) (plan : s.planFor w script =
      settlePlan cfg tc w.iteration (s.metadata.maxIterations.getD 0) result.outcome) :
    Closes ids s w script
      (settle (store ids) s.rootID w.id w.iteration cfg tc s.metadata result ahead) E t := by
  unfold settle
  unfold settlePlan at plan
  split
  next timeout =>
    rw [if_pos timeout] at plan
    refine (holds_burnBefore due prep known (.inl ⟨_, plan⟩)).bind ?_
    intro _ u ready
    exact holds_transitionToWaitingManual due ready plan
  next timeout =>
    rw [if_neg timeout] at plan
    split
    next reason terminal =>
      rw [terminal] at plan
      refine (holds_burnBefore due prep known (.inr ⟨_, plan⟩)).bind ?_
      intro _ u ready
      exact holds_terminate due ready plan
    next terminal =>
      rw [terminal] at plan
      have fine : ¬ ahead.pourError.isSome = true := by
        rw [poured]
        simp
      rw [if_neg fine]
      split
      next enabled =>
        rw [if_pos enabled] at plan
        exact holds_transitionToWaitingTrigger due prep plan
      next enabled =>
        rw [if_neg enabled] at plan
        exact holds_iterate due prep plan (fun set => (known.set set).1)
          fun unset => (known.unset unset).1

theorem planOf_persisted {md : LoopMeta} (persisted : md.gateOutcomeWisp = w.id) :
    planOf cfg tc md w.id w.iteration script =
      settlePlan cfg tc w.iteration (md.maxIterations.getD 0) md.gateOutcome := by
  unfold planOf
  rw [if_pos persisted]

theorem Ahead.alike {u : LoopStore} {id : String} (known : Ahead s w t id) (alike : Alike t u) :
    Ahead s w u id := by
  refine ⟨?_, ?_⟩
  · intro unset
    rw [alike.pendingValid]
    exact known.unset unset
  · intro set
    rw [alike.pendingValid, alike.wispAt]
    exact known.set set

theorem holds_applyWrites (prep : Prep s w script t) (writes : List (MetaWrite × String))
    (neutral : ∀ m ∈ writes, m.1.neutral = true) :
    (applyWrites s.rootID writes).Holds (exec ids) (Stage s w script)
      (fun _ u => Prep s w script u ∧ Alike t u) E t := by
  induction writes generalizing t with
  | nil => exact ⟨prep, Alike.refl t⟩
  | cons m rest ih =>
    have first := neutral m List.mem_cons_self
    refine set_then prep.rootID prep.created
      (.prepare prep (.note _ (MetaWrite.neutral_prepares first))) ?_
    have kept := ih (prep.neutral first) fun m' mem => neutral m' (List.mem_cons_of_mem m mem)
    refine kept.mono (fun _ _ h => h) ?_ (fun _ _ h => h)
    rintro _ u ⟨prep, alike⟩
    exact ⟨prep, (alike_note first).trans alike⟩

theorem holds_persistGateOutcome {ahead : String} (due : s.Unprocessed w) (prep : Prep s w script t)
    (known : Ahead s w t ahead) (gate : ParseGateConfig s.metadata = .ok cfg)
    (trigger : ParseTriggerConfig s.metadata = .ok tc) (scripted : Scripted cfg)
    (fresh : t.metadata.gateOutcomeWisp ≠ w.id) :
    (persistGateOutcome s.rootID w.id (evaluateGate cfg script)).Holds (exec ids)
      (Stage s w script) (fun _ u => Prep s w script u ∧ Ahead s w u ahead) E t := by
  have plan_of : ∀ u : LoopStore, Undecided s.metadata u.metadata →
      u.planFor w script = planOf cfg tc u.metadata w.id w.iteration script := by
    intro u same
    exact planFor_eq (same.parseGate.trans gate) (same.parseTrigger.trans trigger)
  have outcome : Prep s w script (t.note (.gateOutcome (evaluateGate cfg script).outcome)) := by
    refine prep.note rfl ?_ (.inl rfl) Iff.rfl
    rw [plan_of _ (undecided_note prep.undecided rfl), plan_of t prep.undecided, scripted.planOf_eq fresh]
    exact scripted.planOf_eq fresh
  refine holds_bind.mpr (set_then prep.rootID prep.created
    (.prepare prep (.note _ rfl)) ?_)
  refine (holds_applyWrites outcome _ (by simp [MetaWrite.neutral])).mono (fun _ _ h => h) ?_
    (fun _ _ h => h)
  rintro _ u ⟨prep_u, alike⟩
  refine holds_bind.mpr (holds_ret.mpr (holds_onlyIf.mpr
    ⟨fun _ => ?_, fun unset => absurd (id_ne_empty due.found) unset⟩))
  refine holds_set prep_u.rootID prep_u.created (.prepare prep_u (.note _ rfl)) ⟨?_, ?_⟩
  · refine prep_u.note rfl ?_ (.inr ⟨rfl, cfg, gate, scripted⟩) Iff.rfl
    have fresh_u : u.metadata.gateOutcomeWisp ≠ w.id := by
      rw [alike.gateOutcomeWisp]
      exact fresh
    have persisted : (u.note (.gateOutcomeWisp w.id)).metadata.gateOutcomeWisp = w.id := rfl
    rw [plan_of _ (undecided_note prep_u.undecided rfl), plan_of u prep_u.undecided,
      scripted.planOf_eq fresh_u, planOf_persisted persisted]
    show settlePlan cfg tc w.iteration (u.metadata.maxIterations.getD 0) u.metadata.gateOutcome = _
    rw [alike.gateOutcome]
    rfl
  · have noted : Ahead s w (t.note (.gateOutcome (evaluateGate cfg script).outcome)) ahead :=
      ⟨known.unset, known.set⟩
    have here := noted.alike alike
    exact ⟨here.unset, here.set⟩

theorem pendingIsValid_iff {n : Nat} (created : t.created = true) :
    pendingIsValid (store ids) t t.rootID (IdempotencyKey t.rootID n) t.metadata.pendingNextWisp =
      true ↔ t.PendingValid n := by
  rw [pendingIsValid, GetBead_store]
  cases found : t.wisps.find t.metadata.pendingNextWisp with
  | some x =>
    rw [GetBead_of_find found]
    have id := KeyedList.key_of_find found
    have at_x := wispAt_of_find found
    simp only [Wisp.info, IdempotencyKey, beq_self_eq_true, Bool.true_and, Bool.and_eq_true,
      beq_iff_eq, bne_iff_ne, WispKey.wisp.injEq, Option.some.injEq, true_and]
    constructor
    · rintro ⟨rfl, status⟩
      exact ⟨x, at_x, id, status⟩
    · rintro ⟨y, at_y, same, status⟩
      have at_y' := find_of_wispAt at_y
      rw [same, found] at at_y'
      cases Option.some.inj at_y'
      exact ⟨(wispAt_eq_some_iff.mp at_y).2, status⟩
  | none =>
    have no_pending : ¬ ∃ x, t.wispAt n = some x ∧ x.id = t.metadata.pendingNextWisp ∧
        x.status ≠ .closed := by
      rintro ⟨x, at_x, id, _⟩
      have here := find_of_wispAt at_x
      rw [id, found] at here
      cases here
    refine iff_of_false ?_ no_pending
    by_cases same : t.metadata.pendingNextWisp = t.rootID
    · rw [same, GetBead_root created]
      simp [rootInfo, IdempotencyKey]
    · rw [GetBead_of_none found same]
      simp

theorem holds_validPending {P : LoopStore → StoreOp → Prop} {r : String} {n : Nat} (root : t.rootID = r)
    (created : t.created = true)
    (clear : ¬ t.PendingValid n → P t (.setMetadata r (.pendingNextWisp ""))) :
    (validPendingNextWisp (store ids) r (IdempotencyKey r n) t.metadata.pendingNextWisp).Holds
      (exec ids) P
      (fun id u => (id = "" ∧ ¬ t.PendingValid n ∧ (u = t ∨ u = t.note (.pendingNextWisp ""))) ∨
        (u = t ∧ t.PendingValid n ∧ ∃ x, t.wispAt n = some x ∧ x.id = id)) E t := by
  subst root
  refine holds_ite.mpr ⟨fun unset => ?_, fun set => ?_⟩
  · exact .inl ⟨rfl, not_pendingValid_empty unset, .inl rfl⟩
  · have valid_iff : pendingIsValid (store ids) t t.rootID (IdempotencyKey t.rootID n)
        t.metadata.pendingNextWisp = true ↔ t.PendingValid n := pendingIsValid_iff created
    refine holds_bind.mpr (holds_look.mpr (holds_ite.mpr
      ⟨fun valid => ?_, fun invalid => ?_⟩))
    · obtain ⟨x, found, id, running⟩ := valid_iff.mp valid
      exact .inr ⟨rfl, ⟨x, found, id, running⟩, x, found, id⟩
    · have not_here : ¬ t.PendingValid n := fun here => invalid (valid_iff.mpr here)
      refine holds_bind.mpr (holds_attempt_set rfl created (clear not_here) ?_)
      exact .inl ⟨rfl, not_here, .inr rfl⟩

theorem holds_validPendingNextWisp (prep : Prep s w script t)
    (pending : t.metadata.pendingNextWisp = s.metadata.pendingNextWisp) :
    (validPendingNextWisp (store ids) s.rootID (IdempotencyKey s.rootID (w.iteration + 1))
        s.metadata.pendingNextWisp).Holds (exec ids) (Stage s w script)
      (fun id u => Prep s w script u ∧ u.metadata.gateOutcomeWisp = t.metadata.gateOutcomeWisp ∧
        (id = "" → ¬ u.PendingValid (w.iteration + 1)) ∧
        (id ≠ "" → u.PendingValid (w.iteration + 1) ∧
          ∃ x, u.wispAt (w.iteration + 1) = some x ∧ x.id = id)) E t := by
  rw [← pending]
  refine (holds_validPending prep.rootID prep.created
    (fun _ => .prepare prep (.note _ rfl))).mono (fun _ _ h => h) ?_ (fun _ _ h => h)
  rintro id u (⟨rfl, invalid, rfl | rfl⟩ | ⟨rfl, valid, x, found, rfl⟩)
  · exact ⟨prep, rfl, fun _ => invalid, fun set => absurd rfl set⟩
  · exact ⟨prep.clearPending invalid, rfl, fun _ => not_pendingValid_empty rfl,
      fun set => absurd rfl set⟩
  · exact ⟨prep, rfl, fun unset => absurd unset (id_ne_empty (find_of_wispAt found)),
      fun _ => ⟨valid, x, found, rfl⟩⟩

theorem holds_pourAhead (prep : Prep s w script t) (ahead : poursAhead s.metadata w.iteration = true)
    (below : (w.iteration : Int) < s.metadata.maxIterations.getD 0)
    (settles : (s.planFor w script).Settles) :
    (pourAhead (store ids) s.rootID (IdempotencyKey s.rootID (w.iteration + 1)) s.metadata).Holds
      (exec ids) (Stage s w script)
      (fun res u => Prep s w script u ∧ u.metadata.gateOutcomeWisp = t.metadata.gateOutcomeWisp ∧
        Ahead s w u res.wispID ∧ res.pourError = none) E t := by
  have ahead_of : ∀ u : LoopStore, Undecided s.metadata u.metadata →
      poursAhead u.metadata w.iteration = true := by
    intro u same
    rw [same.poursAhead]
    exact ahead
  obtain ⟨_, _, _, metadata, _, x, found, id, _⟩ := pour_spec ids t (w.iteration + 1) false
  have poured : Prep s w script (t.pour ids (w.iteration + 1) false).2 := by
    refine prep.poured (fun live => absurd live (by simp)) (fun _ => ⟨ahead, settles⟩)
      (Leftover.of_ahead settles ?_ ?_)
    · rw [metadata]
      exact ahead_of t prep.undecided
    · exact ahead_of t prep.undecided
  refine holds_bind.mpr (holds_poured (exec_pourSpeculativeWisp prep.rootID prep.created)
    (.prepare prep (.pourAhead _ below)) ?_)
  have set : (t.pour ids (w.iteration + 1) false).1 ≠ "" := by
    rw [← id]
    exact id_ne_empty (find_of_wispAt found)
  refine holds_bind.mpr (holds_onlyIf.mpr ⟨fun _ => ?_, fun unset => absurd set unset⟩)
  refine holds_onError.mpr (holds_set poured.rootID poured.created
    (.prepare poured (.note _ rfl)) ⟨?_, ?_, ?_, rfl⟩)
  · refine poured.note rfl rfl (.inl rfl) (Leftover.of_ahead settles ?_ (ahead_of _ poured.undecided))
    exact ahead_of _ (undecided_note poured.undecided rfl)
  · show (t.pour ids (w.iteration + 1) false).2.metadata.gateOutcomeWisp = _
    rw [metadata]
  · exact ⟨fun unset => absurd unset set, fun _ => ⟨⟨x, found, id⟩, .inl ahead⟩⟩

theorem holds_holdForOperator {reason : WaitReason} (due : s.Unprocessed w) (prep : Prep s w script t)
    (known : Ahead s w t ahead.wispID) (hold : s.planFor w script = .hold reason) :
    Closes ids s w script (holdForOperator (store ids) s.rootID w.id w.iteration reason ahead) E t := by
  refine (holds_burnBefore due prep known (.inl ⟨_, hold⟩)).bind ?_
  intro _ u ready
  exact holds_transitionToWaitingManual due ready hold

theorem holds_evaluateAndSettle (due : s.Unprocessed w) (prep : Prep s w script t)
    (known : Ahead s w t ahead.wispID) (poured : ahead.pourError = none)
    (same : t.metadata.gateOutcomeWisp = s.metadata.gateOutcomeWisp)
    (gate : ParseGateConfig s.metadata = .ok cfg) (trigger : ParseTriggerConfig s.metadata = .ok tc)
    (fits : ¬ (s.metadata.gateOutcomeWisp ≠ w.id ∧ cfg.mode = .condition ∧ cfg.condition = "")) :
    Closes ids s w script
      (evaluateAndSettle (store ids) s.rootID w.id w.iteration cfg tc s.metadata script ahead) E t := by
  have plan : s.planFor w script = planOf cfg tc s.metadata w.id w.iteration script :=
    planFor_eq gate trigger
  refine holds_ite.mpr ⟨fun persisted => ?_, fun fresh => ?_⟩
  · rw [planOf_persisted persisted] at plan
    exact holds_settle due prep known poured plan
  · have condition : ¬ (cfg.mode = .condition ∧ cfg.condition = "") := fun h => fits ⟨fresh, h⟩
    refine holds_ite.mpr ⟨fun manual => ?_, fun manual => ?_⟩
    · refine holds_holdForOperator due prep known (plan.trans ?_)
      unfold planOf
      rw [if_neg fresh, if_neg condition, if_pos manual]
    · refine holds_ite.mpr ⟨fun hybrid => ?_, fun hybrid => ?_⟩
      · refine holds_holdForOperator due prep known (plan.trans ?_)
        unfold planOf
        rw [if_neg fresh, if_neg condition, if_neg manual, if_pos hybrid]
      · have scripted : Scripted cfg := ⟨condition, manual, hybrid⟩
        rw [scripted.planOf_eq fresh] at plan
        have fresh_t : t.metadata.gateOutcomeWisp ≠ w.id := by
          rw [same]
          exact fresh
        refine Holds.bind (holds_onError.mpr
          (holds_persistGateOutcome due prep known gate trigger scripted fresh_t)) ?_
        rintro _ u ⟨prep, known⟩
        exact holds_settle due prep known poured plan

theorem holds_refuseGate {α : Type} {Q : α → LoopStore → Prop} (due : s.Unprocessed w)
    (prep : Prep s w script t)
    (pending : t.metadata.pendingNextWisp = s.metadata.pendingNextWisp)
    (refuse : s.planFor w script = .refuse) :
    (refuseGate (store ids) s.rootID (IdempotencyKey s.rootID (w.iteration + 1)) s.metadata).Holds
      (exec ids) (Stage s w script) Q (fun _ u => Failed s w script u) t := by
  have burns : (s.planFor w script).Burns := by
    rw [refuse]
    trivial
  refine (holds_validPendingNextWisp prep pending).bind ?_
  rintro id u ⟨prep, _, unset, set⟩
  refine Holds.bind (holds_onError.mpr
    (holds_burnSpeculativeWisp due prep burns ?_ ?_)) ?_
  · intro empty
    rw [refuse]
    exact ⟨fun there => ⟨unset empty, there⟩, fun left => left.2⟩
  · intro some_
    obtain ⟨valid, there⟩ := set some_
    exact ⟨not_leftover_of_pending burns valid, there⟩
  · intro _ v ready
    exact ⟨ready, .inr refuse⟩

theorem Prep.failed_invalid (prep : Prep s w script t) (invalid : s.planFor w script = .invalid) :
    Failed s w script t := by
  refine ⟨⟨prep, ?_⟩, .inl invalid⟩
  have left := prep.leftover
  rw [invalid] at left ⊢
  exact left

section Speculating

variable (gate : ParseGateConfig s.metadata = .ok cfg) (trigger : ParseTriggerConfig s.metadata = .ok tc)

include gate trigger

theorem ahead_pending {id : String}
    (kept : ¬ ((w.iteration : Int) < s.metadata.maxIterations.getD 0 ∧
      ¬ (needsManualWithoutGate cfg || tc.Enabled) = true ∧ id = ""))
    (unset : id = "" → ¬ t.PendingValid (w.iteration + 1))
    (set : id ≠ "" → t.PendingValid (w.iteration + 1) ∧
      ∃ x, t.wispAt (w.iteration + 1) = some x ∧ x.id = id) : Ahead s w t id := by
  refine ⟨fun empty => ⟨?_, unset empty⟩, fun some_ => ⟨(set some_).2, .inr (set some_).1⟩⟩
  rw [poursAhead_eq gate trigger]
  by_contra ahead
  rw [Bool.not_eq_false, Bool.and_eq_true, decide_eq_true_eq, Bool.not_eq_true'] at ahead
  exact kept ⟨ahead.1, by rw [ahead.2]; simp, empty⟩

variable (fits : ¬ (s.metadata.gateOutcomeWisp ≠ w.id ∧ cfg.mode = .condition ∧ cfg.condition = ""))

include fits

theorem settles_of_ahead (free : tc.Enabled = false) : (s.planFor w script).Settles := by
  have settle_settles : ∀ outcome, (settlePlan cfg tc w.iteration
      (s.metadata.maxIterations.getD 0) outcome).Settles := by
    intro outcome
    unfold settlePlan
    split
    next => trivial
    next =>
      split
      next => trivial
      next =>
        rw [free]
        trivial
  rw [planFor_eq gate trigger]
  unfold planOf
  split
  next => exact settle_settles _
  next fresh =>
    rw [if_neg fun h => fits ⟨fresh, h⟩]
    split
    next => trivial
    next =>
      split
      next => trivial
      next => exact settle_settles _

theorem holds_speculate {id : String} (prep : Prep s w script t)
    (unset : id = "" → ¬ t.PendingValid (w.iteration + 1))
    (set : id ≠ "" → t.PendingValid (w.iteration + 1) ∧
      ∃ x, t.wispAt (w.iteration + 1) = some x ∧ x.id = id) :
    (speculate (store ids) s.rootID (IdempotencyKey s.rootID (w.iteration + 1)) w.iteration cfg tc
        s.metadata id).Holds (exec ids) (Stage s w script)
      (fun res u => Prep s w script u ∧ u.metadata.gateOutcomeWisp = t.metadata.gateOutcomeWisp ∧
        Ahead s w u res.wispID ∧ res.pourError = none) E t := by
  refine holds_ite.mpr ⟨fun pours => ?_, fun kept => ?_⟩
  · obtain ⟨below, free, _⟩ := pours
    have quiet : (needsManualWithoutGate cfg || tc.Enabled) = false := by simpa using free
    have settles : (s.planFor w script).Settles :=
      settles_of_ahead gate trigger fits (Bool.or_eq_false_iff.mp quiet).2
    have ahead : poursAhead s.metadata w.iteration = true := by
      rw [poursAhead_eq gate trigger, quiet]
      simpa using below
    exact holds_pourAhead prep ahead below settles
  · exact ⟨prep, rfl, ahead_pending gate trigger kept unset set, rfl⟩

end Speculating

theorem holds_processWisp (due : s.Unprocessed w) :
    Closes ids s w script
      (processWisp (store ids) s.rootID w.id w.iteration s.metadata script) (fun _ u => Failed s w script u) s := by
  have start : Prep s w script s := due.prep
  refine holds_bind.mpr (holds_query
    (a := (childStats (s.wisps.rows.map (Wisp.info s.rootID)) s.rootID).closedCount) ?_ ?_)
  · show (s.Children s.rootID).map _ = _
    rw [Children_root]
    rfl
  refine Holds.bind (Q := fun _ u => Prep s w script u ∧ Alike s u)
    (holds_onlyIf.mpr ⟨fun _ => ?_, fun _ => ⟨start, Alike.refl s⟩⟩) ?_
  · exact holds_set rfl due.created (.prepare start (.note _ rfl))
      ⟨start.neutral rfl, alike_note rfl⟩
  rintro _ t ⟨prep, alike⟩
  cases gate : ParseGateConfig s.metadata with
  | error e =>
    refine prep.failed_invalid ?_
    unfold planFor plan
    rw [gate]
  | ok cfg =>
    cases trigger : ParseTriggerConfig s.metadata with
    | error e =>
      refine prep.failed_invalid ?_
      unfold planFor plan
      rw [gate, trigger]
    | ok tc =>
      refine holds_ite.mpr ⟨fun unfit => ?_, fun fits => ?_⟩
      · refine holds_refuseGate due prep alike.pendingNextWisp ?_
        rw [planFor_eq gate trigger]
        unfold planOf
        rw [if_neg unfit.1, if_pos unfit.2]
      · refine (holds_validPendingNextWisp prep alike.pendingNextWisp).bind ?_
        rintro id u ⟨prep, same, unset, set⟩
        have same' := same.trans alike.gateOutcomeWisp
        refine (holds_speculate gate trigger fits prep unset set).bind ?_
        rintro ahead v ⟨prep, outcome, known, poured⟩
        exact holds_evaluateAndSettle due prep known poured (outcome.trans same') gate trigger fits

/-- Every write of the handler on an unprocessed wisp is one of its stages, and it ends as the plan
says. -/
theorem holds_HandleWispClosed (due : s.Unprocessed w) :
    Closes ids s w script
      (HandleWispClosed (store ids) s.rootID w.id script) (fun _ u => Failed s w script u) s := by
  refine answer_then (GetMetadata_root due.created) ?_
  rw [if_neg due.running]
  refine answer_then (GetBead_of_find due.found) ?_
  refine holds_bind.mpr (holds_look.mpr ?_)
  rw [lastProcessedIteration_eq ids due.created, if_neg (by have := due.later; omega)]
  exact holds_processWisp due

end GasCity.LoopStore
