import GasCity.LoopStages

namespace GasCity.LoopStore

open Program

variable {s t : LoopStore} {w x : Wisp} {script : GateResult} {ids : IDSupply} {r : String}
  {E : HandlerError → LoopStore → Prop}
  {P : LoopStore → StoreOp → Prop} {result : GateResult} {md : LoopMeta}

/-- The call goes through the stages of closing `w` and ends as the plan says. -/
abbrev Closes (ids : IDSupply) (s : LoopStore) (w : Wisp) (script : GateResult)
    (p : Call LoopStore HandlerResult) (E : HandlerError → LoopStore → Prop) (t : LoopStore) : Prop :=
  p.Holds (exec ids) (Stage s w script) (fun res u => Final s w script res.action u) E t

theorem holds_transitionToWaitingManual {reason : WaitReason} {outcome : Option GateOutcome}
    (due : s.Unprocessed w) (ready : Ready s w script t) (hold : s.planFor w script = .hold reason) :
    Closes ids s w script (transitionToWaitingManual s.rootID w.id w.iteration reason outcome) E t := by
  have root := ready.rootID
  have created := ready.created
  unfold transitionToWaitingManual commit
  simp only [applyWrites, holds_bind]
  refine holds_set root created (.prepare ready.toPrep (.hold reason ready hold)) ?_
  refine holds_set root created (.holdReason reason ready hold) ?_
  refine holds_set root created (.holdState reason ready hold) ?_
  refine holds_onlyIf.mpr ⟨fun _ => ?_, fun unset => absurd (id_ne_empty due.found) unset⟩
  exact holds_set root created (.holdMark reason ready hold) (.held reason ready hold)

theorem holds_terminate {reason : TerminalReason} (due : s.Unprocessed w) (ready : Ready s w script t)
    (finish : s.planFor w script = .finish reason) :
    Closes ids s w script (terminate s.rootID w.id w.iteration result reason "controller") E t := by
  have root := ready.rootID
  have created := ready.created
  unfold terminate commit
  simp only [applyWrites, holds_bind]
  refine holds_set root created (.prepare ready.toPrep (.finish reason ready finish)) ?_
  refine holds_set root created (.finishActor reason ready finish) ?_
  refine holds_set root created (.finishState reason ready finish) ?_
  refine holds_must (exec_closeRoot root created) (.finishClose reason ready finish) ?_
  refine holds_onlyIf.mpr ⟨fun _ => ?_, fun unset => absurd (id_ne_empty due.found) unset⟩
  exact holds_set root created (.finishMark reason ready finish) (.finished reason ready finish)

theorem holds_clearScopedVerdict (prep : Prep s w script t) :
    (clearScopedVerdict s.rootID w.id md).Holds (exec ids) (Stage s w script)
      (fun _ u => Prep s w script u ∧ u.wispAt (w.iteration + 1) = t.wispAt (w.iteration + 1))
      E t := by
  have root := prep.rootID
  have created := prep.created
  have once : Prep s w script (t.note (.agentVerdict "")) := prep.neutral rfl
  refine holds_onlyIf.mpr ⟨fun _ => ?_, fun _ => ⟨prep, rfl⟩⟩
  refine set_then root created (.prepare prep (.note _ rfl)) ?_
  refine holds_set root created (.prepare once (.note _ rfl)) ⟨?_, rfl⟩
  exact once.neutral rfl

theorem holds_transitionToWaitingTrigger (due : s.Unprocessed w) (prep : Prep s w script t)
    (await : s.planFor w script = .await) :
    Closes ids s w script (transitionToWaitingTrigger s.rootID w.id w.iteration result md) E t := by
  refine (holds_clearScopedVerdict prep).bind ?_
  rintro _ u ⟨prep, _⟩
  have ready : Ready s w script u := by
    refine ⟨prep, ?_⟩
    have left := prep.leftover
    rw [await] at left ⊢
    exact left
  have root := ready.rootID
  have created := ready.created
  unfold commit
  simp only [applyWrites, holds_bind]
  refine holds_set root created (.prepare ready.toPrep (.await ready await)) ?_
  refine holds_set root created (.awaitState ready await) ?_
  refine holds_onlyIf.mpr ⟨fun _ => ?_, fun unset => absurd (id_ne_empty due.found) unset⟩
  exact holds_set root created (.awaitMark ready await) (.awaited ready await)

theorem holds_adopt (due : s.Unprocessed w) (prep : Prep s w script t)
    (found : t.wispAt (w.iteration + 1) = some x) (next : s.planFor w script = .next) :
    Closes ids s w script (adopt s.rootID w.id w.iteration result x.id) E t := by
  have root := prep.rootID
  have created := prep.created
  unfold adopt commit
  simp only [applyWrites, holds_bind]
  refine holds_must (exec_activateWisp (find_of_wispAt found)) (.prepare prep (.next x found next)) ?_
  refine holds_set root created (.nextActive x prep found next) ?_
  refine holds_onlyIf.mpr ⟨fun _ => ?_, fun unset => absurd (id_ne_empty due.found) unset⟩
  refine holds_set root created (.nextMark x prep found next) ?_
  exact holds_attempt_set root created (.nextPending x prep found next)
    (.nexted x prep found next)

theorem holds_iterate {ahead : String} (due : s.Unprocessed w) (prep : Prep s w script t)
    (next : s.planFor w script = .next)
    (poured : ahead ≠ "" → ∃ x, t.wispAt (w.iteration + 1) = some x ∧ x.id = ahead)
    (quiet : ahead = "" → poursAhead s.metadata w.iteration = false) :
    Closes ids s w script (iterate (store ids) s.rootID w.id w.iteration result md ahead) E t := by
  refine (holds_clearScopedVerdict prep).bind ?_
  rintro _ u ⟨prep, same⟩
  refine holds_ite.mpr ⟨fun some_ => ?_, fun unset => ?_⟩
  · obtain ⟨x, found, rfl⟩ := poured some_
    exact holds_adopt due prep (same.trans found) next
  · refine holds_bind.mpr (holds_poured (exec_pourWisp prep.rootID prep.created)
      (.prepare prep (.pourNow _ next)) ?_)
    have left : Leftover (s.planFor w script) (u.pour ids (w.iteration + 1) true).2 w.iteration ↔
        Leftover (s.planFor w script) u w.iteration := by
      rw [next]
      exact Iff.rfl
    have prep : Prep s w script (u.pour ids (w.iteration + 1) true).2 :=
      prep.poured (fun _ => ⟨next, quiet (not_not.mp unset)⟩) (fun hidden => absurd hidden (by simp))
        left
    obtain ⟨x, found, id, _⟩ := (pour_spec ids u (w.iteration + 1) true).there
    rw [← id]
    exact holds_adopt due prep found next

theorem holds_deleteBeadSubtree {depth : Nat} {Q : Unit → LoopStore → Prop}
    (found : t.wisps.find x.id = some x) (here : P t (.deleteBead x.id)) (rest : Q () (t.drop x.id)) :
    (deleteBeadSubtree (store ids) (depth + 1) x.id).Holds (exec ids) P Q E t := by
  refine answer_then (Children_of_ne (id_ne_rootID found)) ?_
  exact holds_bind.mpr (holds_must (exec_deleteBead found) here rest)

theorem holds_burnSpeculativeWisp (due : s.Unprocessed w) (prep : Prep s w script t)
    (burns : (s.planFor w script).Burns) {ahead : String}
    (known : ahead = "" → ((t.wispAt (w.iteration + 1)).isSome ↔
      Leftover (s.planFor w script) t w.iteration))
    (poured : ahead ≠ "" → ¬ Leftover (s.planFor w script) t w.iteration ∧
      ∃ x, t.wispAt (w.iteration + 1) = some x ∧ x.id = ahead) :
    (burnSpeculativeWisp (store ids) s.rootID ahead).Holds (exec ids) (Stage s w script)
      (fun _ u => Ready s w script u) E t := by
  refine holds_ite.mpr ⟨fun unset => ?_, fun some_ => ?_⟩
  · exact ⟨prep, (known unset).trans prep.leftover⟩
  · obtain ⟨gone, x, found, rfl⟩ := poured some_
    have at_id := find_of_wispAt found
    have dropped := prep.dropped due found burns gone
    have empty := wispAt_drop_self found
    refine holds_bind.mpr (holds_look.mpr (holds_bind.mpr ?_))
    refine holds_deleteBeadSubtree at_id (.prepare prep (.burn x found burns)) ?_
    refine holds_attempt_set prep.rootID prep.created (.prepare dropped (.note _ rfl))
      ⟨dropped.clearPending ?_, ?_⟩
    · rintro ⟨y, there, _⟩
      rw [empty] at there
      cases there
    · have none_left := not_leftover_of_none burns empty
      rw [dropped.leftover] at none_left
      show ((t.drop x.id).wispAt (w.iteration + 1)).isSome ↔ _
      rw [empty]
      exact ⟨fun h => absurd h (by simp), fun h => absurd h none_left⟩

end GasCity.LoopStore
