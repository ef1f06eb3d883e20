import GasCity.LoopPlan

namespace GasCity.LoopStore

variable {s t : LoopStore} {w x : Wisp} {script : GateResult} {ids : IDSupply} {n : Nat}

theorem Leftover.of_ahead {p : Plan} (settles : p.Settles)
    (here : poursAhead t.metadata n = true) (there : poursAhead s.metadata n = true) :
    Leftover p t n ↔ Leftover p s n := by
  cases p with
  | invalid | refuse | await => exact absurd settles id
  | hold | finish => simp [Leftover, here, there]
  | next => exact Iff.rfl

theorem not_leftover_of_none {p : Plan} (burns : p.Burns) (none : t.wispAt (n + 1) = none) :
    ¬ Leftover p t n := by
  cases p with
  | invalid | await | next => exact absurd burns id
  | refuse | hold | finish => simp [Leftover, none]

theorem not_leftover_of_pending {p : Plan} (burns : p.Burns) (pending : t.PendingValid (n + 1)) :
    ¬ Leftover p t n := by
  cases p with
  | invalid | await | next => exact absurd burns id
  | refuse => exact fun left => left.1 pending
  | hold | finish => exact fun left => left.2.1 pending

theorem not_pendingValid_empty (empty : t.metadata.pendingNextWisp = "") : ¬ t.PendingValid n := by
  rintro ⟨x, found, id, _⟩
  exact id_ne_empty (find_of_wispAt found) (id.trans empty)

theorem Prep.poured (prep : Prep s w script t) {live : Bool}
    (now : live = true → s.planFor w script = .next ∧ poursAhead s.metadata w.iteration = false)
    (ahead : live = false → poursAhead s.metadata w.iteration = true ∧
      (s.planFor w script).Settles)
    (left : Leftover (s.planFor w script) (t.pour ids (w.iteration + 1) live).2 w.iteration ↔
      Leftover (s.planFor w script) t w.iteration) :
    Prep s w script (t.pour ids (w.iteration + 1) live).2 := by
  have poured := pour_spec ids t (w.iteration + 1) live
  obtain ⟨rootID, created, status, metadata, others, y, found, _, origin⟩ :=
    pour_spec ids t (w.iteration + 1) live
  refine ⟨rootID.trans prep.rootID, created.trans prep.created, status.trans prep.status, ?_, ?_,
    fun i other => (others i other).trans (prep.others i other), ?_, ?_, ?_,
    left.trans prep.leftover⟩
  · rw [metadata]
    exact prep.undecided
  · unfold planFor
    rw [metadata]
    exact prep.plan
  · rw [← prep.last, poured.find_mentioned]
    rw [← prep.undecided.lastProcessedWisp]
    simp [mentioned]
  · intro z at_next
    rcases origin with same | ⟨_, status, lives, _⟩
    · rw [same] at at_next
      exact prep.successor z at_next
    · rw [found] at at_next
      cases Option.some.inj at_next
      exact .inr ⟨status, fun isLive => now (lives.symm.trans isLive),
        fun hidden => ahead (lives.symm.trans hidden)⟩
  · rw [metadata]
    exact prep.evaluated

theorem Prep.dropped (prep : Prep s w script t) (due : s.Unprocessed w)
    (found : t.wispAt (w.iteration + 1) = some x) (burns : (s.planFor w script).Burns)
    (gone : ¬ Leftover (s.planFor w script) t w.iteration) : Prep s w script (t.drop x.id) := by
  have at_id := find_of_wispAt found
  have iteration := (wispAt_eq_some_iff.mp found).2
  have empty := wispAt_drop_self found
  refine { prep with others := ?_, last := ?_, successor := ?_, leftover := ?_ }
  · intro i other
    rw [wispAt_drop_of_ne at_id (by omega)]
    exact prep.others i other
  · rw [← prep.last]
    show ((t.wisps.erase x.id).find _).map _ = _
    rw [KeyedList.find_erase]
    split
    next same =>
      have before := (prep.unprocessed due).last_iteration (x := x) (by
        rw [prep.undecided.lastProcessedWisp, same]
        exact at_id)
      omega
    next => rfl
  · intro z at_next
    rw [empty] at at_next
    cases at_next
  · constructor
    · intro left
      exact absurd left (not_leftover_of_none burns empty)
    · intro left
      exact absurd (prep.leftover.mpr left) gone

theorem Prep.clearPending (prep : Prep s w script t) (invalid : ¬ t.PendingValid (w.iteration + 1)) :
    Prep s w script (t.note (.pendingNextWisp "")) := by
  refine prep.note rfl rfl (.inl rfl) (Leftover.congr rfl ?_ rfl)
  exact ⟨fun valid => absurd valid (not_pendingValid_empty rfl), fun valid => absurd valid invalid⟩

/-- The preparation is over: the next wisp is there exactly if the plan leaves it. -/
structure Ready (s : LoopStore) (w : Wisp) (script : GateResult) (t : LoopStore) : Prop
    extends Prep s w script t where
  left : (t.wispAt (w.iteration + 1)).isSome ↔ Leftover (s.planFor w script) s w.iteration

inductive PrepOp (s : LoopStore) (w : Wisp) (script : GateResult) (t : LoopStore) : StoreOp → Prop
  | note (m : MetaWrite) : m.prepares = true → PrepOp s w script t (.setMetadata s.rootID m)
  | pourAhead (args : PourArgs) : (w.iteration : Int) < s.metadata.maxIterations.getD 0 →
      PrepOp s w script t
        (.pourSpeculativeWisp s.rootID (IdempotencyKey s.rootID (w.iteration + 1)) args)
  | pourNow (args : PourArgs) : s.planFor w script = .next →
      PrepOp s w script t (.pourWisp s.rootID (IdempotencyKey s.rootID (w.iteration + 1)) args)
  | burn (x : Wisp) : t.wispAt (w.iteration + 1) = some x → (s.planFor w script).Burns →
      PrepOp s w script t (.deleteBead x.id)
  | hold (r : WaitReason) : Ready s w script t → s.planFor w script = .hold r →
      PrepOp s w script t (.setMetadata s.rootID (.activeWisp ""))
  | finish (q : TerminalReason) : Ready s w script t → s.planFor w script = .finish q →
      PrepOp s w script t (.setMetadata s.rootID (.terminalReason q))
  | await : Ready s w script t → s.planFor w script = .await →
      PrepOp s w script t (.setMetadata s.rootID (.activeWisp ""))
  | next (x : Wisp) : t.wispAt (w.iteration + 1) = some x → s.planFor w script = .next →
      PrepOp s w script t (.activateWisp x.id)

section Commits

variable (t : LoopStore) (w x : Wisp) (r : WaitReason) (q : TerminalReason)

def holdCleared : LoopStore := t.note (.activeWisp "")

def holdExplained : LoopStore := (holdCleared t).note (.waitingReason (some r))

def holdStated : LoopStore := (holdExplained t r).note (.state .waitingManual)

def held : LoopStore := (holdStated t r).note (.lastProcessedWisp w.id)

def finishExplained : LoopStore := t.note (.terminalReason q)

def finishSigned : LoopStore := (finishExplained t q).note (.terminalActor "controller")

def finishStated : LoopStore := (finishSigned t q).note (.state .terminated)

def finished : LoopStore := (finishStated t q).closeRoot.note (.lastProcessedWisp w.id)

def awaitStated : LoopStore := (holdCleared t).note (.state .waitingTrigger)

def awaited : LoopStore := (awaitStated t).note (.lastProcessedWisp w.id)

def nextNamed : LoopStore := (t.publish x.id).note (.activeWisp x.id)

def nextMarked : LoopStore := (nextNamed t x).note (.lastProcessedWisp w.id)

def nexted : LoopStore := (nextMarked t w x).note (.pendingNextWisp "")

end Commits

inductive Stage (s : LoopStore) (w : Wisp) (script : GateResult) : LoopStore → StoreOp → Prop
  | prepare {t : LoopStore} {op : StoreOp} : Prep s w script t → PrepOp s w script t op →
      Stage s w script t op
  | holdReason {t : LoopStore} (r : WaitReason) : Ready s w script t →
      s.planFor w script = .hold r →
      Stage s w script (holdCleared t) (.setMetadata s.rootID (.waitingReason (some r)))
  | holdState {t : LoopStore} (r : WaitReason) : Ready s w script t →
      s.planFor w script = .hold r →
      Stage s w script (holdExplained t r) (.setMetadata s.rootID (.state .waitingManual))
  | holdMark {t : LoopStore} (r : WaitReason) : Ready s w script t →
      s.planFor w script = .hold r →
      Stage s w script (holdStated t r) (.setMetadata s.rootID (.lastProcessedWisp w.id))
  | finishActor {t : LoopStore} (q : TerminalReason) : Ready s w script t →
      s.planFor w script = .finish q →
      Stage s w script (finishExplained t q) (.setMetadata s.rootID (.terminalActor "controller"))
  | finishState {t : LoopStore} (q : TerminalReason) : Ready s w script t →
      s.planFor w script = .finish q →
      Stage s w script (finishSigned t q) (.setMetadata s.rootID (.state .terminated))
  | finishClose {t : LoopStore} (q : TerminalReason) : Ready s w script t →
      s.planFor w script = .finish q →
      Stage s w script (finishStated t q) (.closeBead s.rootID .handlerRoot)
  | finishMark {t : LoopStore} (q : TerminalReason) : Ready s w script t →
      s.planFor w script = .finish q →
      Stage s w script (finishStated t q).closeRoot
        (.setMetadata s.rootID (.lastProcessedWisp w.id))
  | awaitState {t : LoopStore} : Ready s w script t → s.planFor w script = .await →
      Stage s w script (holdCleared t) (.setMetadata s.rootID (.state .waitingTrigger))
  | awaitMark {t : LoopStore} : Ready s w script t → s.planFor w script = .await →
      Stage s w script (awaitStated t) (.setMetadata s.rootID (.lastProcessedWisp w.id))
  | nextActive {t : LoopStore} (x : Wisp) : Prep s w script t →
      t.wispAt (w.iteration + 1) = some x → s.planFor w script = .next →
      Stage s w script (t.publish x.id) (.setMetadata s.rootID (.activeWisp x.id))
  | nextMark {t : LoopStore} (x : Wisp) : Prep s w script t →
      t.wispAt (w.iteration + 1) = some x → s.planFor w script = .next →
      Stage s w script (nextNamed t x) (.setMetadata s.rootID (.lastProcessedWisp w.id))
  | nextPending {t : LoopStore} (x : Wisp) : Prep s w script t →
      t.wispAt (w.iteration + 1) = some x → s.planFor w script = .next →
      Stage s w script (nextMarked t w x) (.setMetadata s.rootID (.pendingNextWisp ""))

inductive Final (s : LoopStore) (w : Wisp) (script : GateResult) : HandlerAction → LoopStore → Prop
  | held {t : LoopStore} (r : WaitReason) : Ready s w script t → s.planFor w script = .hold r →
      Final s w script .waitingManual (held t w r)
  | finished {t : LoopStore} (q : TerminalReason) : Ready s w script t →
      s.planFor w script = .finish q → Final s w script q.action (finished t w q)
  | awaited {t : LoopStore} : Ready s w script t → s.planFor w script = .await →
      Final s w script .waitingTrigger (awaited t w)
  | nexted {t : LoopStore} (x : Wisp) : Prep s w script t →
      t.wispAt (w.iteration + 1) = some x → s.planFor w script = .next →
      Final s w script .iterate (nexted t w x)

def Failed (s : LoopStore) (w : Wisp) (script : GateResult) (t : LoopStore) : Prop :=
  Ready s w script t ∧ (s.planFor w script = .invalid ∨ s.planFor w script = .refuse)

end GasCity.LoopStore
