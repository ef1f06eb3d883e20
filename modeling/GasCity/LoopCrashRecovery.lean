import GasCity.LoopCrash

namespace GasCity

/-- The write before which a crash is not recovered: inside the commit, where the reconciler reads
the half-written state as another one. -/
def Torn (p : Plan) : StoreOp → Prop
  | .setMetadata _ (.waitingReason _) => True
  | .setMetadata _ (.state .waitingManual) => True
  | .setMetadata _ (.state .waitingTrigger) => True
  | .closeBead _ _ => True
  | .setMetadata _ (.lastProcessedWisp _) => ∀ r, p ≠ .hold r
  | _ => False

namespace LoopStore

variable {s t u v : LoopStore} {w x : Wisp} {script : GateResult} {ids : IDSupply} {op : StoreOp}
  {q : TerminalReason}

/-- The replay of the wisp fails and changes nothing. -/
def Stuck (t : LoopStore) (x : Wisp) (script : GateResult) : Prop :=
  (t.planFor x script = .invalid ∨ t.planFor x script = .refuse) ∧
    ((t.wispAt (x.iteration + 1)).isSome ↔ Leftover (t.planFor x script) t x.iteration)

/-- The ending under way is the planned one, with the newest closed wisp and no wisp left that the
handler would have dropped. -/
def EndsRight (s : LoopStore) (w : Wisp) (script : GateResult) (t : LoopStore) (q : TerminalReason) : Prop :=
  s.planFor w script = .finish q ∧ t.NewestClosed w ∧
    ((t.wispAt (w.iteration + 1)).isSome ↔ Leftover (s.planFor w script) s w.iteration)

/-- A loop that waits for the operator does so after the newest closed wisp, and no other wisp that is
active has been closed, but for one whose replay changes nothing. -/
def StandsRight (w : Wisp) (script : GateResult) (t : LoopStore) : Prop :=
  (t.metadata.state = .waitingManual → t.NewestClosed w) ∧
    ∀ x, t.wisps.find t.metadata.activeWisp = some x → x ≠ w → x.status = .closed → t.Stuck x script

/-- The reconciler reads the state right. -/
def Recoverable (s : LoopStore) (w : Wisp) (script : GateResult) (t : LoopStore) : Prop :=
  t.metadata.state = .terminated ∨
    match t.metadata.terminalReason with
    | some q => EndsRight s w script t q
    | none => StandsRight w script t

theorem recoverable_open (running : t.metadata.state ≠ .terminated)
    (open_ : t.metadata.terminalReason = none) :
    Recoverable s w script t ↔ StandsRight w script t := by
  unfold Recoverable
  rw [open_, or_iff_right running]

theorem recoverable_ending (running : t.metadata.state ≠ .terminated)
    (ending : t.metadata.terminalReason = some q) :
    Recoverable s w script t ↔ EndsRight s w script t q := by
  unfold Recoverable
  rw [ending, or_iff_right running]

theorem PrepOp.not_torn {p : Plan} (prepOp : PrepOp s w script t op) : ¬ Torn p op := by
  cases prepOp with
  | note m prepares =>
    cases m with
    | waitingReason | lastProcessedWisp | state =>
      cases prepares
    | _ => exact id
  | _ => exact id

theorem Lands.of_view (lands : Lands s w script v) (same : u.view = v.view) : Lands s w script u where
  state := (congrArg LoopView.state same).trans lands.state
  activeWisp := (congrArg LoopView.activeWisp same).trans lands.activeWisp
  lastProcessedWisp := (congrArg LoopView.lastProcessedWisp same).trans lands.lastProcessedWisp
  terminalReason := (congrArg LoopView.terminalReason same).trans lands.terminalReason
  waitingReason := (congrArg LoopView.waitingReason same).trans lands.waitingReason
  others i other := (congrFun (congrArg LoopView.keys same) i).trans (lands.others i other)
  next := by
    have key : (u.wispAt (w.iteration + 1)).isSome = (v.wispAt (w.iteration + 1)).isSome :=
      congrFun (congrArg LoopView.keys same) (w.iteration + 1)
    rw [key]
    exact lands.next

theorem Lands.of_pending (lands : Lands s w script (u.note (.pendingNextWisp ""))) :
    Lands s w script u :=
  { lands with }

theorem Prep.active (prep : Prep s w script t) (due : s.Due w) : t.metadata.state = .active :=
  prep.undecided.state.trans due.active

/-- A state in which the wisp is not marked is not where a plan that marks it ends. -/
theorem Prep.not_lands_unmarked (prep : Prep s w script t) (due : s.Due w) (same : u.wisps = t.wisps)
    (last : u.metadata.lastProcessedWisp = t.metadata.lastProcessedWisp)
    (marks : ∀ old, (s.planFor w script).lastProcessedWisp w.iteration old = .iter w.iteration) :
    ¬ Lands s w script u := by
  intro lands
  have marked := lands.lastProcessedWisp.trans (marks _)
  rw [ref_of_wisps same, last, prep.ref_last] at marked
  exact due.ref_last marked

section Endings

theorem Completed.facts (completed : Completed t v) : v.metadata.state = .terminated ∧
    v.metadata.terminalReason = t.metadata.terminalReason ∧ v.wisps = t.wisps := by
  obtain ⟨u, ending, ended, ⟨rfl, -⟩ | ⟨x, -, rfl⟩⟩ := completed
  · exact ⟨ended, ending.terminalReason, ending.wisps⟩
  · exact ⟨ended, ending.terminalReason, ending.wisps⟩

theorem Lands.finish (lands : Lands s w script v) (active : s.metadata.state = .active)
    (ended : v.metadata.state = .terminated) : ∃ q, s.planFor w script = .finish q ∧
      v.metadata.terminalReason = some q := by
  have state := lands.state
  have reason := lands.terminalReason
  rw [ended, active] at state
  cases plan : s.planFor w script with
  | finish q =>
    rw [plan] at reason
    exact ⟨q, rfl, reason⟩
  | _ =>
    rw [plan] at state
    cases state

theorem Ending.view_eq (ending : Ending t u) (state : u.metadata.state = t.metadata.state) :
    u.view = t.view := by
  unfold view
  rw [state, ref_of_wisps ending.wisps, ref_of_wisps ending.wisps, ending.activeWisp,
    ending.lastProcessedWisp, ending.terminalReason, ending.waitingReason]
  congr 1
  funext i
  rw [wispAt_of_wisps ending.wisps]

/-- A root that waits for a wisp, an operator or a trigger, with an ending under way. -/
structure Interrupted (t : LoopStore) (q : TerminalReason) : Prop where
  created : t.created = true
  waits : t.metadata.state = .active ∨ t.metadata.state = .waitingManual ∨
    t.metadata.state = .waitingTrigger
  reason : t.metadata.terminalReason = some q

/-- An ending that the plan did not ask for is completed all the same. -/
theorem Interrupted.elsewhere (ids : IDSupply) (ended : Interrupted u q) (due : s.Due w)
    (other : ∀ q, s.planFor w script ≠ .finish q) :
    ¬ Lands s w script (recover ids script u) ∧ ¬ Recoverable s w script u := by
  refine ⟨fun lands => ?_, fun recoverable => ?_⟩
  · obtain ⟨q, finish, -⟩ := lands.finish due.active
      (recover_ending script ids ended.created ended.waits ended.reason).facts.1
    exact other q finish
  · have running : u.metadata.state ≠ .terminated := by
      rcases ended.waits with is | is | is <;> simp [is]
    exact other q ((recoverable_ending running ended.reason).mp recoverable).1

theorem Stage.interrupted (due : s.Due w) (stage : Stage s w script t op)
    (reason : s.metadata.terminalReason = some q) (other : ∀ q, s.planFor w script ≠ .finish q) :
    Interrupted t q := by
  cases stage with
  | prepare prep | nextActive _ prep | nextMark _ prep | nextPending _ prep =>
    exact ⟨prep.created, .inl (prep.active due), prep.undecided.terminalReason.trans reason⟩
  | holdReason _ ready | holdState _ ready | awaitState ready =>
    exact ⟨ready.created, .inl (ready.active due), ready.undecided.terminalReason.trans reason⟩
  | holdMark _ ready => exact ⟨ready.created, .inr (.inl rfl), ready.undecided.terminalReason.trans reason⟩
  | awaitMark ready => exact ⟨ready.created, .inr (.inr rfl), ready.undecided.terminalReason.trans reason⟩
  | finishActor q _ plan | finishState q _ plan | finishClose q _ plan | finishMark q _ plan =>
    exact absurd plan (other q)

theorem Final.interrupted {a : HandlerAction} (due : s.Due w) (final : Final s w script a t)
    (reason : s.metadata.terminalReason = some q) (other : ∀ q, s.planFor w script ≠ .finish q) :
    Interrupted t q := by
  cases final with
  | held _ ready => exact ⟨ready.created, .inr (.inl rfl), ready.undecided.terminalReason.trans reason⟩
  | finished q _ plan => exact absurd plan (other q)
  | awaited ready => exact ⟨ready.created, .inr (.inr rfl), ready.undecided.terminalReason.trans reason⟩
  | nexted _ prep =>
    exact ⟨prep.created, .inl (prep.active due), prep.undecided.terminalReason.trans reason⟩

theorem Prep.ending_iff (prep : Prep s w script t) (due : s.Due w) (created : u.created = true)
    (state : u.metadata.state = .active) (wisps : u.wisps = t.wisps)
    (active : u.metadata.activeWisp = t.metadata.activeWisp)
    (last : u.metadata.lastProcessedWisp = t.metadata.lastProcessedWisp)
    (reason : u.metadata.terminalReason = some q)
    (waiting : u.metadata.waitingReason = t.metadata.waitingReason) :
    Lands s w script (recover ids script u) ↔ Recoverable s w script u := by
  rw [recoverable_ending (by simp [state]) reason]
  have completed := recover_ending script ids created (.inl state) reason
  obtain ⟨ended, kept, same⟩ := completed.facts
  obtain ⟨v, ending, stated, marked⟩ := completed
  constructor
  · intro lands
    obtain ⟨q', finish, is⟩ := lands.finish due.active ended
    cases (is.symm.trans (kept.trans reason))
    refine ⟨finish, ?_, ?_⟩
    · rcases marked with ⟨rfl, -⟩ | ⟨x, newest, is⟩
      · refine absurd lands (prep.not_lands_unmarked due (same.trans wisps)
          (ending.lastProcessedWisp.trans last) fun old => ?_)
        rw [finish]
        rfl
      · have at_x := lands.lastProcessedWisp
        have named : (recover ids script u).metadata.lastProcessedWisp = x.id := by rw [is]; rfl
        rw [named, ref_of_wisps same, ref_of_find newest.found, finish] at at_x
        have at_w := wispAt_of_find newest.found
        rw [WispRef.iter.inj at_x, wispAt_of_wisps wisps, wispAt_of_find (prep.found due.toUnprocessed)] at at_w
        exact Option.some.inj at_w ▸ newest
    · rw [← wispAt_of_wisps same]
      exact lands.next
  · rintro ⟨finish, newest, left⟩
    obtain ⟨-, none⟩ | ⟨x, newest', is⟩ := marked
    · exact absurd newest (none w)
    rw [is, newest'.eq newest]
    rw [wispAt_of_wisps wisps] at left
    have ready : Ready s w script t := ⟨prep, left⟩
    refine ready.lands (ending.wisps.trans wisps) ?_ ?_ ?_ ?_ ?_ <;> rw [finish]
    · exact stated
    · show t.ref v.metadata.activeWisp = _
      rw [ending.activeWisp, active]
      exact ready.ref_active due
    · exact ref_of_find (ready.found due.toUnprocessed)
    · exact ending.terminalReason.trans reason
    · exact (ending.waitingReason.trans waiting).trans ready.undecided.waitingReason

end Endings

theorem Resumes.lands_open (resumes : Resumes s w script t) (due : s.Due w)
    (open_ : t.metadata.terminalReason = none) :
    Lands s w script (recover ids script t) ↔ Recoverable s w script t := by
  have active := resumes.due.active
  refine iff_of_true (resumes.lands due.active (recover_due resumes.due open_))
    ((recoverable_open (by simp [active]) open_).mpr ⟨fun waits => ?_, fun x there other => ?_⟩)
  · rw [active] at waits
    cases waits
  · rw [resumes.due.named, resumes.due.found] at there
    exact absurd (Option.some.inj there).symm other

theorem Prep.lands_iff (prep : Prep s w script t) (due : s.Due w) :
    Lands s w script (recover ids script t) ↔ Recoverable s w script t := by
  cases reason : t.metadata.terminalReason with
  | none => exact (prep.resumes due).lands_open due reason
  | some q => exact prep.ending_iff due prep.created (prep.active due) rfl rfl rfl reason rfl

theorem Prep.not_lands_unnamed (prep : Prep s w script t) (due : s.Due w) (created : u.created = true)
    (state : u.metadata.state = t.metadata.state) (open_ : u.metadata.terminalReason = none)
    (unnamed : u.metadata.activeWisp = "") (moves : (s.planFor w script).state .active ≠ .active) :
    ¬ Lands s w script (recover ids script u) := by
  intro lands
  have stays := recover_unnamed script ids created (state.trans (prep.active due)) open_ unnamed
  rw [lands.state, due.active] at stays
  exact moves stays

/-- A held loop is marked with the newest closed wisp. -/
theorem Ready.manual_iff {r : WaitReason} (ready : Ready s w script t) (due : s.Due w)
    (plan : s.planFor w script = .hold r) (created : u.created = true) (wisps : u.wisps = t.wisps)
    (state : u.metadata.state = .waitingManual) (open_ : u.metadata.terminalReason = none)
    (explained : u.metadata.waitingReason = some r) (unnamed : u.metadata.activeWisp = "")
    (marked : Lands s w script (u.note (.lastProcessedWisp w.id))) :
    Lands s w script (recover ids script u) ↔ Recoverable s w script u := by
  have found : u.wisps.find w.id = some w := wisps ▸ ready.found due.toUnprocessed
  obtain ⟨x, newest⟩ := exists_newestClosed found due.closed
  have recovered := recover_waitingManual script ids created state open_ explained newest
  rw [recoverable_open (by simp [state]) open_]
  constructor
  · intro lands
    have last : (recover ids script u).metadata.lastProcessedWisp = x.id ∧
        (recover ids script u).wisps = u.wisps := by
      rw [recovered]
      split
      next is => exact ⟨is, rfl⟩
      next => exact ⟨rfl, rfl⟩
    have at_x := lands.lastProcessedWisp
    rw [last.1, ref_of_wisps last.2, ref_of_find newest.found, plan] at at_x
    have at_w := wispAt_of_find newest.found
    rw [WispRef.iter.inj at_x, wispAt_of_find found] at at_w
    refine ⟨fun _ => Option.some.inj at_w ▸ newest, fun y there => ?_⟩
    rw [unnamed] at there
    exact absurd rfl (id_ne_empty there)
  · rintro ⟨waits, -⟩
    rw [recovered, newest.eq (waits state)]
    split
    next is =>
      have same : u.note (.lastProcessedWisp w.id) = u := by
        rw [← is]
        rfl
      rwa [same] at marked
    next => exact marked

/-- The replay of the active wisp, once it is closed, changes nothing only if it fails. -/
theorem stuck_iff (ids : IDSupply) (due : t.Due x) (open_ : t.metadata.terminalReason = none) :
    (recover ids script t).view = t.view ↔ t.Stuck x script := by
  have lands : Lands t x script (recover ids script t) := recover_due due open_
  constructor
  · intro same
    have here := lands.of_view same.symm
    refine ⟨?_, here.next⟩
    have last := here.lastProcessedWisp
    cases plan : t.planFor x script with
    | invalid => exact .inl rfl
    | refuse => exact .inr rfl
    | _ =>
      rw [plan] at last
      exact absurd last due.ref_last
  · rintro ⟨fails, left⟩
    have active : t.ref t.metadata.activeWisp = .iter x.iteration := by
      rw [due.named]
      exact ref_of_find due.found
    refine lands.view_eq ⟨?_, ?_, ?_, ?_, ?_, fun _ _ => rfl, left⟩
    all_goals rcases fails with is | is <;> rw [is] <;> first | rfl | exact active

section Next

variable (at_next : t.wispAt (w.iteration + 1) = some x)

include at_next

/-- The next wisp is published; once it is active and closed, it is due. -/
theorem next_cases (created : u.created = true) (wisps : u.wisps = (t.publish x.id).wisps)
    (state : u.metadata.state = .active) (named : u.metadata.activeWisp = x.id)
    (later : u.lastIteration ≤ w.iteration) : ∃ y, u.wisps.find u.metadata.activeWisp = some y ∧
      y.iteration = w.iteration + 1 ∧ (y.status = .closed → u.Due y) := by
  have id := publishOne_id x.id x
  have iteration : (publishOne x.id x).iteration = w.iteration + 1 :=
    (publishOne_iteration x.id x).trans (wispAt_eq_some_iff.mp at_next).2
  have found : u.wisps.find u.metadata.activeWisp = some (publishOne x.id x) := by
    rw [named, wisps, find_publish, find_of_wispAt at_next]
    rfl
  have own : (publishOne x.id x).id = u.metadata.activeWisp := id.trans named.symm
  exact ⟨_, found, iteration, fun closed =>
    ⟨⟨created, by simp [state], own ▸ found, closed, by omega⟩, state, own.symm⟩⟩

theorem Prep.next_iff (prep : Prep s w script t) (due : s.Due w) (created : u.created = true)
    (wisps : u.wisps = (t.publish x.id).wisps) (state : u.metadata.state = .active)
    (open_ : u.metadata.terminalReason = none) (named : u.metadata.activeWisp = x.id)
    (last : u.metadata.lastProcessedWisp = w.id) (here : Lands s w script u) :
    Lands s w script (recover ids script u) ↔ Recoverable s w script u := by
  have later : u.lastIteration ≤ w.iteration := by
    unfold LoopStore.lastIteration
    rw [last, wisps, find_publish, prep.found due.toUnprocessed]
    simp
  obtain ⟨y, found, iteration, due_y⟩ := next_cases at_next created wisps state named later
  have other : y ≠ w := by
    rintro rfl
    omega
  have active : ¬ u.metadata.state = .waitingManual := by simp [state]
  rw [recoverable_open (by simp [state]) open_, StandsRight, found]
  by_cases closed : y.status = .closed
  · have stuck : (recover ids script u).view = u.view ↔ u.Stuck y script :=
      stuck_iff ids (due_y closed) open_
    constructor
    · intro lands
      exact ⟨fun waits => absurd waits active, fun z is _ _ =>
        Option.some.inj is ▸ stuck.mp (lands.view_eq here)⟩
    · rintro ⟨-, stays⟩
      exact here.of_view (stuck.mpr (stays y rfl other closed))
  · rw [recover_running script ids created state open_ found closed]
    exact iff_of_true here ⟨fun waits => absurd waits active, fun z is _ ended =>
      absurd ended (Option.some.inj is ▸ closed)⟩

/-- Once the next wisp is active, the one before is not marked any more. -/
theorem Prep.not_lands_named (prep : Prep s w script t) (due : s.Due w)
    (plan : s.planFor w script = .next) (open_ : (nextNamed t x).metadata.terminalReason = none) :
    ¬ Lands s w script (recover ids script (nextNamed t x)) := by
  intro lands
  have marked := lands.lastProcessedWisp
  rw [plan] at marked
  have unmarked : (nextNamed t x).ref (nextNamed t x).metadata.lastProcessedWisp ≠ .iter w.iteration := by
    show (t.publish x.id).ref t.metadata.lastProcessedWisp ≠ _
    rw [ref_publish, prep.ref_last]
    exact due.ref_last
  have later : (nextNamed t x).lastIteration ≤ w.iteration := by
    have before := (prep.unprocessed due.toUnprocessed).later
    rw [← lastIteration_publish t x.id] at before
    exact Nat.le_of_lt before
  obtain ⟨y, found, iteration, due_y⟩ := next_cases (u := nextNamed t x) at_next prep.created rfl
    (prep.active due) rfl later
  by_cases closed : y.status = .closed
  · have lands' : Lands (nextNamed t x) y script (recover ids script (nextNamed t x)) :=
      recover_due (due_y closed) open_
    have replayed := lands'.lastProcessedWisp
    rw [marked, iteration] at replayed
    cases plan' : (nextNamed t x).planFor y script with
    | invalid | refuse =>
      rw [plan'] at replayed
      exact unmarked replayed.symm
    | _ =>
      rw [plan'] at replayed
      have := WispRef.iter.inj replayed
      omega
  · rw [recover_running script ids (t := nextNamed t x) prep.created (prep.active due) open_ found closed]
      at marked
    exact unmarked marked

end Next

section Stages

variable (due : s.Due w) (calm : (∀ q, s.planFor w script ≠ .finish q) → s.metadata.terminalReason = none)

include calm

theorem Prep.unended (prep : Prep s w script t) (other : ∀ q, s.planFor w script ≠ .finish q) :
    t.metadata.terminalReason = none :=
  prep.undecided.terminalReason.trans (calm other)

include due

theorem Stage.not_lands (stage : Stage s w script t op) (torn : Torn (s.planFor w script) op) :
    ¬ Lands s w script (recover ids script t) := by
  cases stage with
  | prepare _ prepOp => exact absurd torn prepOp.not_torn
  | @holdReason t r ready plan =>
    have open_ := ready.unended calm (by simp [plan])
    exact ready.not_lands_unnamed (u := holdCleared t) due ready.created rfl open_ rfl
      (by simp [plan, Plan.state])
  | @holdState t r ready plan =>
    have open_ := ready.unended calm (by simp [plan])
    exact ready.not_lands_unnamed (u := holdExplained t r) due ready.created rfl open_ rfl
      (by simp [plan, Plan.state])
  | holdMark r ready plan => exact absurd plan (torn r)
  | finishActor | finishState | nextActive | nextPending => exact absurd torn id
  | @finishClose t q ready plan =>
    obtain ⟨ending, _⟩ := recover_terminated (t := finishStated t q) script ids ready.created rfl
    exact ready.not_lands_unmarked due ending.wisps ending.lastProcessedWisp fun old => by rw [plan]; rfl
  | @finishMark t q ready plan =>
    obtain ⟨ending, _⟩ := recover_terminated (t := (finishStated t q).closeRoot) script ids
      ready.created rfl
    exact ready.not_lands_unmarked due ending.wisps ending.lastProcessedWisp fun old => by rw [plan]; rfl
  | @awaitState t ready plan =>
    have open_ := ready.unended calm (by simp [plan])
    exact ready.not_lands_unnamed (u := holdCleared t) due ready.created rfl open_ rfl
      (by simp [plan, Plan.state])
  | @awaitMark t ready plan =>
    have open_ := ready.unended calm (by simp [plan])
    rw [recover_waitingTrigger (t := awaitStated t) script ids ready.created rfl open_]
    exact ready.not_lands_unmarked due rfl rfl fun old => by rw [plan]; rfl
  | nextMark x prep at_next plan =>
    have open_ := prep.unended calm (by simp [plan])
    exact prep.not_lands_named at_next due plan open_

theorem Stage.lands_iff (stage : Stage s w script t op) (whole : ¬ Torn (s.planFor w script) op) :
    Lands s w script (recover ids script t) ↔ Recoverable s w script t := by
  cases stage with
  | prepare prep _ => exact prep.lands_iff due
  | holdReason | holdState | finishClose | awaitState => exact absurd trivial whole
  | finishMark _ _ plan | awaitMark _ plan | nextMark _ _ _ plan =>
    exact absurd (fun r => by rw [plan]; simp) whole
  | @holdMark t r ready plan =>
    have open_ := ready.unended calm (by simp [plan])
    exact ready.manual_iff (u := holdStated t r) due plan ready.created rfl rfl open_ rfl rfl
      ((Final.held r ready plan).lands due)
  | @finishActor t q ready plan =>
    exact ready.ending_iff (u := finishExplained t q) due ready.created (ready.active due) rfl rfl rfl rfl rfl
  | @finishState t q ready plan =>
    exact ready.ending_iff (u := finishSigned t q) due ready.created (ready.active due) rfl rfl rfl rfl rfl
  | @nextActive t x prep at_next plan =>
    have open_ := prep.unended calm (by simp [plan])
    exact (prep.resumes_published due at_next plan).lands_open due open_
  | @nextPending t x prep at_next plan =>
    have open_ := prep.unended calm (by simp [plan])
    exact prep.next_iff (u := nextMarked t w x) at_next due prep.created rfl (prep.active due) open_ rfl rfl
      ((Final.nexted x prep at_next plan).lands due).of_pending

theorem Final.lands_iff {a : HandlerAction} (final : Final s w script a t) :
    Lands s w script (recover ids script t) ↔ Recoverable s w script t := by
  have here := final.lands due
  cases final with
  | @held t r ready plan =>
    have open_ := ready.unended calm (by simp [plan])
    exact ready.manual_iff (u := LoopStore.held t w r) due plan ready.created rfl rfl open_ rfl rfl here
  | @finished t q ready plan =>
    obtain ⟨ending, ended⟩ :=
      recover_terminated (t := LoopStore.finished t w q) script ids ready.created rfl
    exact iff_of_true (here.of_view (ending.view_eq ended)) (.inl rfl)
  | @awaited t ready plan =>
    have open_ := ready.unended calm (by simp [plan])
    rw [recover_waitingTrigger (t := LoopStore.awaited t w) script ids ready.created rfl open_]
    refine iff_of_true here ((recoverable_open (t := LoopStore.awaited t w) nofun open_).mpr
      ⟨nofun, fun x there => ?_⟩)
    exact absurd rfl (id_ne_empty there)
  | @nexted t x prep at_next plan =>
    have open_ := prep.unended calm (by simp [plan])
    exact prep.next_iff (u := LoopStore.nexted t w x) at_next due prep.created rfl (prep.active due) open_
      rfl rfl here

end Stages

def closing (ids : IDSupply) (script : GateResult) (w : Wisp) (s : LoopStore) :
    Call LoopStore HandlerResult :=
  HandleWispClosed (store ids) s.rootID w.id script

def crashed (ids : IDSupply) (script : GateResult) (w : Wisp) (n : Nat) (s : LoopStore) : LoopStore :=
  (closing ids script w s).cut (exec ids) n s

def processed (ids : IDSupply) (script : GateResult) (w : Wisp) (s : LoopStore) : LoopStore :=
  ((closing ids script w s).run (exec ids) s).2

def writeAt (ids : IDSupply) (script : GateResult) (w : Wisp) (n : Nat) (s : LoopStore) :
    Option StoreOp :=
  ((closing ids script w s).ops (exec ids) s)[n]?

theorem processed_lands (ids : IDSupply) (due : s.Due w) :
    Lands s w script (processed ids script w s) := by
  refine Program.Holds.run ((holds_HandleWispClosed due.toUnprocessed).mono (fun _ _ h => h) ?_ ?_)
  · intro _ u final
    exact final.lands due
  · intro _ u failed
    exact failed.lands due

/-- A crash of the handler, followed by the reconciler, comes to the same as no crash exactly when
it does not fall before a torn write of the commit and leaves a state that the reconciler reads right. -/
theorem crash_recovers_iff (ids : IDSupply) (script : GateResult) (due : s.Due w) (n : Nat) :
    (recover ids script (crashed ids script w n s)).view = (processed ids script w s).view ↔
      (∀ op, writeAt ids script w n s = some op → ¬ Torn (s.planFor w script) op) ∧
        Recoverable s w script (crashed ids script w n s) := by
  have uncut : Lands s w script (processed ids script w s) := processed_lands ids due
  have holds : Closes ids s w script (closing ids script w s) (fun _ u => Failed s w script u) s :=
    holds_HandleWispClosed due.toUnprocessed
  have same_iff (u : LoopStore) : u.view = (processed ids script w s).view ↔ Lands s w script u :=
    ⟨uncut.of_view, fun lands => lands.view_eq uncut⟩
  rw [same_iff]
  rcases holds.cut n with ⟨op, here, stage⟩ | ⟨past, done⟩
  · have stage : Stage s w script (crashed ids script w n s) op := stage
    by_cases calm : (∀ q, s.planFor w script ≠ .finish q) → s.metadata.terminalReason = none
    swap
    · obtain ⟨other, ending⟩ := Classical.not_imp.mp calm
      obtain ⟨q, reason⟩ := Option.ne_none_iff_exists'.mp ending
      have elsewhere := (stage.interrupted due reason other).elsewhere ids due other
      exact iff_of_false elsewhere.1 fun both => elsewhere.2 both.2
    by_cases torn : Torn (s.planFor w script) op
    · exact iff_of_false (stage.not_lands due calm torn) fun both => both.1 op here torn
    · rw [stage.lands_iff due calm torn]
      refine (and_iff_right fun op' there => ?_).symm
      rwa [← Option.some.inj (here.symm.trans there)]
  · refine Iff.trans ?_ (and_iff_right fun op there => absurd (past.symm.trans there) (by simp)).symm
    show Lands s w script (recover ids script ((closing ids script w s).cut (exec ids) n s)) ↔
      Recoverable s w script ((closing ids script w s).cut (exec ids) n s)
    rw [done]
    rcases holds.ends with ⟨_, _, final⟩ | ⟨_, _, failed⟩
    · by_cases calm : (∀ q, s.planFor w script ≠ .finish q) → s.metadata.terminalReason = none
      · exact final.lands_iff due calm
      · obtain ⟨other, ending⟩ := Classical.not_imp.mp calm
        obtain ⟨q, reason⟩ := Option.ne_none_iff_exists'.mp ending
        have elsewhere := (final.interrupted due reason other).elsewhere ids due other
        exact iff_of_false elsewhere.1 elsewhere.2
    · exact failed.1.lands_iff due

def firstWisp : Wisp := { id := "w1", status := .closed, iteration := 1, live := true }

def manualLoop : LoopStore where
  rootID := "r"
  created := true
  metadata := { state := .active, iteration := some 1, maxIterations := some 3, formula := "f",
                gateMode := .valid .manual, activeWisp := "w1" }
  wisps := ⟨[firstWisp], by decide⟩
  named := by decide
  distinct := by decide

theorem manualLoop_due : manualLoop.Due firstWisp := by
  refine ⟨⟨?_, ?_, ?_, ?_, ?_⟩, ?_, ?_⟩ <;> decide +kernel

theorem crash_before_hold_recovers :
    (recover .glued {} (crashed .glued {} firstWisp 0 manualLoop)).view =
      (processed .glued {} firstWisp manualLoop).view := by
  refine (crash_recovers_iff .glued {} manualLoop_due 0).mpr ⟨?_, ?_⟩
  · have first : writeAt .glued {} firstWisp 0 manualLoop =
        some (.setMetadata "r" (.activeWisp "")) := by decide +kernel
    intro op here torn
    cases Option.some.inj (first.symm.trans here)
    exact torn
  · refine (recoverable_open (by decide +kernel) (by decide +kernel)).mpr ⟨?_, fun x there other => ?_⟩
    · exact fun waits => absurd waits (by decide +kernel)
    · have found : (crashed .glued {} firstWisp 0 manualLoop).wisps.find
          (crashed .glued {} firstWisp 0 manualLoop).metadata.activeWisp = some firstWisp := by
        decide +kernel
      exact absurd (Option.some.inj (there.symm.trans found)) other

/-- The first write of the hold clears the active wisp. A crash after it makes the reconciler pour
the second iteration of a loop that waits for the operator. -/
theorem crash_in_hold_pours_next :
    manualLoop.Due firstWisp ∧
    (processed .glued {} firstWisp manualLoop).view.state = .waitingManual ∧
    (processed .glued {} firstWisp manualLoop).view.keys 2 = false ∧
    (recover .glued {} (crashed .glued {} firstWisp 1 manualLoop)).view.state = .active ∧
    (recover .glued {} (crashed .glued {} firstWisp 1 manualLoop)).view.activeWisp = .iter 2 ∧
    (recover .glued {} (crashed .glued {} firstWisp 1 manualLoop)).view.keys 2 = true := by
  refine ⟨manualLoop_due, ?_⟩
  decide +kernel

end LoopStore

end GasCity
