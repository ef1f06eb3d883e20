import GasCity.OrderInvariant

namespace GasCity

open Function Option

namespace OrderState

variable {s : OrderState}

section dispatches

theorem move_at (d : Nat) (phase : DispatchPhase) : (s.move d phase).dispatches d = some phase :=
  update_self _ _ _

variable {d applies : Nat} {w : OrderWisp} {phase : DispatchPhase} {answer : CallAnswer}

theorem move_of_ne {d' : Nat} (ne : d' ≠ d) (phase : DispatchPhase) :
    (s.move d phase).dispatches d' = s.dispatches d' :=
  update_of_ne ne _ _

theorem Formed.move (formed : s.Formed) {old : DispatchPhase} (at_ : s.dispatches d = some old)
    (phase : DispatchPhase) : (s.move d phase).Formed := by
  refine ⟨formed.wisps, fun k beyond => ?_, formed.rooted⟩
  have ne : k ≠ d := by
    rintro rfl
    rw [formed.dispatches k beyond] at at_
    cases at_
  rw [move_of_ne ne]
  exact formed.dispatches k beyond

theorem Formed.addWisp (formed : s.Formed) (isOpen : w.rootOpen = true) :
    (s.addWisp w).Formed := by
  refine ⟨fun k beyond => ?_, fun k beyond => formed.dispatches k (Nat.le_of_succ_le beyond),
    fun root w' eq => ?_⟩
  · have ne : k ≠ s.minted := Nat.ne_of_gt beyond
    exact (update_of_ne ne _ _).trans (formed.wisps k (Nat.le_of_succ_le beyond))
  · change update s.wisps s.minted (some w) root = some w' at eq
    by_cases same : root = s.minted
    · subst same
      rw [update_self] at eq
      cases eq
      exact .inl isOpen
    · rw [update_of_ne same] at eq
      exact formed.rooted root w' eq

theorem Busy.move {old : DispatchPhase} (h : s.Busy d old) (busy : phase.busy = true)
    (owned : ∀ root w, s.wisps root = some w → w.live = true → phase.Owns root)
    (creating : ∀ root, phase = .creating root → ∃ w, s.wisps root = some w ∧ w.labelled = false) :
    (s.move d phase).Busy d phase := by
  refine ⟨move_at d phase, busy, h.tracked, fun d' phase' other at_ => ?_, owned, creating, h.idle,
    h.running⟩
  rw [move_of_ne other] at at_
  exact h.alone d' phase' other at_

theorem Busy.leave (h : s.Busy d phase)
    (labelled : ∀ root w, s.wisps root = some w → w.live = true → w.labelled = true) :
    (s.leave d).Free := by
  refine ⟨fun d' phase' at_ => ?_, labelled, ?_, fun booting => ?_⟩
  · by_cases same : d' = d
    · subst same
      cases some.inj (at_.symm.trans (move_at _ _))
      rfl
    · rw [OrderState.leave, move_of_ne same] at at_
      exact h.alone d' phase' same at_
  · change Covers _ s.tick
    rw [h.idle]
    trivial
  · have running := h.running
    rw [show s.booting = true from booting] at running
    cases running

theorem Busy.none_live (h : s.Busy d (.preparing applies)) :
    ∀ root w, s.wisps root = some w → w.live = false := by
  intro root w eq
  refine Bool.of_not_eq_true fun live => ?_
  rcases h.owned root w eq live with h | h
  · cases h
  · cases h

theorem Inv.abandon (inv : s.Inv) (at_ : s.dispatches d = some (.preparing applies)) :
    (s.leave d).Inv := by
  have h := inv.busy_of at_ rfl
  refine ⟨inv.1.move at_ _, .inr (h.leave fun root w eq live => ?_)⟩
  rw [h.none_live root w eq] at live
  cases live

theorem inv_prepareFails (inv : s.Inv) (d : Nat) : (s.prepareFails d).Inv := by
  unfold prepareFails
  split
  next applies at_ => exact inv.abandon at_
  · exact inv

theorem addWisp_eq_some {w' : OrderWisp} {root : Nat} (h : (s.addWisp w).wisps root = some w') :
    root = s.minted ∧ w' = w ∨ s.wisps root = some w' := by
  change update s.wisps s.minted (some w) root = some w' at h
  by_cases same : root = s.minted
  · subst same
    rw [update_self] at h
    exact .inl ⟨rfl, (some.inj h).symm⟩
  · rw [update_of_ne same] at h
    exact .inr h

theorem Busy.addWisp (h : s.Busy d (.preparing applies)) (busy : phase.busy = true)
    (owns : phase.Owns s.minted) (unlabelled : w.labelled = false) : ((s.addWisp w).move d phase).Busy d phase := by
  refine ⟨move_at d phase, busy, h.tracked, fun d' phase' other at_ => ?_, fun root w' eq live => ?_,
    fun root isCreating => ?_, h.idle, h.running⟩
  · rw [move_of_ne other] at at_
    exact h.alone d' phase' other at_
  · rcases addWisp_eq_some eq with ⟨rfl, -⟩ | eq
    · exact owns
    · rw [h.none_live root w' eq] at live
      cases live
  · have same : root = s.minted := by
      rcases owns with eq | eq
      · rw [isCreating] at eq
        exact DispatchPhase.creating.inj eq
      · rw [isCreating] at eq
        cases eq
    subst same
    exact ⟨w, update_self _ _ _, unlabelled⟩

variable (inv : s.Inv)

include inv

theorem Inv.create (at_ : s.dispatches d = some (.preparing applies))
    (busy : phase.busy = true) (owns : phase.Owns s.minted) (unlabelled : w.labelled = false)
    (isOpen : w.rootOpen = true) :
    ((s.addWisp w).move d phase).Inv := by
  have h := inv.busy_of at_ rfl
  have old : (s.addWisp w).dispatches d = some (.preparing applies) := at_
  exact ⟨(inv.1.addWisp isOpen).move old phase, .inl ⟨d, phase, h.addWisp busy owns unlabelled⟩⟩

theorem inv_apply (d : Nat) (kept : answer ≠ .lost) (transient rootOnly : Bool)
    (steps : Nat) : (s.apply d answer transient rootOnly steps).Inv := by
  unfold apply
  split
  next applies at_ =>
    split
    · exact inv
    · cases answer with
      | lost => exact absurd rfl kept
      | done => exact inv.create at_ rfl (.inr rfl) rfl rfl
      | failed =>
        cases transient with
        | false => exact inv.abandon at_
        | true =>
          have h := inv.busy_of at_ rfl
          refine ⟨inv.1.move at_ _, .inl ⟨d, _, h.move rfl (fun root w eq live => ?_) nofun⟩⟩
          rw [h.none_live root w eq] at live
          cases live
  · exact inv

theorem inv_createRoot (d : Nat) (kept : answer ≠ .lost) (rootOnly : Bool) :
    (s.createRoot d answer rootOnly).Inv := by
  unfold createRoot
  split
  next applies at_ =>
    split
    · exact inv
    · cases answer with
      | lost => exact absurd rfl kept
      | done => exact inv.create at_ rfl (.inl rfl) rfl rfl
      | failed => exact inv.abandon at_
  · exact inv

theorem inv_createStep (d : Nat) : (s.createStep d .done).Inv := by
  unfold createStep
  split
  next root at_ =>
    have h := inv.busy_of at_ rfl
    obtain ⟨own, eq, unlabelled⟩ := h.creating root rfl
    refine ⟨inv.1.modifyWisp fun w eq' rooted => ?_, .inl ⟨d, _,
      { h with owned := fun r w' eq' live => ?_, creating := fun r isCreating => ?_ }⟩⟩
    · cases some.inj (eq'.symm.trans eq)
      rcases rooted with isOpen | ⟨finished, rootOnly | labelled⟩
      · exact .inl isOpen
      · refine .inr ⟨?_, .inl rootOnly⟩
        rw [OrderWisp.live, if_pos rootOnly] at finished ⊢
        exact finished
      · rw [unlabelled] at labelled
        cases labelled
    · obtain ⟨w, old, ⟨rfl, -⟩ | ⟨-, rfl⟩⟩ := modifyWisp_eq_some eq'
      · exact .inl rfl
      · exact h.owned r w' old live
    · cases isCreating
      exact ⟨_, (modifyWisp_self root _).trans (congrArg _ eq), unlabelled⟩
  · exact inv

theorem inv_instantiated (d : Nat) : (s.instantiated d).Inv := by
  unfold instantiated
  split
  next root at_ =>
    have h := inv.busy_of at_ rfl
    refine ⟨inv.1.move at_ _, .inl ⟨d, _, h.move rfl (fun r w eq live => ?_) nofun⟩⟩
    rcases h.owned r w eq live with same | same
    · cases same
      exact .inr rfl
    · cases same
  · exact inv

theorem inv_label (d : Nat) (written : answer ≠ .failed) :
    (s.label d answer).Inv := by
  unfold label
  split
  next root at_ =>
    have writes : answer.writes = true := by cases answer <;> first | rfl | exact absurd rfl written
    simp only [writes, if_true]
    have h := inv.busy_of at_ rfl
    have old : (s.modifyWisp root fun w => { w with labelled := true }).dispatches d
        = some (.labelling root) := at_
    have formed : (s.modifyWisp root fun w => { w with labelled := true }).Formed :=
      inv.1.modifyWisp fun w _ rooted => rooted.imp id fun finished => ⟨finished.1, .inr rfl⟩
    have busy : (s.modifyWisp root fun w => { w with labelled := true }).Busy d (.labelling root) := by
      refine ⟨h.at_, rfl, h.tracked, h.alone, fun r w' eq live => ?_, nofun, h.idle, h.running⟩
      obtain ⟨w, prior, ⟨rfl, -⟩ | ⟨-, rfl⟩⟩ := modifyWisp_eq_some eq
      · exact .inr rfl
      · exact h.owned r w' prior live
    refine ⟨formed.move old _, .inr (busy.leave fun r w' eq live => ?_)⟩
    obtain ⟨w, prior, ⟨-, rfl⟩ | ⟨other, rfl⟩⟩ := modifyWisp_eq_some eq
    · rfl
    · rcases h.owned r w' prior live with same | same
      · cases same
      · cases same
        exact absurd rfl other
  · exact inv

theorem inv_closeMark
    (left : ∀ phase, s.dispatches d = some phase → phase.busy = false) : (s.closeMark d).Inv := by
  refine ⟨⟨inv.1.wisps, inv.1.dispatches, inv.1.rooted⟩, ?_⟩
  rcases inv.2 with ⟨b, phase, h⟩ | free
  · have other : b ≠ d := by
      rintro rfl
      have busy := h.busy
      rw [left phase h.at_] at busy
      cases busy
    exact .inl ⟨b, phase, { h with tracked := (update_of_ne other _ _).trans h.tracked }⟩
  · exact .inr { free with }

theorem Inv.settle {attempts : Nat} (at_ : s.dispatches d = some (.closing attempts))
    {after : Option DispatchPhase} (left : ∀ phase, after = some phase → phase.busy = false) :
    Inv { s with dispatches := update s.dispatches d after } := by
  have closing : ∀ d' phase', update s.dispatches d after d' = some phase' →
      phase'.busy = false ∨ d' ≠ d ∧ s.dispatches d' = some phase' := by
    intro d' phase' eq
    by_cases same : d' = d
    · subst same
      rw [update_self] at eq
      exact .inl (left phase' eq)
    · rw [update_of_ne same] at eq
      exact .inr ⟨same, eq⟩
  refine ⟨⟨inv.1.wisps, fun k beyond => ?_, inv.1.rooted⟩, ?_⟩
  · have ne : k ≠ d := by
      rintro rfl
      rw [inv.1.dispatches k beyond] at at_
      cases at_
    exact (update_of_ne ne _ _).trans (inv.1.dispatches k beyond)
  rcases inv.2 with ⟨b, phase, h⟩ | free
  · have other : b ≠ d := by
      rintro rfl
      have busy := h.busy
      rw [some.inj (h.at_.symm.trans at_)] at busy
      cases busy
    refine .inl ⟨b, phase, { h with
      at_ := (update_of_ne other _ _).trans h.at_, alone := fun d' phase' ne eq => ?_ }⟩
    exact (closing d' phase' eq).elim id fun prior => h.alone d' phase' ne prior.2
  · refine .inr ⟨fun d' phase' eq => ?_, free.labelled, free.covers, fun booting => ?_⟩
    · exact (closing d' phase' eq).elim id fun prior => free.closing d' phase' prior.2
    · rw [(free.booting booting).1 d] at at_
      cases at_

theorem inv_closeTracking (d : Nat) (answer : CallAnswer) :
    (s.closeTracking d answer).Inv := by
  unfold closeTracking
  split
  next attempts at_ =>
    have written : Inv (if answer.writes then s.closeMark d else s) := by
      split
      · refine inv_closeMark inv fun phase eq => ?_
        cases some.inj (eq.symm.trans at_)
        rfl
      · exact inv
    have same : (if answer.writes then s.closeMark d else s).dispatches = s.dispatches := by
      split <;> rfl
    generalize (if answer.writes then s.closeMark d else s) = w at written same
    rw [← same] at at_ ⊢
    split
    · exact written.settle at_ nofun
    · refine written.settle at_ fun phase eq => ?_
      cases eq
      rfl
  · exact inv

end dispatches

/-- No call creates or labels a wisp half: the calls that write the wisp's beads
fail without effect or not at all, the label is written, and the controller does not
crash between the wisp and its label. -/
def Uncut (s : OrderState) : OrderEvent → Prop
  | .apply _ answer _ _ _ => answer ≠ .lost
  | .createRoot _ answer _ => answer ≠ .lost
  | .createStep _ answer => answer = .done
  | .wire _ answer => answer = .done
  | .label _ answer => answer ≠ .failed
  | .crash => ∀ d phase root, s.dispatches d = some phase → ¬ phase.Owns root
  | _ => True

theorem inv_crash (inv : s.Inv) (uncut : s.Uncut .crash) : s.crash.Inv := by
  refine ⟨⟨inv.1.wisps, fun _ _ => rfl, inv.1.rooted⟩, .inr ⟨nofun, fun root w eq live => ?_, trivial,
    fun _ => ⟨fun _ => rfl, rfl⟩⟩⟩
  rcases inv.2 with ⟨d, phase, h⟩ | free
  · exact absurd (h.owned root w eq live) (uncut d phase root h.at_)
  · exact free.labelled root w eq live

theorem inv_sweepClose (inv : s.Inv) (d : Nat) : (s.sweepClose d).Inv := by
  unfold sweepClose
  split
  next sweeps =>
    simp only [Bool.and_eq_true] at sweeps
    refine inv_closeMark inv fun phase at_ => ?_
    rcases inv.2 with ⟨b, _, h⟩ | free
    · rw [h.running] at sweeps
      cases sweeps.1
    · exact free.closing d phase at_
  · exact inv

theorem inv_boot (inv : s.Inv) : Inv { s with booting := false } := by
  refine ⟨⟨inv.1.wisps, inv.1.dispatches, inv.1.rooted⟩, ?_⟩
  rcases inv.2 with ⟨d, phase, h⟩ | free
  · exact .inl ⟨d, phase, { h with running := rfl }⟩
  · exact .inr { free with booting := nofun }

theorem inv_next (inv : s.Inv) {e : OrderEvent} (uncut : s.Uncut e) : (s.next e).Inv := by
  cases e with
  | index answer => exact inv_index inv answer
  | notDue => exact inv.tickIdle
  | triggerEnvFails answer => exact inv_triggerEnvFails inv answer
  | readStep answer => exact inv_readStep inv answer
  | launch answer => exact inv_launch inv answer
  | prepareFails d => exact inv_prepareFails inv d
  | apply d answer transient rootOnly steps => exact inv_apply inv d uncut transient rootOnly steps
  | createRoot d answer rootOnly => exact inv_createRoot inv d uncut rootOnly
  | createStep d answer =>
    cases uncut
    exact inv_createStep inv d
  | wire d answer =>
    cases uncut
    change (s.wire d .done).Inv
    unfold wire
    split <;> exact inv
  | instantiated d => exact inv_instantiated inv d
  | label d answer => exact inv_label inv d uncut
  | closeTracking d answer => exact inv_closeTracking inv d answer
  | closeStep root step => exact inv.shrink fun w => w.shrinks_closeStep step
  | closeRoot root => exact inv.shrink fun w => w.shrinks_closeRoot
  | crash => exact inv_crash inv uncut
  | sweepClose d => exact inv_sweepClose inv d
  | boot => exact inv_boot inv

theorem Inv.none_live_of_instantiates (inv : s.Inv) {e : OrderEvent} (instantiates : s.Instantiates e) :
    ∀ root w, s.wisps root = some w → w.live = false := by
  cases e with
  | apply | createRoot =>
    obtain ⟨-, applies, at_, -⟩ := instantiates
    exact (inv.busy_of at_ rfl).none_live
  | _ => exact instantiates.elim

end OrderState

/-- A run in which no wisp is cut off from its label keeps the order single-flight:
a wisp is instantiated only when no earlier wisp of the order is live. -/
theorem singleFlight_of_uncut {events : List OrderEvent}
    (uncut : Along OrderState.next OrderState.Uncut {} events) : SingleFlight events :=
  Along.imp (fun _ _ inv => OrderState.inv_next inv)
    (fun _ _ inv => inv.none_live_of_instantiates) uncut OrderState.inv_init

/-- Two dispatches. The first wisp is created bead by bead and closed between the index read and
the step read of the next tick, and the controller crashes between the two. -/
def dispatchedTwice : List OrderEvent :=
  [.index .done, .launch .done, .createRoot 0 .done false, .createStep 0 .done, .instantiated 0,
    .label 0 .lost, .closeTracking 0 .failed, .index .done, .closeTracking 0 .done, .crash, .boot,
    .index .done, .closeStep 1 0, .readStep .done, .readStep .done, .launch .done,
    .apply 2 .failed true false 1, .apply 2 .done false false 1]

theorem singleFlight_dispatchedTwice :
    Along OrderState.next OrderState.Uncut {} dispatchedTwice ∧ SingleFlight dispatchedTwice := by
  have uncut : Along OrderState.next OrderState.Uncut {} dispatchedTwice := by
    refine ⟨trivial, trivial, ?_, rfl, trivial, ?_, trivial, trivial, trivial, ?_, trivial, trivial,
      trivial, trivial, trivial, trivial, ?_, ?_, trivial⟩
    · exact nofun
    · exact nofun
    · intro d phase root at_
      cases d with
      | zero | succ => cases at_
    · exact nofun
    · exact nofun
  exact ⟨uncut, singleFlight_of_uncut uncut⟩

/-- The controller crashes between the wisp and its label, and its successor sweeps
the tracking bead. -/
def crashedBeforeLabel : List OrderEvent :=
  [.index .done, .launch .done, .apply 0 .done false false 1, .crash, .sweepClose 0, .boot,
    .index .done, .launch .done, .apply 2 .done false false 1]

/-- The write of the label fails, and the dispatch closes its tracking bead. -/
def labelRefused : List OrderEvent :=
  [.index .done, .launch .done, .apply 0 .done false false 1, .label 0 .failed,
    .closeTracking 0 .done, .index .done, .launch .done, .apply 2 .done false false 1]

theorem not_singleFlight_cut : ¬ SingleFlight crashedBeforeLabel ∧ ¬ SingleFlight labelRefused := by
  constructor
  · intro single
    have dead := single.2.2.2.2.2.2.2.2.1 ⟨rfl, 0, rfl, by decide⟩ 1
      { rootOnly := false, steps := [true] } rfl
    cases dead
  · intro single
    have dead := single.2.2.2.2.2.2.2.1 ⟨rfl, 0, rfl, by decide⟩ 1
      { rootOnly := false, steps := [true] } rfl
    cases dead

end GasCity
