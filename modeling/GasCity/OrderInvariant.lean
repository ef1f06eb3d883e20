import GasCity.OrderDispatch

namespace GasCity

open Function Option List

namespace OrderWisp

def Rooted (w : OrderWisp) : Prop :=
  w.rootOpen = true ∨ (w.live = false ∧ (w.rootOnly = true ∨ w.labelled = true))

theorem Rooted.rootOpen_of_live {w : OrderWisp} (rooted : w.Rooted) (live : w.live = true) :
    w.rootOpen = true := by
  rcases rooted with isOpen | ⟨finished, -⟩
  · exact isOpen
  · rw [live] at finished
    cases finished

/-- What agents may do to a wisp: it keeps its label and gets no new open step. -/
structure Shrinks (w w' : OrderWisp) : Prop where
  labelled : w'.labelled = w.labelled
  live : w'.live = true → w.live = true
  rooted : w.Rooted → w'.Rooted
  steps : ∀ i : Nat, w'.steps[i]? = some true → w.steps[i]? = some true

theorem shrinks_closeStep (w : OrderWisp) (step : Nat) :
    w.Shrinks { w with steps := w.steps.set step false } := by
  have opened : ∀ i : Nat, (w.steps.set step false)[i]? = some true → w.steps[i]? = some true := by
    intro i h
    rw [getElem?_set] at h
    split at h
    · split at h
      · cases h
      · cases h
    · exact h
  have live : ({ w with steps := w.steps.set step false } : OrderWisp).live = true → w.live = true := by
    unfold live
    split
    · exact id
    · intro h
      obtain ⟨x, mem, isOpen⟩ := any_eq_true.mp h
      obtain ⟨i, eq⟩ := mem_iff_getElem?.mp mem
      rw [show x = true from isOpen] at eq
      exact any_eq_true.mpr ⟨true, mem_iff_getElem?.mpr ⟨i, opened i eq⟩, rfl⟩
  refine ⟨rfl, live, fun rooted => rooted.imp id fun finished => ⟨?_, finished.2⟩, opened⟩
  exact Bool.of_not_eq_true fun alive => by
    rw [finished.1] at live
    cases live alive

theorem shrinks_closeRoot (w : OrderWisp) :
    w.Shrinks (if w.rootOnly || (w.labelled && !w.live) then { w with rootOpen := false } else w) := by
  split
  next may =>
    have dead : ({ w with rootOpen := false } : OrderWisp).live = false := by
      unfold live at may ⊢
      dsimp only
      split
      · rfl
      next steps =>
        simp only [steps, Bool.false_or, Bool.and_eq_true, Bool.not_eq_true'] at may
        exact may.2
    refine ⟨rfl, fun alive => ?_, fun _ => .inr ⟨dead, ?_⟩, fun _ => id⟩
    · rw [dead] at alive
      cases alive
    · simp only [Bool.or_eq_true, Bool.and_eq_true] at may
      exact may.imp id And.left
  · exact ⟨rfl, id, id, fun _ => id⟩

end OrderWisp

def DispatchPhase.busy : DispatchPhase → Bool
  | .closing _ => false
  | .preparing _ => true
  | .creating _ => true
  | .labelling _ => true

def DispatchPhase.Owns (phase : DispatchPhase) (root : Nat) : Prop :=
  phase = .creating root ∨ phase = .labelling root

namespace OrderState

variable {s : OrderState}

/-- The beads and dispatches are among those minted, and every root is open as
long as its wisp is live. -/
structure Formed (s : OrderState) : Prop where
  wisps : ∀ k, s.minted ≤ k → s.wisps k = none
  dispatches : ∀ k, s.minted ≤ k → s.dispatches k = none
  rooted : ∀ root w, s.wisps root = some w → w.Rooted

/-- One dispatch is under way. Its tracking bead is open and all live wisps are
its own. -/
structure Busy (s : OrderState) (d : Nat) (phase : DispatchPhase) : Prop where
  at_ : s.dispatches d = some phase
  busy : phase.busy = true
  tracked : s.tracking d = .inFlight
  alone : ∀ d' phase', d' ≠ d → s.dispatches d' = some phase' → phase'.busy = false
  owned : ∀ root w, s.wisps root = some w → w.live = true → phase.Owns root
  creating : ∀ root, phase = .creating root → ∃ w, s.wisps root = some w ∧ w.labelled = false
  idle : s.tick = .idle
  running : s.booting = false

/-- The roots still to be checked contain those of all live wisps, and the steps
read of the first are closed. -/
def Covers (s : OrderState) : TickPhase → Prop
  | .idle => True
  | .checking roots read => ∀ root w, s.wisps root = some w → w.live = true →
      root ∈ roots ∧ (roots.head? = some root → ∀ i : Nat, i < read → w.steps[i]? ≠ some true)

structure Free (s : OrderState) : Prop where
  closing : ∀ d phase, s.dispatches d = some phase → phase.busy = false
  labelled : ∀ root w, s.wisps root = some w → w.live = true → w.labelled = true
  covers : s.Covers s.tick
  booting : s.booting = true → (∀ d, s.dispatches d = none) ∧ s.tick = .idle

def Inv (s : OrderState) : Prop := s.Formed ∧ ((∃ d phase, s.Busy d phase) ∨ s.Free)

theorem inv_init : Inv {} := by
  refine ⟨⟨fun _ _ => rfl, fun _ _ => rfl, by simp⟩, .inr ⟨by simp, by simp, trivial, by simp⟩⟩

variable {phase : DispatchPhase}

theorem Busy.of_busy {d d' : Nat} {phase' : DispatchPhase} (h : s.Busy d phase)
    (at_ : s.dispatches d' = some phase') (busy : phase'.busy = true) : d' = d ∧ phase' = phase := by
  have same : d' = d := by
    by_contra other
    rw [h.alone d' phase' other at_] at busy
    cases busy
  subst same
  exact ⟨rfl, some.inj (at_.symm.trans h.at_)⟩

theorem Inv.busy_of {d : Nat} (inv : s.Inv) (at_ : s.dispatches d = some phase)
    (busy : phase.busy = true) : s.Busy d phase := by
  rcases inv.2 with ⟨d', phase', h⟩ | free
  · obtain ⟨rfl, rfl⟩ := h.of_busy at_ busy
    exact h
  · rw [free.closing d phase at_] at busy
    cases busy

theorem Busy.hasOpenTracking {d : Nat} (h : s.Busy d phase) (formed : s.Formed) :
    s.hasOpenTracking = true := by
  have known : d < s.minted := by
    by_contra beyond
    have none := formed.dispatches d (Nat.le_of_not_lt beyond)
    rw [h.at_] at none
    cases none
  refine any_eq_true.mpr ⟨d, mem_range.mpr known, ?_⟩
  rw [h.tracked]
  rfl

section agents

theorem modifyWisp_self (root : Nat) (f : OrderWisp → OrderWisp) :
    (s.modifyWisp root f).wisps root = (s.wisps root).map f :=
  update_self _ _ _

variable {root : Nat} {f : OrderWisp → OrderWisp}

theorem modifyWisp_of_ne {r : Nat} (ne : r ≠ root) (f : OrderWisp → OrderWisp) :
    (s.modifyWisp root f).wisps r = s.wisps r :=
  update_of_ne ne _ _

theorem modifyWisp_eq_some {r : Nat} {w' : OrderWisp} (h : (s.modifyWisp root f).wisps r = some w') :
    ∃ w, s.wisps r = some w ∧ (r = root ∧ w' = f w ∨ r ≠ root ∧ w' = w) := by
  by_cases same : r = root
  · subst same
    rw [modifyWisp_self] at h
    obtain ⟨w, eq, rfl⟩ := map_eq_some_iff.mp h
    exact ⟨w, eq, .inl ⟨rfl, rfl⟩⟩
  · rw [modifyWisp_of_ne same] at h
    exact ⟨w', h, .inr ⟨same, rfl⟩⟩

theorem shrinks_of_modifyWisp {r : Nat} {w' : OrderWisp} (shrinks : ∀ w, OrderWisp.Shrinks w (f w))
    (h : (s.modifyWisp root f).wisps r = some w') :
    ∃ w, s.wisps r = some w ∧ w.Shrinks w' := by
  obtain ⟨w, eq, ⟨-, rfl⟩ | ⟨-, rfl⟩⟩ := modifyWisp_eq_some h
  · exact ⟨w, eq, shrinks w⟩
  · exact ⟨w', eq, ⟨rfl, id, id, fun _ => id⟩⟩

theorem Formed.modifyWisp (formed : s.Formed)
    (rooted : ∀ w, s.wisps root = some w → w.Rooted → (f w).Rooted) :
    (s.modifyWisp root f).Formed := by
  refine ⟨fun k beyond => ?_, formed.dispatches, fun r w' h => ?_⟩
  · cases eq : (s.modifyWisp root f).wisps k with
    | none => rfl
    | some w' =>
      obtain ⟨w, old, -⟩ := modifyWisp_eq_some eq
      rw [formed.wisps k beyond] at old
      cases old
  · obtain ⟨w, old, ⟨rfl, rfl⟩ | ⟨-, rfl⟩⟩ := modifyWisp_eq_some h
    · exact rooted w old (formed.rooted _ w old)
    · exact formed.rooted r w' old

theorem Inv.shrink (inv : s.Inv) (shrinks : ∀ w, OrderWisp.Shrinks w (f w)) : (s.modifyWisp root f).Inv := by
  refine ⟨inv.1.modifyWisp fun w _ => (shrinks w).rooted, ?_⟩
  rcases inv.2 with ⟨d, phase, h⟩ | free
  · refine .inl ⟨d, phase, { h with owned := fun r w' eq live => ?_, creating := fun r isCreating => ?_ }⟩
    · obtain ⟨w, old, less⟩ := shrinks_of_modifyWisp shrinks eq
      exact h.owned r w old (less.live live)
    · obtain ⟨w, old, unlabelled⟩ := h.creating r isCreating
      by_cases same : r = root
      · refine ⟨f w, ?_, (shrinks w).labelled.trans unlabelled⟩
        subst same
        rw [modifyWisp_self, old]
        rfl
      · refine ⟨w, ?_, unlabelled⟩
        rw [modifyWisp_of_ne same]
        exact old
  · refine .inr ⟨free.closing, fun r w' eq live => ?_, ?_, free.booting⟩
    · obtain ⟨w, old, less⟩ := shrinks_of_modifyWisp shrinks eq
      exact less.labelled.trans (free.labelled r w old (less.live live))
    · have covers := free.covers
      change Covers _ s.tick
      cases tick : s.tick with
      | idle => trivial
      | checking roots read =>
        rw [tick] at covers
        intro r w' eq live
        obtain ⟨w, old, less⟩ := shrinks_of_modifyWisp shrinks eq
        obtain ⟨mem, closed⟩ := covers r w old (less.live live)
        exact ⟨mem, fun first i lt isOpen => closed first i lt (less.steps i isOpen)⟩

end agents

section ticks

theorem Inv.tickIdle (inv : s.Inv) : Inv { s with tick := .idle } := by
  refine ⟨⟨inv.1.wisps, inv.1.dispatches, inv.1.rooted⟩, ?_⟩
  rcases inv.2 with ⟨d, phase, h⟩ | free
  · exact .inl ⟨d, phase, { h with idle := rfl }⟩
  · exact .inr ⟨free.closing, free.labelled, trivial, fun booting => ⟨(free.booting booting).1, rfl⟩⟩

theorem Inv.free_of_checking (inv : s.Inv) {roots : List Nat} {read : Nat}
    (tick : s.tick = .checking roots read) : s.Free ∧ s.booting = false := by
  rcases inv.2 with ⟨d, phase, h⟩ | free
  · rw [h.idle] at tick
    cases tick
  · refine ⟨free, Bool.of_not_eq_true fun booting => ?_⟩
    rw [(free.booting booting).2] at tick
    cases tick

theorem inv_index (inv : s.Inv) (answer : CallAnswer) : (s.index answer).Inv := by
  unfold index
  split
  · exact inv
  next clear =>
    simp only [Bool.or_eq_true, not_or, Bool.not_eq_true] at clear
    rcases inv.2 with ⟨d, phase, h⟩ | free
    · rw [h.hasOpenTracking inv.1] at clear
      cases clear.2
    · refine ⟨⟨inv.1.wisps, inv.1.dispatches, inv.1.rooted⟩,
        .inr ⟨free.closing, free.labelled, fun root w eq live => ⟨?_, fun _ i lt => ?_⟩, ?_⟩⟩
      · have known : root < s.minted := by
          by_contra beyond
          have none := inv.1.wisps root (Nat.le_of_not_lt beyond)
          rw [show s.wisps root = some w from eq] at none
          cases none
        refine mem_filter.mpr ⟨mem_range.mpr known, ?_⟩
        rw [show s.wisps root = some w from eq]
        simp [free.labelled root w eq live, (inv.1.rooted root w eq).rootOpen_of_live live]
      · omega
      · intro booting
        rw [show s.booting = true from booting] at clear
        cases clear.1.1.1

theorem Inv.tracks (inv : s.Inv) {roots : List Nat} {read : Nat} (tick : s.tick = .checking roots read)
    (mark : TrackingMark) : Inv { s with minted := s.minted + 1, tick := .idle,
                                           tracking := update s.tracking s.minted mark } := by
  obtain ⟨free, running⟩ := inv.free_of_checking tick
  refine ⟨⟨fun k beyond => inv.1.wisps k (Nat.le_of_succ_le beyond),
    fun k beyond => inv.1.dispatches k (Nat.le_of_succ_le beyond), inv.1.rooted⟩,
    .inr ⟨free.closing, free.labelled, trivial, fun booting => ?_⟩⟩
  rw [show s.booting = true from booting] at running
  cases running

theorem inv_triggerEnvFails (inv : s.Inv) (answer : CallAnswer) : (s.triggerEnvFails answer).Inv := by
  unfold triggerEnvFails
  split
  · exact inv
  next roots read tick =>
    split
    · exact inv.tracks tick _
    · exact inv.tickIdle

theorem inv_readStep (inv : s.Inv) (answer : CallAnswer) : (s.readStep answer).Inv := by
  have goesOn : ∀ roots read, s.Free → s.booting = false → s.Covers (.checking roots read) →
      Inv { s with tick := .checking roots read } := by
    intro roots read free running covers
    refine ⟨⟨inv.1.wisps, inv.1.dispatches, inv.1.rooted⟩,
      .inr ⟨free.closing, free.labelled, covers, fun booting => ?_⟩⟩
    rw [show s.booting = true from booting] at running
    cases running
  unfold readStep
  split
  · exact inv
  · exact inv
  next root roots read tick =>
    obtain ⟨free, running⟩ := inv.free_of_checking tick
    have covers := free.covers
    rw [tick] at covers
    have dropRoot : (∀ w, s.wisps root = some w → w.live = false) →
        s.Covers (.checking roots 0) := by
      intro dead r w eq live
      refine ⟨?_, fun _ i lt => absurd lt (Nat.not_lt_zero i)⟩
      rcases mem_cons.mp (covers r w eq live).1 with rfl | mem
      · rw [dead w eq] at live
        cases live
      · exact mem
    split
    next missing =>
      refine goesOn roots 0 free running (dropRoot fun w eq => ?_)
      rw [missing] at eq
      cases eq
    next w eq =>
      split
      · exact inv.tickIdle
      next plain =>
        simp only [Bool.or_eq_true, not_or, Bool.not_eq_true] at plain
        split
        · exact inv.tickIdle
        next isClosed =>
          refine goesOn (root :: roots) (read + 1) free running fun r w' eq' live => ?_
          obtain ⟨mem, closed⟩ := covers r w' eq' live
          refine ⟨mem, fun first i lt isOpen => ?_⟩
          rcases Nat.lt_succ_iff_lt_or_eq.mp lt with lt | rfl
          · exact closed first i lt isOpen
          · cases some.inj first
            rw [some.inj (eq'.symm.trans eq), isClosed] at isOpen
            cases isOpen
        next ended =>
          refine goesOn roots 0 free running (dropRoot fun w' eq' => ?_)
          cases some.inj (eq'.symm.trans eq)
          refine Bool.of_not_eq_true fun live => ?_
          have closed := (covers root w eq live).2 rfl
          rw [OrderWisp.live, plain.1] at live
          obtain ⟨x, mem, isOpen⟩ := any_eq_true.mp live
          obtain ⟨i, at_⟩ := mem_iff_getElem?.mp mem
          rw [show x = true from isOpen] at at_
          have short := List.getElem?_eq_none_iff.mp ended
          have long := (List.getElem?_eq_some_iff.mp at_).1
          exact closed i (by omega) at_

theorem inv_launch (inv : s.Inv) (answer : CallAnswer) : (s.launch answer).Inv := by
  unfold launch
  split
  next read tick =>
    obtain ⟨free, running⟩ := inv.free_of_checking tick
    have covers := free.covers
    rw [tick] at covers
    have none : ∀ root w, s.wisps root = some w → w.live = false := by
      intro root w eq
      exact Bool.of_not_eq_true fun live => not_mem_nil (covers root w eq live).1
    cases answer with
    | failed => exact inv.tickIdle
    | lost => exact inv.tracks tick _
    | done =>
      refine ⟨⟨fun k beyond => inv.1.wisps k (Nat.le_of_succ_le beyond), fun k beyond => ?_,
        inv.1.rooted⟩, .inl ⟨s.minted, .preparing 0, update_self _ _ _, rfl,
          update_self _ _ _, fun d phase other at_ => ?_, fun root w eq live => ?_,
          nofun, rfl, running⟩⟩
      · have ne : k ≠ s.minted := Nat.ne_of_gt beyond
        change update s.dispatches s.minted (some (.preparing 0)) k = _
        rw [update_of_ne ne]
        exact inv.1.dispatches k (Nat.le_of_succ_le beyond)
      · change update s.dispatches s.minted (some (.preparing 0)) d = _ at at_
        rw [update_of_ne other] at at_
        exact free.closing d phase at_
      · rw [none root w eq] at live
        cases live
  · exact inv

end ticks

end OrderState

end GasCity
