import GasCity.LoopWispClosed

namespace GasCity

open Option

/-- The wisp a metadata field names: none, one that is gone, or one by its iteration. -/
inductive WispRef where
  | unset
  | gone
  | iter (n : Nat)
  deriving DecidableEq

/-- What an observer compares of a loop. Wisps are told apart by their idempotency keys. -/
structure LoopView where
  state : LoopState
  activeWisp : WispRef
  lastProcessedWisp : WispRef
  terminalReason : Option TerminalReason
  waitingReason : Option WaitReason
  keys : Nat → Bool

namespace Plan

variable (p : Plan)

def state (old : LoopState) : LoopState :=
  match p with
  | .hold _ => .waitingManual
  | .finish _ => .terminated
  | .await => .waitingTrigger
  | .invalid | .refuse | .next => old

def activeWisp (n : Nat) : WispRef :=
  match p with
  | .hold _ | .await => .unset
  | .next => .iter (n + 1)
  | .invalid | .refuse | .finish _ => .iter n

def lastProcessedWisp (n : Nat) (old : WispRef) : WispRef :=
  match p with
  | .invalid | .refuse => old
  | .hold _ | .finish _ | .await | .next => .iter n

def terminalReason (old : Option TerminalReason) : Option TerminalReason :=
  match p with
  | .finish q => some q
  | .invalid | .refuse | .hold _ | .await | .next => old

def waitingReason (old : Option WaitReason) : Option WaitReason :=
  match p with
  | .hold r => some r
  | .invalid | .refuse | .finish _ | .await | .next => old

end Plan

namespace LoopStore

variable {s t u v : LoopStore} {w x : Wisp} {script : GateResult} {id : String}

def ref (s : LoopStore) (id : String) : WispRef :=
  if id = "" then .unset
  else ((s.wisps.find id).map (fun w => w.iteration)).elim .gone .iter

def view (s : LoopStore) : LoopView where
  state := s.metadata.state
  activeWisp := s.ref s.metadata.activeWisp
  lastProcessedWisp := s.ref s.metadata.lastProcessedWisp
  terminalReason := s.metadata.terminalReason
  waitingReason := s.metadata.waitingReason
  keys := fun n => (s.wispAt n).isSome

theorem ref_of_find (found : s.wisps.find id = some w) : s.ref id = .iter w.iteration := by
  unfold ref
  rw [if_neg (id_ne_empty found), found]
  rfl

theorem ref_congr
    (same : (t.wisps.find id).map (fun x => x.iteration) =
      (s.wisps.find id).map (fun x => x.iteration)) : t.ref id = s.ref id := by
  unfold ref
  rw [same]

theorem ref_of_wisps (same : t.wisps = s.wisps) (id : String) : t.ref id = s.ref id := by
  unfold ref
  rw [same]

theorem ref_publish (s : LoopStore) (id j : String) : (s.publish id).ref j = s.ref j := by
  refine ref_congr ?_
  rw [find_publish, map_map]
  congr 1
  funext y
  exact publishOne_iteration id y

theorem lastIteration_publish (s : LoopStore) (id : String) :
    (s.publish id).lastIteration = s.lastIteration := by
  unfold lastIteration
  rw [metadata_publish, find_publish, map_map]
  congr 2
  funext y
  exact publishOne_iteration id y

/-- The root is active and works on a closed wisp that has not been processed. -/
structure Due (s : LoopStore) (w : Wisp) : Prop extends Unprocessed s w where
  active : s.metadata.state = .active
  named : s.metadata.activeWisp = w.id

theorem Unprocessed.ref_last (due : s.Unprocessed w) :
    s.ref s.metadata.lastProcessedWisp ≠ .iter w.iteration := by
  intro same
  have later := due.later
  unfold lastIteration at later
  unfold ref at same
  split at same
  next => cases same
  next =>
    cases found : s.wisps.find s.metadata.lastProcessedWisp with
    | none =>
      rw [found] at same
      cases same
    | some y =>
      rw [found] at same later
      have it : y.iteration = w.iteration := WispRef.iter.inj same
      have before : y.iteration < w.iteration := later
      omega

structure Lands (s : LoopStore) (w : Wisp) (script : GateResult) (u : LoopStore) : Prop where
  state : u.metadata.state = (s.planFor w script).state s.metadata.state
  activeWisp : u.ref u.metadata.activeWisp = (s.planFor w script).activeWisp w.iteration
  lastProcessedWisp : u.ref u.metadata.lastProcessedWisp =
    (s.planFor w script).lastProcessedWisp w.iteration (s.ref s.metadata.lastProcessedWisp)
  terminalReason : u.metadata.terminalReason =
    (s.planFor w script).terminalReason s.metadata.terminalReason
  waitingReason : u.metadata.waitingReason =
    (s.planFor w script).waitingReason s.metadata.waitingReason
  others : ∀ i, i ≠ w.iteration + 1 → (u.wispAt i).isSome = (s.wispAt i).isSome
  next : (u.wispAt (w.iteration + 1)).isSome ↔ Leftover (s.planFor w script) s w.iteration

theorem Lands.view_eq (here : Lands s w script u) (there : Lands s w script v) :
    u.view = v.view := by
  have keys : u.view.keys = v.view.keys := by
    funext i
    show (u.wispAt i).isSome = (v.wispAt i).isSome
    by_cases next : i = w.iteration + 1
    · rw [next, Bool.eq_iff_iff]
      exact here.next.trans there.next.symm
    · rw [here.others i next, there.others i next]
  rw [LoopView.mk.injEq]
  exact ⟨here.state.trans there.state.symm, here.activeWisp.trans there.activeWisp.symm,
    here.lastProcessedWisp.trans there.lastProcessedWisp.symm,
    here.terminalReason.trans there.terminalReason.symm,
    here.waitingReason.trans there.waitingReason.symm, keys⟩

theorem Prep.ref_last (prep : Prep s w script t) :
    t.ref t.metadata.lastProcessedWisp = s.ref s.metadata.lastProcessedWisp := by
  rw [prep.undecided.lastProcessedWisp]
  exact ref_congr prep.last

theorem Prep.ref_active (prep : Prep s w script t) (due : s.Due w) :
    t.ref t.metadata.activeWisp = .iter w.iteration := by
  rw [prep.undecided.activeWisp, due.named]
  exact ref_of_find (prep.found due.toUnprocessed)

theorem Prep.isSome_others (prep : Prep s w script t) (i : Nat) (other : i ≠ w.iteration + 1) :
    (t.wispAt i).isSome = (s.wispAt i).isSome := by
  rw [prep.others i other]

theorem Ready.lands (ready : Ready s w script t) (same : u.wisps = t.wisps)
    (state : u.metadata.state = (s.planFor w script).state s.metadata.state)
    (active : t.ref u.metadata.activeWisp = (s.planFor w script).activeWisp w.iteration)
    (last : t.ref u.metadata.lastProcessedWisp =
      (s.planFor w script).lastProcessedWisp w.iteration (s.ref s.metadata.lastProcessedWisp))
    (terminal : u.metadata.terminalReason =
      (s.planFor w script).terminalReason s.metadata.terminalReason)
    (waiting : u.metadata.waitingReason =
      (s.planFor w script).waitingReason s.metadata.waitingReason) : Lands s w script u where
  state := state
  activeWisp := (ref_of_wisps same _).trans active
  lastProcessedWisp := (ref_of_wisps same _).trans last
  terminalReason := terminal
  waitingReason := waiting
  others := by
    intro i other
    rw [wispAt_of_wisps same]
    exact ready.isSome_others i other
  next := by
    rw [wispAt_of_wisps same]
    exact ready.left

theorem Final.lands {a : HandlerAction} (due : s.Due w) (final : Final s w script a u) :
    Lands s w script u := by
  cases final with
  | held r ready plan =>
    have found := ready.found due.toUnprocessed
    refine ready.lands rfl ?_ ?_ ?_ ?_ ?_ <;> rw [plan]
    · rfl
    · rfl
    · exact ref_of_find found
    · exact ready.undecided.terminalReason
    · rfl
  | finished q ready plan =>
    have found := ready.found due.toUnprocessed
    refine ready.lands rfl ?_ ?_ ?_ ?_ ?_ <;> rw [plan]
    · rfl
    · exact ready.ref_active due
    · exact ref_of_find found
    · rfl
    · exact ready.undecided.waitingReason
  | awaited ready plan =>
    have found := ready.found due.toUnprocessed
    refine ready.lands rfl ?_ ?_ ?_ ?_ ?_ <;> rw [plan]
    · rfl
    · rfl
    · exact ref_of_find found
    · exact ready.undecided.terminalReason
    · exact ready.undecided.waitingReason
  | @nexted t x prep at_next plan =>
    have found := find_of_wispAt at_next
    have iteration := (wispAt_eq_some_iff.mp at_next).2
    have same : (LoopStore.nexted t w x).wisps = (t.publish x.id).wisps := rfl
    refine ⟨?_, ?_, ?_, ?_, ?_, ?_, ?_⟩
    · rw [plan]
      exact prep.undecided.state
    · have named : (t.publish x.id).wisps.find x.id = some (publishOne x.id x) := by
        rw [find_publish, found]
        rfl
      have active : (LoopStore.nexted t w x).metadata.activeWisp = x.id := rfl
      rw [plan, active, ref_of_wisps same, ref_of_find named, publishOne_iteration, iteration]
      rfl
    · have marked : (t.publish x.id).wisps.find w.id = some (publishOne x.id w) := by
        rw [find_publish, prep.found due.toUnprocessed]
        rfl
      have last : (LoopStore.nexted t w x).metadata.lastProcessedWisp = w.id := rfl
      rw [plan, last, ref_of_wisps same, ref_of_find marked, publishOne_iteration]
      rfl
    · rw [plan]
      exact prep.undecided.terminalReason
    · rw [plan]
      exact prep.undecided.waitingReason
    · intro i other
      show ((t.publish x.id).wispAt i).isSome = _
      rw [wispAt_publish, isSome_map, prep.others i other]
    · rw [plan]
      show ((t.publish x.id).wispAt (w.iteration + 1)).isSome ↔ True
      rw [wispAt_publish, at_next]
      simp

theorem Failed.lands (due : s.Due w) (failed : Failed s w script u) : Lands s w script u := by
  obtain ⟨ready, plan⟩ := failed
  rcases plan with plan | plan
  all_goals
    refine ready.lands rfl ?_ ?_ ?_ ?_ ?_ <;> rw [plan]
    · exact ready.undecided.state
    · exact ready.ref_active due
    · exact ready.ref_last
    · exact ready.undecided.terminalReason
    · exact ready.undecided.waitingReason

/-- A state from which the wisp is processed again to the same end. -/
structure Resumes (s : LoopStore) (w : Wisp) (script : GateResult) (t : LoopStore) : Prop where
  due : t.Due w
  plan : t.planFor w script = s.planFor w script
  lastProcessedWisp : t.ref t.metadata.lastProcessedWisp = s.ref s.metadata.lastProcessedWisp
  terminalReason : t.metadata.terminalReason = s.metadata.terminalReason
  waitingReason : t.metadata.waitingReason = s.metadata.waitingReason
  others : ∀ i, i ≠ w.iteration + 1 → (t.wispAt i).isSome = (s.wispAt i).isSome
  leftover : Leftover (s.planFor w script) t w.iteration ↔
    Leftover (s.planFor w script) s w.iteration

theorem Resumes.lands (resumes : Resumes s w script t) (active : s.metadata.state = .active)
    (lands : Lands t w script u) : Lands s w script u := by
  have state : t.metadata.state = s.metadata.state := by rw [resumes.due.active, active]
  have plan := resumes.plan
  refine ⟨?_, ?_, ?_, ?_, ?_, ?_, ?_⟩
  · rw [lands.state, plan, state]
  · rw [lands.activeWisp, plan]
  · rw [lands.lastProcessedWisp, plan, resumes.lastProcessedWisp]
  · rw [lands.terminalReason, plan, resumes.terminalReason]
  · rw [lands.waitingReason, plan, resumes.waitingReason]
  · intro i other
    rw [lands.others i other, resumes.others i other]
  · rw [lands.next, plan]
    exact resumes.leftover

theorem Prep.resumes (prep : Prep s w script t) (due : s.Due w) : Resumes s w script t where
  due := by
    refine ⟨prep.unprocessed due.toUnprocessed, ?_, ?_⟩
    · rw [prep.undecided.state, due.active]
    · rw [prep.undecided.activeWisp, due.named]
  plan := prep.plan
  lastProcessedWisp := prep.ref_last
  terminalReason := prep.undecided.terminalReason
  waitingReason := prep.undecided.waitingReason
  others := prep.isSome_others
  leftover := prep.leftover

theorem Prep.resumes_published (prep : Prep s w script t) (due : s.Due w)
    (at_next : t.wispAt (w.iteration + 1) = some x) (next : s.planFor w script = .next) :
    Resumes s w script (t.publish x.id) := by
  have resumes := prep.resumes due
  have before := resumes.due
  have other : w.id ≠ x.id := by
    intro same
    have at_x := find_of_wispAt at_next
    rw [← same, before.found] at at_x
    have iteration := (wispAt_eq_some_iff.mp at_next).2
    rw [← some.inj at_x] at iteration
    omega
  have last := ref_publish t x.id t.metadata.lastProcessedWisp
  refine ⟨⟨⟨before.created, before.running, ?_, before.closed, ?_⟩, before.active, before.named⟩,
    resumes.plan, last.trans resumes.lastProcessedWisp, resumes.terminalReason,
    resumes.waitingReason, ?_, ?_⟩
  · rw [find_publish, before.found]
    show some (publishOne x.id w) = some w
    unfold publishOne
    rw [if_neg other]
  · rw [lastIteration_publish]
    exact before.later
  · intro i elsewhere
    rw [wispAt_publish, isSome_map]
    exact resumes.others i elsewhere
  · rw [next]
    exact Iff.rfl

end LoopStore

end GasCity
