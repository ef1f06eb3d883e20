import GasCity.AttachRun

namespace GasCity.Attaching

open AttachStore AttachCall

variable {recipe : List String} {expected first : Nat} {s : Attaching}
  {c : AttachChoice} {root : String}

variable (inv : Fenced expected first s) (alive : c ≠ .crash)

include inv alive

theorem Fenced.next_unsettled {j : Nat}
    (unsettled : (s.calls j).unsettled = true) :
    Fences expected first s (s.next recipe expected (j, c)) := by
  have bound := inv.bound j
  unfold Attaching.next Threads.step
  simp only [step, if_neg alive]
  cases here : s.calls j with (rw [here] at bound; try dsimp only)
  | minting ref rest =>
    split
    next bead =>
      split
      next d' created => exact inv.mint unsettled rfl rfl created
      next => exact inv.stays here
    next => exact inv.stays here
  | creating root ids rest =>
    cases rest with
    | nil =>
      dsimp only
      exact inv.goes_on (fun _ => .inl unsettled) (by rw [here]; exact fun _ => id)
        (fun h => absurd h (by simp [wins])) bound
    | cons ref rest =>
      dsimp only
      split
      next bead =>
        split
        next d' created =>
          obtain ⟨_, epoch, rows⟩ := create_eq_some created
          have alike := alike_create rfl created
          refine inv.same_marks alike epoch (inv.honest.create rfl created)
            (fun _ => .inl unsettled) (by rw [here]; exact fun _ => id)
            (fun h => absurd h (by simp [wins])) ⟨(alike.marks root _).mpr bound.1, ?_⟩
          intro k mem
          rcases List.mem_cons.mp mem with rfl | mem
          · refine .inr ?_
            unfold marker
            rw [rows, if_pos rfl]
            rfl
          · exact (bound.2 k mem).imp_right (alike.steps k)
        next => exact inv.stays here
      next => exact inv.stays here
  | created root ids =>
    obtain ⟨beads, epoch⟩ := depAdd_frame s.shared root
    have alike := alike_of_beads beads
    exact inv.same_marks alike epoch (inv.honest.of_beads beads) (fun _ => .inl unsettled)
      (by rw [here]; exact fun _ => id) (fun h => absurd h (by simp [wins]))
      ⟨(alike.marks root _).mpr bound.1, fun k mem => (bound.2 k mem).imp_right (alike.steps k)⟩
  | attached root ids =>
    have standing : s.shared.Standing root := ⟨_, bound.1, by simp⟩
    rcases s.shared.advance_cases expected with ⟨before, won⟩ | lost
    · rw [won]
      refine inv.raise before standing (fun k other _ there => ?_) rfl
        (by rw [here]; exact fun _ => id) ⟨Nat.succ_ne_self expected, .inr ⟨standing, ?_⟩⟩
      · exact other (inv.distinct k j root there (by rw [here]; rfl))
      · exact fun id active => absurd before (inv.fenced j id unsettled active)
    · rw [lost]
      exact inv.goes_on (fun _ => .inl unsettled) (by rw [here]; exact fun _ => id)
        (fun h => absurd h (by simp [wins])) bound
  | losing root ids =>
    simp only [claimAttachCandidate, if_pos bound.1]
    have own : (s.calls j).mine = some root := by rw [here]; rfl
    refine inv.fail bound.1 (fun k other _ there => other (inv.distinct k j root there own)) ?_ rfl
      rfl rfl ?_ ?_
    · exact fun winner losers recovery => absurd unsettled (by simp [recovery.settled j])
    · intro moved
      obtain ⟨w, standing, unowned⟩ := inv.survivor moved
      exact ⟨w, standing, fun same => unowned j unsettled (same ▸ own), fun k _ => unowned k⟩
    · intro k mem
      rcases bound.2 k mem with rfl | step
      · exact .inl (marker_setMarker_self bound.1)
      · have ne : k ≠ root := by
          rintro rfl
          exact absurd (step.symm.trans bound.1) (by simp)
        rw [marker_setMarker_of_ne ne]
        exact .inr step
  | _ =>
    rw [here] at unsettled
    cases unsettled

omit alive

theorem Fenced.neutralizes {j : Nat} {winner loser : String} {rest : List String}
    (recovery : s.Recovery winner (loser :: rest))
    (unclaimed : s.shared.marker loser = some (some .unclaimed)) :
    Fences expected first s ⟨s.shared.setMarker loser .failed,
      Function.update s.calls j (.neutralizing winner loser rest)⟩ := by
  have apart : winner ≠ loser := fun same => recovery.apart (same ▸ List.mem_cons_self)
  refine inv.fail unclaimed (fun k _ h => absurd h (by simp [recovery.settled k])) ?_ rfl
    rfl rfl ?_ ⟨marker_setMarker_self unclaimed, ?_⟩
  · intro other losers there
    have same : other = winner :=
      le_antisymm (there.least winner recovery.standing) (recovery.least other there.standing)
    exact same ▸ apart
  · exact fun _ => ⟨winner, recovery.standing, apart,
      fun k _ h => absurd h (by simp [recovery.settled k])⟩
  · refine ⟨settled_update recovery.settled rfl,
      (standing_setMarker apart).mpr recovery.standing, ?_, ?_, ?_⟩
    · intro id standing
      exact recovery.least id (standing_of_failed unclaimed standing).2
    · intro id standing
      obtain ⟨ne, before⟩ := standing_of_failed unclaimed standing
      exact (recovery.others id before).imp_right fun mem => (List.mem_cons.mp mem).resolve_left ne
    · exact fun mem => recovery.apart (List.mem_cons_of_mem loser mem)

theorem Fenced.claims {j : Nat} {ids : List String} {owner : Bool}
    (here : s.calls j = .claiming root ids owner)
    (unclaimed : s.shared.marker root = some (some .unclaimed)) :
    Fences expected first s ⟨s.shared.setMarker root .activating,
      Function.update s.calls j (.promoting root ids owner)⟩ := by
  have bound := inv.bound j
  rw [here] at bound
  have active : (s.shared.setMarker root .activating).Active root :=
    .inl (marker_setMarker_self unclaimed)
  cases owner with
  | true =>
    obtain ⟨later, alone⟩ := bound
    have only := (alone.resolve_left (by rw [unclaimed]; simp)).2
    have own : (s.calls j).mine = some root := by rw [here]; rfl
    refine inv.promote unclaimed (.inl ⟨rfl, rfl⟩) only (fun k other _ => ⟨fun there => ?_, later⟩)
      rfl rfl rfl (fun k other y won _ => ?_) active
    · exact other (inv.distinct k j root there own)
    · exact absurd (inv.winner k j won (by rw [here]; rfl)) other
  | false =>
    have idle : ¬ s.shared.Active root := by
      unfold Active
      rw [unclaimed]
      simp
    have recovery := bound.resolve_left idle
    have only : ∀ y, s.shared.Standing y → y = root := fun y standing =>
      (recovery.others y standing).resolve_right List.not_mem_nil
    refine inv.promote unclaimed (.inl ⟨rfl, rfl⟩) (fun y active => only y active.standing)
      (fun k _ h => absurd h (by simp [recovery.settled k])) rfl rfl rfl ?_ active
    intro k _ y won own
    rcases ((inv.bound k).wins_alone won own).2 with failed | ⟨standing, _⟩
    · exact .inr failed
    · exact .inl (only y standing)

omit inv

theorem bound_activated {d : AttachStore} {calls : Nat → AttachCall} (owner : Bool)
    (cleared : d.marker root = some (some .cleared)) :
    Bound expected ⟨d, calls⟩ (activated root owner) := by
  cases owner <;> exact cleared

theorem activated_free (root : String) (owner : Bool) :
    (activated root owner).unsettled = false ∧
      (activated root owner).mine = none ∧
      (activated root owner).wins = false := by
  cases owner <;> exact ⟨rfl, rfl, rfl⟩

theorem Fenced.marks (inv : Fenced expected first s) {j : Nat} {id : String} {t : AttachCall}
    (marked : s.shared.marker id = some (some .failed) ∨ s.shared.marker id = some none)
    (settled : t.unsettled = false) (mine : t.mine = none) (wins : t.wins = false)
    (bound : Alike s.shared (s.shared.markFailed id) →
      Bound expected ⟨s.shared.markFailed id, Function.update s.calls j t⟩ t) :
    Fences expected first s ⟨s.shared.markFailed id, Function.update s.calls j t⟩ := by
  have alike : Alike s.shared (s.shared.markFailed id) := alike_modifyBead fun _ => rfl
  refine inv.moves alike rfl (inv.honest.modifyBead fun b found _ => ?_) settled mine wins (bound alike)
  unfold marker at marked
  rw [found] at marked
  exact marked.symm.imp Option.some.inj Option.some.inj

theorem Fenced.next_recovering (inv : Fenced expected first s) (alive : c ≠ .crash) {j : Nat}
    {winner : String} {losers : List String} (here : s.calls j = .recovering winner losers) :
    Fences expected first s (s.next recipe expected (j, c)) := by
  have recovery := inv.bound j
  rw [here] at recovery
  unfold Attaching.next Threads.step
  simp only [step, if_neg alive, here]
  cases losers with
  | nil =>
    dsimp only
    exact inv.reads rfl rfl rfl (.inr (recovery.alike (Alike.refl _) rfl))
  | cons loser rest =>
    dsimp only
    rcases s.shared.claim_cases loser .unclaimed .failed with ⟨unclaimed, won⟩ | lost
    · rw [won]
      exact inv.neutralizes recovery unclaimed
    · rw [lost]
      exact inv.reads rfl rfl rfl trivial

theorem Fenced.next_promoting (inv : Fenced expected first s) (alive : c ≠ .crash) {j : Nat}
    {ids : List String} {owner : Bool} (here : s.calls j = .promoting root ids owner) :
    Fences expected first s (s.next recipe expected (j, c)) := by
  have bound := inv.bound j
  rw [here] at bound
  unfold Attaching.next Threads.step
  simp only [step, if_neg alive, here]
  cases ids with
  | nil =>
    obtain ⟨settled, mine, wins⟩ := activated_free root owner
    dsimp only
    rcases s.shared.claim_cases root .activating .cleared with ⟨activating, won⟩ | lost
    · rw [won]
      refine inv.promote activating (.inr ⟨rfl, rfl⟩) (fun y there => inv.solo y root there bound)
        (fun k _ unsettled => ⟨fun own => ?_, inv.fenced k root unsettled bound⟩) settled mine wins
        (fun k _ y won own => ?_) (bound_activated owner (marker_setMarker_self activating))
      · have unclaimed := (inv.bound k).mine_unclaimed unsettled own
        exact absurd (unclaimed.symm.trans activating) (by simp)
      · rcases ((inv.bound k).wins_alone won own).2 with failed | ⟨_, only⟩
        · exact .inr failed
        · exact .inl (only root bound).symm
    · rw [lost]
      exact inv.reads rfl rfl rfl trivial
  | cons id ids =>
    dsimp only
    split
    next => exact inv.reads rfl rfl rfl trivial
    next =>
      split <;> exact inv.reads rfl rfl rfl bound

theorem Fenced.next (inv : Fenced expected first s) (e : Nat × AttachChoice)
    (regular : s.Regular e) : Fences expected first s (s.next recipe expected e) := by
  obtain ⟨j, c⟩ := e
  by_cases crash : c = .crash
  · subst crash
    unfold Attaching.next Threads.step
    simp only [step, if_pos]
    exact inv.reads rfl rfl rfl trivial
  by_cases unsettled : (s.calls j).unsettled = true
  · exact inv.next_unsettled crash unsettled
  by_cases recovers : ∃ winner losers, s.calls j = .recovering winner losers
  · obtain ⟨winner, losers, here⟩ := recovers
    exact inv.next_recovering crash here
  by_cases promotes : ∃ root ids owner, s.calls j = .promoting root ids owner
  · obtain ⟨root, ids, owner, here⟩ := promotes
    exact inv.next_promoting crash here
  have bound := inv.bound j
  unfold Attaching.next Threads.step
  generalize here : s.calls j = call at bound unsettled
  simp only [step, if_neg crash]
  cases call with try dsimp only
  | minting | creating | created | attached | losing => exact absurd rfl unsettled
  | recovering winner losers => exact (recovers ⟨winner, losers, here⟩).elim
  | promoting root ids owner => exact (promotes ⟨root, ids, owner, here⟩).elim
  | neutralizing winner loser losers =>
    exact inv.marks (.inl bound.1) rfl rfl rfl fun alike => bound.2.alike alike rfl
  | detaching winner loser losers =>
    have alike : Alike s.shared (s.shared.depRemove loser) := alike_of_beads rfl
    exact inv.moves alike rfl inv.honest rfl rfl rfl (bound.alike alike rfl)
  | claiming root ids owner =>
    rcases s.shared.claim_cases root .unclaimed .activating with ⟨unclaimed, won⟩ | lost
    · rw [won]
      exact inv.claims here unclaimed
    · rw [lost]
      exact inv.reads rfl rfl rfl trivial
  | opened epoch =>
    split
    next all =>
      split
      next perm => exact inv.lookup here regular perm
      next => exact inv.stays here
    next => exact inv.stays here
  | idle | refused =>
    split <;> exact inv.reads rfl rfl rfl trivial
  | returned root =>
    split
    next => exact inv.reads rfl rfl rfl trivial
    next => exact inv.reads rfl rfl rfl bound
  | marking root ids =>
    cases ids with
    | nil =>
      dsimp only
      exact inv.moves (alike_of_beads rfl) rfl inv.honest rfl rfl rfl trivial
    | cons id ids =>
      dsimp only
      exact inv.marks (bound id List.mem_cons_self) rfl rfl rfl fun alike k mem =>
        (bound k (List.mem_cons_of_mem id mem)).imp (alike.marks k _).mpr (alike.steps k)
  | mapping root =>
    split
    next all =>
      split
      next =>
        exact inv.reads rfl rfl rfl
          (bound.imp_right fun recovery => recovery.alike (Alike.refl _) rfl)
      next => exact inv.stays here
    next => exact inv.stays here
  | contested root ids owner =>
    obtain ⟨settled, mine, wins⟩ := activated_free root owner
    split
    next cleared => exact inv.reads settled mine wins (bound_activated owner cleared)
    next activating => exact inv.reads rfl rfl rfl (.inl activating)
    next => exact inv.reads rfl rfl rfl trivial
  | updating root id ids owner =>
    have alike : Alike s.shared (s.shared.activate id) := alike_modifyBead fun _ => rfl
    refine inv.moves alike rfl ?_ rfl rfl rfl (alike.active.mpr bound)
    exact inv.honest.modifyBead fun b found => inv.honest id b found
  | rereading root owner =>
    obtain ⟨settled, mine, wins⟩ := activated_free root owner
    split
    next cleared => exact inv.reads settled mine wins (bound_activated owner cleared)
    next => exact inv.reads rfl rfl rfl trivial
  | adopting | advancing | rechecking =>
    split <;> exact inv.reads rfl rfl rfl bound
  | wiring root =>
    obtain ⟨beads, epoch⟩ := depAdd_frame s.shared root
    have alike := alike_of_beads beads
    exact inv.moves alike epoch (inv.honest.of_beads beads) rfl rfl rfl ((alike.marks root _).mpr bound)
  | bumping root again =>
    rcases s.shared.advance_cases expected with ⟨before, won⟩ | lost
    · rw [won]
      refine inv.raise before ⟨_, bound, by simp⟩ (fun k _ unsettled own => ?_) rfl
        (fun _ h => absurd h (by simp [mine])) bound
      have unclaimed := (inv.bound k).mine_unclaimed unsettled own
      exact absurd (unclaimed.symm.trans bound) (by simp)
    · simp only [lost]
      split <;> exact inv.reads rfl rfl rfl bound
  | finding root =>
    exact inv.reads rfl rfl rfl bound

end GasCity.Attaching
