import GasCity.AttachFence

namespace GasCity

open KeyedList

namespace AttachStore

variable (d : AttachStore)

def Standing (id : String) : Prop := ∃ mark, d.marker id = some (some mark) ∧ mark ≠ .failed

def Active (id : String) : Prop :=
  d.marker id = some (some .activating) ∨ d.marker id = some (some .cleared)

/-- A root is marked `molecule_failed` only after its marker. -/
def Honest : Prop :=
  ∀ id b, d.beads.find id = some b → b.moleculeFailed = true →
    b.fence = none ∨ b.fence = some .failed

/-- The same candidates with the same markers; other beads may have been added. -/
structure Alike (d d' : AttachStore) : Prop where
  marks : ∀ id mark, d'.marker id = some (some mark) ↔ d.marker id = some (some mark)
  steps : ∀ id, d.marker id = some none → d'.marker id = some none

variable {d} {d' : AttachStore}
  {id : String} {f : AttachBead → AttachBead} {same : ∀ b, (f b).id = b.id} {mark : FenceMarker}
  {b : AttachBead}

theorem Active.standing (active : d.Active id) : d.Standing id := by
  rcases active with here | here <;> exact ⟨_, here, by simp⟩

theorem Standing.cases (standing : d.Standing id) :
    d.marker id = some (some .unclaimed) ∨ d.Active id := by
  obtain ⟨mark, here, unfailed⟩ := standing
  cases mark with
  | unclaimed => exact .inl here
  | activating => exact .inr (.inl here)
  | cleared => exact .inr (.inr here)
  | failed => exact absurd rfl unfailed

theorem Alike.standing (alike : Alike d d') : d'.Standing id ↔ d.Standing id := by
  unfold Standing
  simp only [alike.marks]

theorem Alike.active (alike : Alike d d') : d'.Active id ↔ d.Active id := by
  unfold Active
  rw [alike.marks, alike.marks]

theorem Alike.refl (d : AttachStore) : Alike d d := ⟨fun _ _ => Iff.rfl, fun _ h => h⟩

theorem marker_modifyBead (fence : ∀ b, (f b).fence = b.fence) (k : String) :
    (d.modifyBead id f same).marker k = d.marker k := by
  unfold marker modifyBead
  rw [find_modify]
  split
  next => simp [Function.comp_def, fence]
  next => rfl

theorem marker_setMarker (k : String) :
    (d.setMarker id mark).marker k =
      if k = id then (d.marker k).map fun _ => some mark else d.marker k := by
  unfold marker setMarker modifyBead
  rw [find_modify]
  split
  next => cases d.beads.find k <;> rfl
  next => rfl

theorem marker_setMarker_self {was : FenceMarker} (here : d.marker id = some (some was)) :
    (d.setMarker id mark).marker id = some (some mark) := by
  rw [marker_setMarker, if_pos rfl, here]
  rfl

theorem marker_setMarker_of_ne {k : String} (ne : k ≠ id) :
    (d.setMarker id mark).marker k = d.marker k := by
  rw [marker_setMarker, if_neg ne]

theorem claim_cases (d : AttachStore) (id : String) (was becomes : FenceMarker) :
    d.marker id = some (some was) ∧
        d.claimAttachCandidate id was becomes = (true, d.setMarker id becomes) ∨
      d.claimAttachCandidate id was becomes = (false, d) := by
  unfold claimAttachCandidate
  split
  next here => exact .inl ⟨here, rfl⟩
  next => exact .inr rfl

theorem advance_cases (d : AttachStore) (expected : Nat) :
    d.epoch = expected ∧ d.advance expected = (true, { d with epoch := expected + 1 }) ∨
      d.advance expected = (false, d) := by
  unfold advance
  split
  next here => exact .inl ⟨here, rfl⟩
  next => exact .inr rfl

theorem create_eq_some (created : d.create b = some d') :
    d.marker b.id = none ∧ d'.epoch = d.epoch ∧
      ∀ k, d'.beads.find k = if k = b.id then some b else d.beads.find k := by
  unfold create at created
  split at created
  next fresh =>
    cases created
    have absent := find_eq_none_iff.mpr fresh
    refine ⟨?_, rfl, fun k => find_push _ _ fresh k⟩
    unfold marker
    rw [absent]
    rfl
  next => cases created

theorem alike_modifyBead (fence : ∀ b, (f b).fence = b.fence) :
    Alike d (d.modifyBead id f same) := by
  constructor
  · intro k mark
    rw [marker_modifyBead fence]
  · intro k here
    rw [marker_modifyBead fence]
    exact here

theorem alike_create (plain : b.fence = none) (created : d.create b = some d') :
    Alike d d' := by
  obtain ⟨absent, _, rows⟩ := create_eq_some created
  have marks : ∀ k, d'.marker k = if k = b.id then some none else d.marker k := by
    intro k
    unfold marker
    rw [rows]
    split
    next => simp [plain]
    next => rfl
  constructor
  · intro k mark
    rw [marks]
    split
    next same => rw [same, absent]; simp
    next => exact Iff.rfl
  · intro k here
    rw [marks]
    split
    next => rfl
    next => exact here

theorem Honest.of_beads {d' : AttachStore} (honest : d.Honest) (beads : d'.beads = d.beads) : d'.Honest := by
  unfold Honest
  rw [beads]
  exact honest

theorem Honest.modifyBead (honest : d.Honest)
    (keeps : ∀ b, d.beads.find id = some b → (f b).moleculeFailed = true →
      (f b).fence = none ∨ (f b).fence = some .failed) :
    (d.modifyBead id f same).Honest := by
  intro k b found
  unfold AttachStore.modifyBead at found
  rw [find_modify] at found
  split at found
  next here =>
    subst here
    obtain ⟨b', old, rfl⟩ := Option.map_eq_some_iff.mp found
    exact keeps b' old
  next => exact honest k b found

theorem Honest.setMarker (honest : d.Honest) {was : FenceMarker} (here : d.marker id = some (some was))
    (standing : was ≠ .failed) :
    (d.setMarker id mark).Honest := by
  refine honest.modifyBead fun b found failed => ?_
  have fence : b.fence = some was := by
    unfold marker at here
    rw [found] at here
    exact Option.some.inj here
  rcases honest id b found failed with none | marked
  · exact absurd (fence.symm.trans none) (by simp)
  · exact absurd (Option.some.inj (fence.symm.trans marked)) standing

theorem Honest.create (honest : d.Honest) (unfailed : b.moleculeFailed = false)
    (created : d.create b = some d') : d'.Honest := by
  obtain ⟨_, _, rows⟩ := create_eq_some created
  intro k a found failed
  rw [rows] at found
  split at found
  next =>
    cases found
    exact absurd (unfailed.symm.trans failed) (by simp)
  next => exact honest k a found failed

end AttachStore

namespace AttachCall

/-- The call may still create a candidate, or fail the one it created. -/
def unsettled : AttachCall → Bool
  | .minting _ _ | .creating _ _ _ | .created _ _ | .attached _ _ | .losing _ _ => true
  | _ => false

def mine : AttachCall → Option String
  | .creating root _ _ | .created root _ | .attached root _ | .losing root _ => some root
  | .claiming root _ true => some root
  | _ => none

/-- The call advanced the epoch and is about to claim its candidate. -/
def wins : AttachCall → Bool
  | .claiming _ _ true => true
  | _ => false

end AttachCall

namespace Attaching

open AttachStore

/-- A recovery that has still to neutralize `losers`: no call can create a candidate or fail its
own any more, and the winner is the smallest candidate that stands. -/
structure Recovery (s : Attaching) (winner : String) (losers : List String) : Prop where
  settled : ∀ j, (s.calls j).unsettled = false
  standing : s.shared.Standing winner
  least : ∀ id, s.shared.Standing id → winner ≤ id
  others : ∀ id, s.shared.Standing id → id = winner ∨ id ∈ losers
  apart : winner ∉ losers

def Bound (expected : Nat) (s : Attaching) : AttachCall → Prop
  | .creating root ids _ | .created root ids | .attached root ids | .losing root ids =>
    s.shared.marker root = some (some .unclaimed) ∧
      ∀ id ∈ ids, id = root ∨ s.shared.marker id = some none
  | .marking _ ids =>
    ∀ id ∈ ids, s.shared.marker id = some (some .failed) ∨ s.shared.marker id = some none
  | .recovering winner losers | .detaching winner _ losers => s.Recovery winner losers
  | .neutralizing winner loser losers =>
    s.shared.marker loser = some (some .failed) ∧ s.Recovery winner losers
  | .mapping root | .claiming root _ false => s.shared.Active root ∨ s.Recovery root []
  | .claiming root _ true =>
    s.shared.epoch ≠ expected ∧ (s.shared.marker root = some (some .failed) ∨
      s.shared.Standing root ∧ ∀ id, s.shared.Active id → id = root)
  | .promoting root _ _ | .updating root _ _ _ => s.shared.Active root
  | .adopting root | .wiring root | .advancing root | .bumping root _ | .rechecking root
  | .finding root | .returned root => s.shared.marker root = some (some .cleared)
  | _ => True

/-- The invariant of a fenced attach that started at epoch `first`. -/
structure Fenced (expected first : Nat) (s : Attaching) : Prop where
  bound : ∀ j, s.Bound expected (s.calls j)
  honest : s.shared.Honest
  solo : ∀ x y, s.shared.Active x → s.shared.Active y → x = y
  distinct : ∀ j k x, (s.calls j).mine = some x → (s.calls k).mine = some x → j = k
  winner : ∀ j k, (s.calls j).wins = true → (s.calls k).wins = true → j = k
  fenced : ∀ j y, (s.calls j).unsettled = true → s.shared.Active y → s.shared.epoch ≠ expected
  survivor : s.shared.epoch ≠ first →
    ∃ w, s.shared.Standing w ∧ ∀ j, (s.calls j).unsettled = true → (s.calls j).mine ≠ some w

variable {expected first : Nat} {s s' : Attaching} {call : AttachCall}

theorem Bound.mine_marked (bound : s.Bound expected call) {x : String} (mine : call.mine = some x) :
    s.shared.marker x ≠ none := by
  cases call with
  | creating | created | attached | losing =>
    cases mine
    rw [bound.1]
    simp
  | claiming root ids owner =>
    cases owner with
    | false => cases mine
    | true =>
      cases mine
      rcases bound.2 with failed | ⟨⟨mark, here, _⟩, _⟩
      · rw [failed]
        simp
      · rw [here]
        simp
  | _ => cases mine

theorem Bound.mine_unclaimed (bound : s.Bound expected call) {x : String}
    (unsettled : call.unsettled = true) (mine : call.mine = some x) :
    s.shared.marker x = some (some .unclaimed) := by
  cases call with
  | creating | created | attached | losing =>
    cases mine
    exact bound.1
  | minting ref rest => cases mine
  | _ => cases unsettled

theorem Bound.wins_alone (bound : s.Bound expected call) {x : String} (wins : call.wins = true)
    (mine : call.mine = some x) :
    s.shared.epoch ≠ expected ∧ (s.shared.marker x = some (some .failed) ∨
      s.shared.Standing x ∧ ∀ id, s.shared.Active id → id = x) := by
  cases call with
  | claiming root ids owner =>
    cases owner with
    | false => cases wins
    | true =>
      cases mine
      exact bound
  | _ => cases wins

/-- The markers other than `unclaimed` only move on to live. -/
structure Onward (s s' : Attaching) : Prop where
  settled : ∀ x mark, s.shared.marker x = some mark → mark ≠ some .unclaimed →
    mark ≠ some .activating → s'.shared.marker x = some mark
  active : ∀ x, s.shared.Active x → s'.shared.Active x
  recovery : ∀ winner losers, s.Recovery winner losers → s'.Recovery winner losers

theorem Bound.onward (bound : s.Bound expected call) (onward : Onward s s')
    (own : ∀ x, call.unsettled = true → call.mine = some x →
      s'.shared.marker x = some (some .unclaimed))
    (win : ∀ x, call.wins = true → call.mine = some x → s'.shared.epoch ≠ expected ∧
      (s'.shared.marker x = some (some .failed) ∨
        s'.shared.Standing x ∧ ∀ id, s'.shared.Active id → id = x)) :
    s'.Bound expected call := by
  have steps : ∀ (root : String) (ids : List String),
      (∀ id ∈ ids, id = root ∨ s.shared.marker id = some none) →
      ∀ id ∈ ids, id = root ∨ s'.shared.marker id = some none := by
    intro root ids before id mem
    rcases before id mem with same | step
    · exact .inl same
    · exact .inr (onward.settled id none step (by simp) (by simp))
  have either : ∀ root, s.shared.Active root ∨ s.Recovery root [] →
      s'.shared.Active root ∨ s'.Recovery root [] :=
    fun root => Or.imp (onward.active root) (onward.recovery root [])
  cases call with
  | creating | created | attached | losing => exact ⟨own _ rfl rfl, steps _ _ bound.2⟩
  | marking root ids =>
    intro id mem
    exact (bound id mem).imp (fun h => onward.settled id _ h (by simp) (by simp))
      fun h => onward.settled id _ h (by simp) (by simp)
  | recovering | detaching => exact onward.recovery _ _ bound
  | neutralizing winner loser losers =>
    exact ⟨onward.settled loser _ bound.1 (by simp) (by simp),
      onward.recovery winner losers bound.2⟩
  | mapping root => exact either root bound
  | claiming root ids owner =>
    cases owner with
    | false => exact either root bound
    | true => exact win root rfl rfl
  | promoting | updating => exact onward.active _ bound
  | adopting | wiring | advancing | bumping | rechecking | finding | returned =>
    exact onward.settled _ _ bound (by simp) (by simp)
  | _ => trivial

end Attaching

end GasCity
