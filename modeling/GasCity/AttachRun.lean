import GasCity.AttachWinner

namespace GasCity

open List AttachCall Function

namespace AttachStore

variable {d : AttachStore} {all : List AttachBead}

theorem marker_of_listed (perm : all.Perm d.candidates) {b : AttachBead} (mem : b ∈ all) :
    d.marker b.id = some b.fence := by
  have row := (mem_filter.mp (perm.mem_iff.mp mem)).1
  unfold marker
  rw [KeyedList.find_key_of_mem row]
  rfl

theorem listed_of_marker (honest : d.Honest) (perm : all.Perm d.candidates) {id : String}
    {mark : FenceMarker} (here : d.marker id = some (some mark)) (unfailed : mark ≠ .failed) :
    ∃ b ∈ all, b.id = id ∧ b.stands mark = true := by
  obtain ⟨b, found, fence⟩ := Option.map_eq_some_iff.mp here
  have row := KeyedList.mem_of_find found
  have unmarked : b.moleculeFailed = false := by
    cases failed : b.moleculeFailed with
    | false => rfl
    | true =>
      rcases honest id b found failed with none | marked
      · exact absurd (fence.symm.trans none) (by simp)
      · exact absurd (Option.some.inj (fence.symm.trans marked)) unfailed
  refine ⟨b, perm.mem_iff.mpr (mem_filter.mpr ⟨row, by simp [fence]⟩),
    KeyedList.key_of_find found, ?_⟩
  simp [AttachBead.stands, AttachBead.isFailed, unmarked, fence, unfailed]

theorem fence_of_stands {b : AttachBead} {mark : FenceMarker} (stands : b.stands mark = true) :
    b.fence = some mark := by
  unfold AttachBead.stands at stands
  simp only [Bool.and_eq_true, beq_iff_eq] at stands
  exact stands.2

theorem mem_sortedIDs {bs : List AttachBead} {id : String} :
    id ∈ sortedIDs bs ↔ ∃ b ∈ bs, b.id = id := by
  unfold sortedIDs
  rw [mem_insertionSort, mem_map]

def Tells (d : AttachStore) : ExistingAttach → Prop
  | .live root => d.marker root = some (some .cleared)
  | .claimed root => d.marker root = some (some .activating)
  | .pending winner losers =>
    d.Standing winner ∧ (∀ id, d.Standing id → winner ≤ id) ∧
      (∀ id, d.Standing id → id = winner ∨ id ∈ losers) ∧ winner ∉ losers
  | .failed => True
  | .absent => ∀ id, ¬ d.Standing id

theorem tells_findExistingAttach (honest : d.Honest) (perm : all.Perm d.candidates) :
    d.Tells (findExistingAttach all) := by
  unfold findExistingAttach
  split
  next b found =>
    have stands : b.stands .cleared = true := by simpa using find?_some found
    show d.marker b.id = _
    rw [marker_of_listed perm (mem_of_find?_eq_some found), fence_of_stands stands]
  next dead =>
    have not_cleared : ∀ id, d.marker id ≠ some (some .cleared) := by
      intro id here
      obtain ⟨b, mem, _, stands⟩ := listed_of_marker honest perm here (by simp)
      exact absurd stands (find?_eq_none.mp dead b mem)
    split
    next root rest sorted =>
      have smallest : root ∈ sortedIDs (all.filter fun b => b.stands .activating) := by
        rw [sorted]
        exact mem_cons_self
      obtain ⟨b, mem, rfl⟩ := mem_sortedIDs.mp smallest
      obtain ⟨listed, stands⟩ := mem_filter.mp mem
      show d.marker b.id = _
      rw [marker_of_listed perm listed, fence_of_stands stands]
    next idle =>
      have not_activating : ∀ id, d.marker id ≠ some (some .activating) := by
        intro id here
        obtain ⟨b, mem, same, stands⟩ := listed_of_marker honest perm here (by simp)
        have : id ∈ sortedIDs (all.filter fun b => b.stands .activating) :=
          mem_sortedIDs.mpr ⟨b, mem_filter.mpr ⟨mem, stands⟩, same⟩
        rw [idle] at this
        cases this
      have shown : ∀ id, d.Standing id →
          id ∈ sortedIDs (all.filter fun b => b.stands .unclaimed) := by
        intro id standing
        rcases standing.cases with here | here | here
        · obtain ⟨b, mem, same, stands⟩ := listed_of_marker honest perm here (by simp)
          exact mem_sortedIDs.mpr ⟨b, mem_filter.mpr ⟨mem, stands⟩, same⟩
        · exact absurd here (not_activating id)
        · exact absurd here (not_cleared id)
      split
      next winner losers sorted =>
        rw [sorted] at shown
        have smallest : winner ∈ sortedIDs (all.filter fun b => b.stands .unclaimed) := by
          rw [sorted]
          exact mem_cons_self
        obtain ⟨b, mem, rfl⟩ := mem_sortedIDs.mp smallest
        obtain ⟨listed, stands⟩ := mem_filter.mp mem
        have ordered := pairwise_insertionSort (fun x y : String => x ≤ y)
          ((all.filter fun b => b.stands .unclaimed).map AttachBead.id)
        rw [show insertionSort _ _ = _ from sorted] at ordered
        have ids : (all.map AttachBead.id).Nodup :=
          (perm.map AttachBead.id).nodup_iff.mpr
            (d.beads.nodup.sublist (filter_sublist.map AttachBead.id))
        have distinct : (b.id :: losers).Nodup := by
          rw [← sorted]
          exact (perm_insertionSort _ _).nodup_iff.mpr
            (ids.sublist (filter_sublist.map AttachBead.id))
        refine ⟨⟨.unclaimed, ?_, by simp⟩, fun id standing => ?_, fun id standing => ?_,
          (nodup_cons.mp distinct).1⟩
        · rw [marker_of_listed perm listed, fence_of_stands stands]
        · rcases mem_cons.mp (shown id standing) with same | mem
          · exact le_of_eq same.symm
          · exact (pairwise_cons.mp ordered).1 id mem
        · exact mem_cons.mp (shown id standing)
      next empty =>
        have none : ∀ id, ¬ d.Standing id := by
          intro id standing
          have := shown id standing
          rw [empty] at this
          cases this
        split
        next => trivial
        next => exact none

end AttachStore

namespace Attaching

open AttachStore

variable {recipe : List String} {expected first : Nat} {s : Attaching}

/-- A call that finds only unclaimed candidates settles them: no other call that found none may
still be before the outcome of its fence. -/
def Regular (s : Attaching) (e : Nat × AttachChoice) : Prop :=
  match s.calls e.1, e.2 with
  | .opened _, .list all =>
    (findExistingAttach all).recovers = true → ∀ k, k ≠ e.1 → (s.calls k).unsettled = false
  | _, _ => True

variable {d' : AttachStore} {j : Nat} {t : AttachCall}

theorem alike_of_beads {d : AttachStore} (same : d'.beads = d.beads) : Alike d d' := by
  constructor
  · intro id mark
    unfold marker
    rw [same]
  · intro id here
    unfold marker at here ⊢
    rw [same]
    exact here

theorem depAdd_frame (d : AttachStore) (id : String) :
    (d.depAdd id).beads = d.beads ∧ (d.depAdd id).epoch = d.epoch := by
  unfold depAdd
  split <;> exact ⟨rfl, rfl⟩

theorem Recovery.alike {winner : String} {losers : List String} (recovery : s.Recovery winner losers)
    (alike : Alike s.shared d') (settled : t.unsettled = false) :
    Recovery ⟨d', update s.calls j t⟩ winner losers :=
  recovery.transfer (settled_update recovery.settled settled)
    (alike.standing.mpr recovery.standing) fun _ => alike.standing.mp

variable (inv : Fenced expected first s)

include inv

theorem Fenced.stays {call : AttachCall} (here : s.calls j = call) :
    Fences expected first s ⟨s.shared, update s.calls j call⟩ := by
  rw [← here, update_eq_self]
  exact ⟨inv, fun _ live => live⟩

theorem Fenced.moves (alike : Alike s.shared d')
    (epoch : d'.epoch = s.shared.epoch) (honest : d'.Honest) (settled : t.unsettled = false)
    (mine : t.mine = none) (wins : t.wins = false)
    (bound : Bound expected ⟨d', update s.calls j t⟩ t) :
    Fences expected first s ⟨d', update s.calls j t⟩ :=
  inv.same_marks alike epoch honest (fun h => absurd h (by simp [settled]))
    (fun _ h => absurd h (by simp [mine])) (fun h => absurd h (by simp [wins])) bound

theorem Fenced.reads (settled : t.unsettled = false)
    (mine : t.mine = none) (wins : t.wins = false)
    (bound : Bound expected ⟨s.shared, update s.calls j t⟩ t) :
    Fences expected first s ⟨s.shared, update s.calls j t⟩ :=
  inv.moves (Alike.refl _) rfl inv.honest settled mine wins bound

theorem Fenced.lookup {epoch : Nat} {all : List AttachBead}
    (here : s.calls j = .opened epoch) (regular : s.Regular (j, .list all))
    (perm : all.Perm s.shared.candidates) :
    Fences expected first s ⟨s.shared, update s.calls j
      (afterLookup recipe expected epoch (findExistingAttach all))⟩ := by
  have tells := tells_findExistingAttach inv.honest perm
  unfold Regular at regular
  simp only [here] at regular
  cases found : findExistingAttach all with
  | live root =>
    rw [found] at tells
    exact inv.reads rfl rfl rfl tells
  | claimed root =>
    rw [found] at tells
    exact inv.reads rfl rfl rfl (.inl (.inl tells))
  | pending winner losers =>
    rw [found] at tells regular
    obtain ⟨standing, least, others, apart⟩ := tells
    refine inv.reads rfl rfl rfl ⟨fun k => ?_, standing, least, others, apart⟩
    by_cases same : k = j
    · subst same
      show (update s.calls k _ k).unsettled = false
      rw [update_self]
      rfl
    · show (update s.calls j _ k).unsettled = false
      rw [update_of_ne same]
      exact regular rfl k same
  | failed => exact inv.reads rfl rfl rfl trivial
  | absent =>
    rw [found] at tells
    simp only [afterLookup]
    split
    next =>
      split
      next => exact inv.reads rfl rfl rfl trivial
      next =>
        exact inv.goes_on (fun _ => .inr tells) (fun _ h => absurd h (by simp [mine]))
          (fun h => absurd h (by simp [wins])) trivial
    next => exact inv.reads rfl rfl rfl trivial

end Attaching

end GasCity
