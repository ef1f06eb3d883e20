import GasCity.AttachSettled

namespace GasCity.Attaching

open Option Function

open AttachStore

variable {expected first : Nat} {s s' : Attaching} {d' : AttachStore} {j : Nat} {t : AttachCall}

theorem Recovery.transfer {winner : String} {losers : List String}
    (recovery : s.Recovery winner losers) (settled : ∀ k, (s'.calls k).unsettled = false)
    (standing : s'.shared.Standing winner)
    (fewer : ∀ id, s'.shared.Standing id → s.shared.Standing id) : s'.Recovery winner losers :=
  ⟨settled, standing, fun id here => recovery.least id (fewer id here),
    fun id here => recovery.others id (fewer id here), recovery.apart⟩

theorem settled_update (settled : ∀ k, (s.calls k).unsettled = false)
    (moved : t.unsettled = false) (k : Nat) :
    (update s.calls j t k).unsettled = false := by
  by_cases same : k = j
  · subst same
    rw [update_self]
    exact moved
  · rw [update_of_ne same]
    exact settled k

theorem unsettled_update {k : Nat} (settled : t.unsettled = false)
    (moved : (update s.calls j t k).unsettled = true) : k ≠ j ∧ (s.calls k).unsettled = true := by
  have other : k ≠ j := by
    rintro rfl
    rw [update_self, settled] at moved
    cases moved
  rw [update_of_ne other] at moved
  exact ⟨other, moved⟩

/-- A step keeps the fence, and a root that is live stays live. -/
structure Fences (expected first : Nat) (s s' : Attaching) : Prop where
  fenced : Fenced expected first s'
  live : ∀ x, s.shared.marker x = some (some .cleared) → s'.shared.marker x = some (some .cleared)

theorem Fenced.put (inv : Fenced expected first s)
    (onward : Onward s ⟨d', update s.calls j t⟩) (honest : d'.Honest)
    (bound : Bound expected ⟨d', update s.calls j t⟩ t)
    (own : ∀ k, k ≠ j → ∀ x, (s.calls k).unsettled = true → (s.calls k).mine = some x →
      d'.marker x = some (some .unclaimed))
    (win : ∀ k, k ≠ j → ∀ x, (s.calls k).wins = true → (s.calls k).mine = some x →
      d'.epoch ≠ expected ∧ (d'.marker x = some (some .failed) ∨
        d'.Standing x ∧ ∀ id, d'.Active id → id = x))
    (solo : ∀ x y, d'.Active x → d'.Active y → x = y)
    (mine : ∀ x, t.mine = some x → ∀ k, k ≠ j → (s.calls k).mine ≠ some x)
    (wins : t.wins = true → ∀ k, k ≠ j → (s.calls k).wins = false)
    (late : ∀ k y, (update s.calls j t k).unsettled = true → d'.Active y →
      d'.epoch ≠ expected)
    (survivor : d'.epoch ≠ first → ∃ w, d'.Standing w ∧
      ∀ k, (update s.calls j t k).unsettled = true →
        (update s.calls j t k).mine ≠ some w) :
    Fences expected first s ⟨d', update s.calls j t⟩ := by
  refine ⟨⟨?_, honest, solo, ?_, ?_, late, survivor⟩,
    fun x live => onward.settled x _ live (by simp) (by simp)⟩
  · intro k
    by_cases same : k = j
    · subst same
      show Bound _ _ (update s.calls k t k)
      rw [update_self]
      exact bound
    · show Bound _ _ (update s.calls j t k)
      rw [update_of_ne same]
      exact (inv.bound k).onward onward (own k same) (win k same)
  · intro k l x one two
    by_cases here : k = j <;> by_cases there : l = j
    · exact here.trans there.symm
    · subst here
      simp only [update_self, update_of_ne there] at one two
      exact absurd two (mine x one l there)
    · subst there
      simp only [update_self, update_of_ne here] at one two
      exact absurd one (mine x two k here)
    · simp only [update_of_ne here, update_of_ne there] at one two
      exact inv.distinct k l x one two
  · intro k l one two
    by_cases here : k = j <;> by_cases there : l = j
    · exact here.trans there.symm
    · subst here
      simp only [update_self, update_of_ne there] at one two
      exact absurd two (by simp [wins one l there])
    · subst there
      simp only [update_self, update_of_ne here] at one two
      exact absurd one (by simp [wins two k here])
    · simp only [update_of_ne here, update_of_ne there] at one two
      exact inv.winner k l one two

theorem Fenced.same_marks (inv : Fenced expected first s) (alike : Alike s.shared d')
    (epoch : d'.epoch = s.shared.epoch) (honest : d'.Honest)
    (unsettled : t.unsettled = true →
      (s.calls j).unsettled = true ∨ ∀ id, ¬ s.shared.Standing id)
    (mine : ∀ x, t.mine = some x → (s.calls j).mine = some x)
    (wins : t.wins = true → (s.calls j).wins = true)
    (bound : Bound expected ⟨d', update s.calls j t⟩ t) :
    Fences expected first s ⟨d', update s.calls j t⟩ := by
  have before : ∀ k, (update s.calls j t k).unsettled = true →
      (s.calls k).unsettled = true ∨ ∀ id, ¬ s.shared.Standing id := by
    intro k here
    by_cases same : k = j
    · subst same
      rw [update_self] at here
      exact unsettled here
    · rw [update_of_ne same] at here
      exact .inl here
  have recovery : ∀ winner losers, s.Recovery winner losers →
      Recovery ⟨d', update s.calls j t⟩ winner losers := by
    intro winner losers here
    refine here.transfer (fun k => ?_) (alike.standing.mpr here.standing)
      fun id => alike.standing.mp
    cases moved : (update s.calls j t k).unsettled with
    | false => rfl
    | true =>
      rcases before k moved with old | none
      · exact absurd old (by simp [here.settled k])
      · exact absurd here.standing (none winner)
  refine inv.put ⟨?_, fun x => alike.active.mpr, recovery⟩ honest bound ?_ ?_ ?_ ?_ ?_ ?_ ?_
  · intro x mark here _ _
    cases mark with
    | none => exact alike.steps x here
    | some mark => exact (alike.marks x mark).mpr here
  · intro k _ x here own
    exact (alike.marks x _).mpr ((inv.bound k).mine_unclaimed here own)
  · intro k other x here own
    obtain ⟨later, alone⟩ := (inv.bound k).wins_alone here own
    refine ⟨epoch ▸ later, alone.imp (alike.marks x _).mpr ?_⟩
    rintro ⟨standing, only⟩
    exact ⟨alike.standing.mpr standing, fun id active => only id (alike.active.mp active)⟩
  · exact fun x y one two => inv.solo x y (alike.active.mp one) (alike.active.mp two)
  · exact fun x own k other there => other (inv.distinct k j x there (mine x own))
  · intro won k other
    cases there : (s.calls k).wins with
    | false => rfl
    | true => exact absurd (inv.winner k j there (wins won)) other
  · intro k y here active
    rw [epoch]
    rcases before k here with old | none
    · exact inv.fenced k y old (alike.active.mp active)
    · exact absurd (alike.active.mp active).standing (none y)
  · intro moved
    obtain ⟨w, standing, unowned⟩ := inv.survivor (epoch ▸ moved)
    refine ⟨w, alike.standing.mpr standing, fun k here own => ?_⟩
    by_cases same : k = j
    · subst same
      rw [update_self] at here own
      rcases unsettled here with old | none
      · exact unowned k old (mine w own)
      · exact none w standing
    · rw [update_of_ne same] at here own
      exact unowned k here own

theorem Fenced.goes_on (inv : Fenced expected first s)
    (unsettled : t.unsettled = true →
      (s.calls j).unsettled = true ∨ ∀ id, ¬ s.shared.Standing id)
    (mine : ∀ x, t.mine = some x → (s.calls j).mine = some x)
    (wins : t.wins = true → (s.calls j).wins = true)
    (bound : Bound expected ⟨s.shared, update s.calls j t⟩ t) :
    Fences expected first s ⟨s.shared, update s.calls j t⟩ :=
  inv.same_marks (Alike.refl _) rfl inv.honest unsettled mine wins bound

variable {d : AttachStore} {mark : FenceMarker} {x : String}

theorem standing_setMarker {id : String} (ne : id ≠ x) :
    (d.setMarker x mark).Standing id ↔ d.Standing id := by
  unfold Standing
  rw [marker_setMarker_of_ne ne]

theorem active_setMarker {id : String} (ne : id ≠ x) :
    (d.setMarker x mark).Active id ↔ d.Active id := by
  unfold Active
  rw [marker_setMarker_of_ne ne]

theorem standing_of_failed {id : String} {was : FenceMarker} (here : d.marker x = some (some was))
    (standing : (d.setMarker x .failed).Standing id) :
    id ≠ x ∧ d.Standing id := by
  have ne : id ≠ x := by
    rintro rfl
    obtain ⟨mark, marked, unfailed⟩ := standing
    have failed : (d.setMarker id .failed).marker id = some (some .failed) :=
      marker_setMarker_self here
    exact unfailed (some.inj (some.inj (marked.symm.trans failed)))
  exact ⟨ne, (standing_setMarker ne).mp standing⟩

theorem Fenced.fail (inv : Fenced expected first s) (here : s.shared.marker x = some (some .unclaimed))
    (apart : ∀ k, k ≠ j → (s.calls k).unsettled = true → (s.calls k).mine ≠ some x)
    (spared : ∀ winner losers, s.Recovery winner losers → winner ≠ x) (settled : t.unsettled = false)
    (mine : t.mine = none) (wins : t.wins = false)
    (survivor : s.shared.epoch ≠ first → ∃ w, s.shared.Standing w ∧ w ≠ x ∧
      ∀ k, k ≠ j → (s.calls k).unsettled = true → (s.calls k).mine ≠ some w)
    (bound : Bound expected ⟨s.shared.setMarker x .failed, update s.calls j t⟩ t) :
    Fences expected first s ⟨s.shared.setMarker x .failed, update s.calls j t⟩ := by
  have failed : (s.shared.setMarker x .failed).marker x = some (some .failed) :=
    marker_setMarker_self here
  have idle : ∀ id, (s.shared.setMarker x .failed).Active id ↔ s.shared.Active id := by
    intro id
    by_cases same : id = x
    · subst same
      unfold Active
      rw [failed, here]
      simp
    · exact active_setMarker same
  refine inv.put ⟨?_, fun id => (idle id).mpr, ?_⟩ (inv.honest.setMarker here (by simp)) bound
    ?_ ?_ ?_ ?_ ?_ ?_ ?_
  · intro id mark marked unclaimed _
    have ne : id ≠ x := by
      rintro rfl
      exact unclaimed (some.inj (marked.symm.trans here))
    rw [marker_setMarker_of_ne ne]
    exact marked
  · intro winner losers recovery
    have ne := spared winner losers recovery
    exact recovery.transfer (settled_update recovery.settled settled)
      ((standing_setMarker ne).mpr recovery.standing)
      fun id standing => (standing_of_failed here standing).2
  · intro k other y unsettled own
    have ne : y ≠ x := fun same => apart k other unsettled (same ▸ own)
    rw [marker_setMarker_of_ne ne]
    exact (inv.bound k).mine_unclaimed unsettled own
  · intro k other y won own
    obtain ⟨later, alone⟩ := (inv.bound k).wins_alone won own
    refine ⟨later, ?_⟩
    by_cases same : y = x
    · subst same
      exact .inl failed
    · rw [marker_setMarker_of_ne same, standing_setMarker same]
      exact alone.imp_right fun ⟨standing, only⟩ =>
        ⟨standing, fun id active => only id ((idle id).mp active)⟩
  · exact fun y z one two => inv.solo y z ((idle y).mp one) ((idle z).mp two)
  · exact fun y own => absurd own (by simp [mine])
  · exact fun won => absurd won (by simp [wins])
  · exact fun k y moved active => inv.fenced k y (unsettled_update settled moved).2 ((idle y).mp active)
  · intro moved
    obtain ⟨w, standing, ne, unowned⟩ := survivor moved
    refine ⟨w, (standing_setMarker ne).mpr standing, fun k moved => ?_⟩
    obtain ⟨other, unsettled⟩ := unsettled_update settled moved
    rw [update_of_ne other]
    exact unowned k other unsettled

theorem Fenced.promote (inv : Fenced expected first s) {was : FenceMarker}
    (here : s.shared.marker x = some (some was))
    (step : was = .unclaimed ∧ mark = .activating ∨ was = .activating ∧ mark = .cleared)
    (only : ∀ y, s.shared.Active y → y = x) (apart : ∀ k, k ≠ j → (s.calls k).unsettled = true →
      (s.calls k).mine ≠ some x ∧ s.shared.epoch ≠ expected) (settled : t.unsettled = false)
    (mine : t.mine = none) (wins : t.wins = false)
    (rivals : ∀ k, k ≠ j → ∀ y, (s.calls k).wins = true → (s.calls k).mine = some y →
      y = x ∨ s.shared.marker y = some (some .failed))
    (bound : Bound expected ⟨s.shared.setMarker x mark, update s.calls j t⟩ t) :
    Fences expected first s ⟨s.shared.setMarker x mark, update s.calls j t⟩ := by
  have now : (s.shared.setMarker x mark).marker x = some (some mark) := marker_setMarker_self here
  have active : (s.shared.setMarker x mark).Active x := by
    unfold Active
    rw [now]
    rcases step with ⟨_, rfl⟩ | ⟨_, rfl⟩
    · exact .inl rfl
    · exact .inr rfl
  have same : ∀ id, (s.shared.setMarker x mark).Standing id ↔ s.shared.Standing id := by
    intro id
    by_cases at_x : id = x
    · subst at_x
      refine ⟨fun _ => ⟨was, here, ?_⟩, fun _ => active.standing⟩
      rcases step with ⟨rfl, _⟩ | ⟨rfl, _⟩ <;> simp
    · exact standing_setMarker at_x
  have alone : ∀ id, (s.shared.setMarker x mark).Active id → id = x := by
    intro id there
    by_contra ne
    exact ne (only id ((active_setMarker ne).mp there))
  have honest : (s.shared.setMarker x mark).Honest := by
    refine inv.honest.setMarker here ?_
    rcases step with ⟨rfl, _⟩ | ⟨rfl, _⟩ <;> simp
  refine inv.put ⟨?_, ?_, ?_⟩ honest bound ?_ ?_ ?_ ?_ ?_ ?_ ?_
  · intro id old marked unclaimed unactivated
    have ne : id ≠ x := by
      rintro rfl
      have := some.inj (marked.symm.trans here)
      rcases step with ⟨rfl, _⟩ | ⟨rfl, _⟩
      · exact unclaimed this
      · exact unactivated this
    rw [marker_setMarker_of_ne ne]
    exact marked
  · intro id before
    have at_x := only id before
    subst at_x
    exact active
  · intro winner losers recovery
    exact recovery.transfer (settled_update recovery.settled settled)
      ((same winner).mpr recovery.standing) fun id => (same id).mp
  · intro k other y unsettled own
    have ne : y ≠ x := fun at_x => (apart k other unsettled).1 (at_x ▸ own)
    rw [marker_setMarker_of_ne ne]
    exact (inv.bound k).mine_unclaimed unsettled own
  · intro k other y won own
    refine ⟨((inv.bound k).wins_alone won own).1, ?_⟩
    rcases rivals k other y won own with rfl | failed
    · exact .inr ⟨active.standing, alone⟩
    · refine .inl ?_
      have ne : y ≠ x := by
        rintro rfl
        have := some.inj (some.inj (failed.symm.trans here))
        rcases step with ⟨rfl, _⟩ | ⟨rfl, _⟩ <;> simp at this
      rw [marker_setMarker_of_ne ne]
      exact failed
  · exact fun y z one two => (alone y one).trans (alone z two).symm
  · exact fun y own => absurd own (by simp [mine])
  · exact fun won => absurd won (by simp [wins])
  · intro k y moved _
    obtain ⟨other, unsettled⟩ := unsettled_update settled moved
    exact (apart k other unsettled).2
  · intro moved
    obtain ⟨w, standing, unowned⟩ := inv.survivor moved
    refine ⟨w, (same w).mpr standing, fun k moved => ?_⟩
    obtain ⟨other, unsettled⟩ := unsettled_update settled moved
    rw [update_of_ne other]
    exact unowned k unsettled

end GasCity.Attaching
