import GasCity.AttachSteps

namespace GasCity.Attaching

open AttachStore

variable {expected first : Nat} {s s' : Attaching} {d' : AttachStore} {j : Nat} {t : AttachCall}

theorem Fenced.mint (inv : Fenced expected first s) {b : AttachBead} {rest : List String}
    (unsettled : (s.calls j).unsettled = true) (candidate : b.fence = some .unclaimed)
    (unfailed : b.moleculeFailed = false) (created : s.shared.create b = some d') :
    Fences expected first s ⟨d', Function.update s.calls j (.creating b.id [b.id] rest)⟩ := by
  obtain ⟨absent, epoch, rows⟩ := create_eq_some created
  have here : d'.marker b.id = some (some .unclaimed) := by
    unfold marker
    rw [rows]
    simp [candidate]
  have others : ∀ {k}, k ≠ b.id → d'.marker k = s.shared.marker k := by
    intro k ne
    unfold marker
    rw [rows, if_neg ne]
  have known : ∀ {k mark}, s.shared.marker k = some mark → d'.marker k = some mark := by
    intro k mark marked
    have ne : k ≠ b.id := by
      rintro rfl
      exact absurd (absent.symm.trans marked) (by simp)
    rw [others ne]
    exact marked
  have active : ∀ id, d'.Active id ↔ s.shared.Active id := by
    intro id
    by_cases same : id = b.id
    · subst same
      unfold Active
      rw [here, absent]
      simp
    · unfold Active
      rw [others same]
  have standing : ∀ id, s.shared.Standing id → d'.Standing id :=
    fun id ⟨mark, marked, unfailed⟩ => ⟨mark, known marked, unfailed⟩
  refine inv.put ⟨fun x mark marked _ _ => known marked, fun x => (active x).mpr, ?_⟩
    (inv.honest.create unfailed created) ⟨here, by simp⟩ ?_ ?_ ?_ ?_ ?_ ?_ ?_
  · intro winner losers recovery
    exact absurd unsettled (by simp [recovery.settled j])
  · exact fun k _ x unsettled own => known ((inv.bound k).mine_unclaimed unsettled own)
  · intro k _ x won own
    obtain ⟨later, alone⟩ := (inv.bound k).wins_alone won own
    exact ⟨epoch ▸ later, alone.imp known fun ⟨stands, only⟩ =>
      ⟨standing x stands, fun id here => only id ((active id).mp here)⟩⟩
  · exact fun x y one two => inv.solo x y ((active x).mp one) ((active y).mp two)
  · intro x own k _ there
    cases own
    exact (inv.bound k).mine_marked there absent
  · exact fun won => absurd won (by simp [AttachCall.wins])
  · intro k y moved here
    rw [epoch]
    by_cases same : k = j
    · exact inv.fenced j y unsettled ((active y).mp here)
    · rw [Function.update_of_ne same] at moved
      exact inv.fenced k y moved ((active y).mp here)
  · intro moved
    obtain ⟨w, stands, unowned⟩ := inv.survivor (epoch ▸ moved)
    refine ⟨w, standing w stands, fun k moved => ?_⟩
    by_cases same : k = j
    · subst same
      rw [Function.update_self]
      intro own
      cases own
      obtain ⟨mark, marked, _⟩ := stands
      exact absurd (absent.symm.trans marked) (by simp)
    · rw [Function.update_of_ne same] at moved ⊢
      exact unowned k moved

theorem Fenced.raise (inv : Fenced expected first s) (before : s.shared.epoch = expected)
    {w : String} (standing : s.shared.Standing w)
    (unowned : ∀ k, k ≠ j → (s.calls k).unsettled = true → (s.calls k).mine ≠ some w)
    (settled : t.unsettled = false) (mine : ∀ x, t.mine = some x → (s.calls j).mine = some x)
    (bound : Bound expected
      ⟨{ s.shared with epoch := expected + 1 }, Function.update s.calls j t⟩ t) :
    Fences expected first s
      ⟨{ s.shared with epoch := expected + 1 }, Function.update s.calls j t⟩ := by
  have first_winner : ∀ k, (s.calls k).wins = false := by
    intro k
    cases call : s.calls k with
    | claiming root ids owner =>
      cases owner with
      | false => rfl
      | true =>
        have later := inv.bound k
        rw [call] at later
        exact absurd before later.1
    | _ => rfl
  refine inv.put ⟨fun x mark marked _ _ => marked, fun x active => active, ?_⟩ inv.honest bound
    ?_ ?_ inv.solo ?_ ?_ ?_ ?_
  · intro winner losers recovery
    exact recovery.transfer (settled_update recovery.settled settled) recovery.standing
      fun id here => here
  · exact fun k _ x unsettled own => (inv.bound k).mine_unclaimed unsettled own
  · exact fun k _ x won => absurd won (by simp [first_winner k])
  · exact fun x own k other there => other (inv.distinct k j x there (mine x own))
  · exact fun _ k _ => first_winner k
  · exact fun _ _ _ _ => Nat.succ_ne_self expected
  · refine fun _ => ⟨w, standing, fun k moved => ?_⟩
    by_cases same : k = j
    · subst same
      rw [Function.update_self, settled] at moved
      cases moved
    · rw [Function.update_of_ne same] at moved ⊢
      exact unowned k same moved

end GasCity.Attaching
