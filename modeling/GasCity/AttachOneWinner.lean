import GasCity.AttachOutcome

namespace GasCity.Attaching

open AttachCall

open AttachStore

variable {expected : Nat}

theorem fenced_start {d : AttachStore} (none : d.candidates = []) :
    Fenced expected d.epoch (start d) := by
  have unmarked : ∀ id mark, d.marker id ≠ some (some mark) := by
    intro id mark here
    obtain ⟨b, found, fence⟩ := Option.map_eq_some_iff.mp here
    have listed : b ∈ d.candidates :=
      List.mem_filter.mpr ⟨KeyedList.mem_of_find found, by simp [fence]⟩
    rw [none] at listed
    exact absurd listed List.not_mem_nil
  refine ⟨fun _ => trivial, ?_, ?_, ?_, ?_, ?_, fun moved => absurd rfl moved⟩
  · intro id b found _
    have found : d.beads.find id = some b := found
    cases fence : b.fence with
    | none => exact .inl rfl
    | some mark =>
      refine absurd ?_ (unmarked id mark)
      unfold marker
      rw [found, ← fence]
      rfl
  · rintro x y (here | here) <;> exact absurd here (unmarked x _)
  · exact fun j k x own => absurd own (by simp [start, mine])
  · exact fun j k won => absurd won (by simp [start, wins])
  · exact fun j y here => absurd here (by simp [start, unsettled])

theorem fenced_run {recipe : List String} {d : AttachStore} (none : d.candidates = [])
    {events : List (Nat × AttachChoice)}
    (regular : Along (next recipe expected) Regular (start d) events) :
    Fenced expected d.epoch (events.foldl (next recipe expected) (start d)) :=
  regular.invariant (fun _ e inv ok => (inv.next e ok).fenced) (fenced_start none)

theorem live_run {recipe : List String} {first : Nat} {s : Attaching} {x : String}
    (inv : Fenced expected first s) {events : List (Nat × AttachChoice)}
    (regular : Along (next recipe expected) Regular s events)
    (live : s.shared.marker x = some (some .cleared)) :
    (events.foldl (next recipe expected) s).shared.marker x = some (some .cleared) := by
  induction events generalizing s with
  | nil => exact live
  | cons e events ih =>
    have step : Fences expected first s (next recipe expected s e) := inv.next e regular.1
    exact ih step.fenced regular.2 (step.live x live)

/-- In a regular run at most one sub-DAG root ever becomes live, every call that returns gives that
root, and once the epoch has moved some root is not failed. -/
theorem attach_has_one_winner (recipe : List String) (expected : Nat) (d : AttachStore)
    (none : d.candidates = []) (before after : List (Nat × AttachChoice))
    (regular : Along (next recipe expected) Regular (start d) (before ++ after)) :
    (∀ x y, (before.foldl (next recipe expected) (start d)).shared.marker x =
          some (some .cleared) →
        ((before ++ after).foldl (next recipe expected) (start d)).shared.marker y =
          some (some .cleared) → x = y) ∧
      (∀ j x, (before.foldl (next recipe expected) (start d)).calls j = .returned x →
        (before.foldl (next recipe expected) (start d)).shared.marker x =
          some (some .cleared)) ∧
      ((before.foldl (next recipe expected) (start d)).shared.epoch ≠ d.epoch →
        ∃ b ∈ (before.foldl (next recipe expected) (start d)).shared.candidates,
          b.isFailed = false) := by
  have inv := fenced_run none regular.append.1
  refine ⟨?_, ?_, ?_⟩
  · intro x y one two
    have kept : ((before ++ after).foldl (next recipe expected) (start d)).shared.marker x =
        some (some .cleared) := by
      rw [List.foldl_append]
      exact live_run inv regular.append.2 one
    exact (fenced_run none regular).solo x y (.inr kept) (.inr two)
  · intro j x here
    have bound := inv.bound j
    rw [here] at bound
    exact bound
  · intro moved
    obtain ⟨w, ⟨mark, marked, unfailed⟩, _⟩ := inv.survivor moved
    obtain ⟨b, mem, _, stands⟩ := listed_of_marker inv.honest (List.Perm.refl _) marked unfailed
    refine ⟨b, mem, ?_⟩
    unfold AttachBead.stands at stands
    simp only [Bool.and_eq_true, Bool.not_eq_true'] at stands
    exact stands.1

def newCandidate (id : String) : AttachBead :=
  { id, ref := "r", fence := some .unclaimed, deferred := true }

/-- A processor crashes after it created its candidate; another one recovers it. -/
def recovered : List (Nat × AttachChoice) :=
  [(0, .call), (0, .list []), (0, .create "a"), (0, .crash), (1, .call),
    (1, .list [newCandidate "a"]), (1, .go), (1, .list [newCandidate "a"]), (1, .go), (1, .go),
    (1, .go), (1, .go), (1, .go), (1, .go), (1, .go), (1, .go), (1, .go)]

theorem recovered_has_one_winner :
    ((recovered.foldl (next ["r"] 1) (start { epoch := 1 })).calls 1 = .returned "a") ∧
      ((recovered.foldl (next ["r"] 1) (start { epoch := 1 })).shared.marker "a" =
        some (some .cleared)) := by
  have regular : Along (next ["r"] 1) Regular (start { epoch := 1 }) recovered := by
    refine ⟨trivial, fun h => absurd h (by decide +kernel), trivial, trivial, trivial, ?_, trivial,
      trivial, trivial, trivial, trivial, trivial, trivial, trivial, trivial, trivial, trivial,
      trivial⟩
    rintro _ (_ | _ | k) other
    · decide +kernel
    · exact absurd rfl other
    · rfl
  have done : (recovered.foldl (next ["r"] 1) (start { epoch := 1 })).calls 1 = .returned "a" := by
    decide +kernel
  exact ⟨done, (attach_has_one_winner ["r"] 1 { epoch := 1 } rfl recovered [] regular).2.1 1 "a" done⟩

/-- The recovery of a crashed candidate overlaps a call that found no candidate and wins the
fence. -/
def overlapping : List (Nat × AttachChoice) :=
  [(0, .call), (0, .list []), (1, .call), (1, .list []), (1, .create "b"), (1, .crash),
    (2, .call), (2, .list [newCandidate "b"]), (0, .create "a"), (0, .go), (0, .go), (2, .go),
    (2, .list [newCandidate "b", newCandidate "a"]), (2, .go), (2, .go), (2, .go), (2, .go),
    (0, .go), (0, .go), (0, .go), (0, .go), (0, .go), (2, .go), (2, .go), (2, .go), (2, .go)]

/-- A recovery neutralizes the candidate that won the fence, while the one it picked is
neutralized by the call that lost it. -/
def crossed : List (Nat × AttachChoice) :=
  [(0, .call), (0, .list []), (1, .call), (1, .list []), (0, .create "a"), (0, .go), (0, .go),
    (1, .create "b"), (1, .go), (1, .go), (1, .go), (2, .call),
    (2, .list [newCandidate "a", newCandidate "b"]), (2, .go), (0, .go), (0, .go), (0, .go),
    (0, .go), (2, .go), (2, .go), (2, .go),
    (2, .list [{ newCandidate "a" with moleculeFailed := true, fence := some .failed },
      { newCandidate "b" with moleculeFailed := true, fence := some .failed }]),
    (2, .go), (2, .go), (1, .go), (1, .go)]

theorem fence_has_two_winners_or_none :
    ((overlapping.foldl (next ["r"] 1) (start { epoch := 1 })).calls 0 = .returned "a" ∧
        (overlapping.foldl (next ["r"] 1) (start { epoch := 1 })).calls 2 = .returned "b" ∧
        (overlapping.foldl (next ["r"] 1) (start { epoch := 1 })).shared.marker "a" =
          some (some .cleared) ∧
        (overlapping.foldl (next ["r"] 1) (start { epoch := 1 })).shared.marker "b" =
          some (some .cleared)) ∧
      (crossed.foldl (next ["r"] 1) (start { epoch := 1 })).shared.epoch = 2 ∧
        (∀ j < 3, (crossed.foldl (next ["r"] 1) (start { epoch := 1 })).calls j = .refused) ∧
        ∀ b ∈ (crossed.foldl (next ["r"] 1) (start { epoch := 1 })).shared.candidates,
          b.isFailed = true := by
  decide +kernel

end GasCity.Attaching
