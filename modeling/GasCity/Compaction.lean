import Mathlib.Data.List.Perm.Basic

namespace GasCity

open List

/-- What a loop over a list does with the item it visits. -/
inductive Fate (ι α : Type) where
  | keep
  | move (dest : ι) (item : α)
  | drop

structure Spread (ι α : Type) where
  kept : List α := []
  moved : List (ι × α) := []
  dropped : List α := []

variable {ι α σ : Type}

namespace Spread

variable (r : Spread ι α)

def put (x : α) : Fate ι α → Spread ι α
  | .keep => { r with kept := r.kept ++ [x] }
  | .move dest y => { r with moved := r.moved ++ [(dest, y)] }
  | .drop => { r with dropped := r.dropped ++ [x] }

def stop (rest : List α) : Spread ι α :=
  { r with kept := r.kept ++ rest }

def part [DecidableEq ι] (r : Spread ι α) (dest : ι) : List α :=
  (r.moved.filter fun p => p.1 = dest).map Prod.snd

@[simp] theorem kept_stop (xs : List α) : (r.stop xs).kept = r.kept ++ xs := rfl

@[simp] theorem part_stop [DecidableEq ι] (r : Spread ι α) (xs : List α) (i : ι) :
    (r.stop xs).part i = r.part i := rfl

theorem part_put_move [DecidableEq ι] (r : Spread ι α) (x y : α) (dest i : ι) :
    (r.put x (.move dest y)).part i = r.part i ++ if dest = i then [y] else [] := by
  unfold part put
  by_cases here : dest = i <;> simp [here]

theorem mem_part [DecidableEq ι] {r : Spread ι α} {dest : ι} {y : α} :
    y ∈ r.part dest ↔ (dest, y) ∈ r.moved := by
  simp [part]

end Spread

/-- The in-place loop of a compaction: before each item it may find itself late and stop, keeping
the rest; a visit may fail, which ends the loop with the state it has reached. -/
def scan (visit : σ → α → Except σ (σ × Fate ι α)) (late : Nat → Bool) :
    Nat → σ → Spread ι α → List α → Except σ (σ × Spread ι α)
  | _, s, r, [] => .ok (s, r)
  | i, s, r, x :: xs =>
    if late i then .ok (s, r.stop (x :: xs))
    else
      match visit s x with
      | .error s => .error s
      | .ok (s, fate) => scan visit late (i + 1) s (r.put x fate) xs

section Rules

variable {visit : σ → α → Except σ (σ × Fate ι α)} {late : Nat → Bool} {i : Nat} {s s' : σ}
  {r r' : Spread ι α} {xs : List α}

/-- What each visit keeps of the lists so far and the items to come, the loop keeps. Nothing is said of
items that are not visited if the loop is never late. -/
theorem scan_rule (inv : Spread ι α → List α → σ → Prop)
    (stop : ∀ i r xs s, late i = true → inv r xs s → inv (r.stop xs) [] s)
    (step : ∀ r x xs s s' fate, inv r (x :: xs) s → visit s x = .ok (s', fate) →
      inv (r.put x fate) xs s')
    (start : inv r xs s) (ran : scan visit late i s r xs = .ok (s', r')) : inv r' [] s' := by
  induction xs generalizing i s r with
  | nil =>
    cases ran
    exact start
  | cons x xs ih =>
    rw [scan] at ran
    split at ran
    next isLate =>
      cases ran
      exact stop i r (x :: xs) _ isLate start
    next =>
      split at ran
      next => cases ran
      next s₁ fate visited => exact ih (step r x xs s s₁ fate start visited) ran

theorem scan_total (inv : Spread ι α → List α → σ → Prop)
    (stop : ∀ r xs s, inv r xs s → inv (r.stop xs) [] s)
    (step : ∀ r x xs s, inv r (x :: xs) s →
      ∃ s' fate, visit s x = .ok (s', fate) ∧ inv (r.put x fate) xs s')
    (start : inv r xs s) : ∃ s' r', scan visit late i s r xs = .ok (s', r') ∧ inv r' [] s' := by
  induction xs generalizing i s r with
  | nil => exact ⟨s, r, rfl, start⟩
  | cons x xs ih =>
    rw [scan]
    split
    next => exact ⟨s, r.stop (x :: xs), rfl, stop r (x :: xs) s start⟩
    next =>
      obtain ⟨s₁, fate, visited, kept⟩ := step r x xs s start
      rw [visited]
      exact ih kept

theorem scan_pure (fate : α → Fate ι α) (late : Nat → Bool) (i : Nat) (s : σ) (r : Spread ι α)
    (xs : List α) : ∃ r', scan (fun s x => .ok (s, fate x)) late i s r xs = .ok (s, r') := by
  induction xs generalizing i r with
  | nil => exact ⟨r, rfl⟩
  | cons x xs ih =>
    rw [scan]
    split
    next => exact ⟨_, rfl⟩
    next => exact ih (i + 1) (r.put x (fate x))

end Rules

section Content

variable {β : Type} (content : α → β) (fits : α → Fate ι α → Prop)

/-- Everything a loop has met is in one of its lists, with its content, and each list has what
may be there. -/
structure Accounts (items : List α) (r : Spread ι α) (rest : List α) : Prop where
  perm : ((r.kept ++ r.moved.map Prod.snd ++ r.dropped ++ rest).map content).Perm
    (items.map content)
  kept : ∀ x ∈ r.kept, x ∈ items
  moved : ∀ p ∈ r.moved, ∃ x ∈ items, fits x (.move p.1 p.2)
  dropped : ∀ x ∈ r.dropped, x ∈ items ∧ fits x .drop
  rest : ∀ x ∈ rest, x ∈ items

variable {content fits} {items : List α} {r : Spread ι α} {rest : List α}

theorem Accounts.stop (accounts : Accounts content fits items r rest) :
    Accounts content fits items (r.stop rest) [] := by
  refine ⟨?_, ?_, accounts.moved, accounts.dropped, nofun⟩
  · refine List.Perm.trans (List.Perm.map content ?_) accounts.perm
    simp only [Spread.stop, append_nil, append_assoc]
    refine List.Perm.append_left r.kept ?_
    refine perm_append_comm.trans ?_
    simp only [append_assoc]
    exact List.Perm.refl _
  · intro x mem
    rcases mem_append.mp mem with mem | mem
    · exact accounts.kept x mem
    · exact accounts.rest x mem

theorem Accounts.put {x : α} {fate : Fate ι α} (accounts : Accounts content fits items r (x :: rest))
    (fit : fits x fate) (same : ∀ dest y, fate = .move dest y → content y = content x) :
    Accounts content fits items (r.put x fate) rest := by
  have met : x ∈ items := accounts.rest x mem_cons_self
  have later : ∀ y ∈ rest, y ∈ items := fun y mem => accounts.rest y (mem_cons_of_mem x mem)
  have perm := accounts.perm
  cases fate with
  | keep =>
    refine ⟨?_, ?_, accounts.moved, accounts.dropped, later⟩
    · refine List.Perm.trans ?_ perm
      simp only [Spread.put, map_append, append_assoc, map_cons,
        singleton_append]
      refine List.Perm.append_left _ ?_
      rw [← append_assoc, ← append_assoc]
      exact perm_middle.symm
    · intro y mem
      rcases mem_append.mp mem with mem | mem
      · exact accounts.kept y mem
      · exact mem_singleton.mp mem ▸ met
  | move dest y =>
    refine ⟨?_, accounts.kept, ?_, accounts.dropped, later⟩
    · refine List.Perm.trans ?_ perm
      simp only [Spread.put, map_append, append_assoc, map_cons, map_nil,
        singleton_append, same dest y rfl]
      refine List.Perm.append_left _ (List.Perm.append_left _ ?_)
      exact perm_middle.symm
    · intro p mem
      rcases mem_append.mp mem with mem | mem
      · exact accounts.moved p mem
      · exact ⟨x, met, mem_singleton.mp mem ▸ fit⟩
  | drop =>
    refine ⟨?_, accounts.kept, accounts.moved, ?_, later⟩
    · refine List.Perm.trans ?_ perm
      simp only [Spread.put, map_append, append_assoc, map_cons,
        singleton_append]
      exact List.Perm.refl _
    · intro y mem
      rcases mem_append.mp mem with mem | mem
      · exact accounts.dropped y mem
      · exact mem_singleton.mp mem ▸ ⟨met, fit⟩

theorem scan_accounts {visit : σ → α → Except σ (σ × Fate ι α)} {late : Nat → Bool} {i : Nat}
    {s s' : σ} {r' : Spread ι α}
    (visits : ∀ s x s' fate, visit s x = .ok (s', fate) →
      fits x fate ∧ ∀ dest y, fate = .move dest y → content y = content x)
    (ran : scan visit late i s {} items = .ok (s', r')) : Accounts content fits items r' [] := by
  refine scan_rule (fun r rest _ => Accounts content fits items r rest)
    (fun _ _ _ _ _ accounts => accounts.stop) ?_ ?_ ran
  · intro r x xs s s' fate accounts visited
    obtain ⟨fit, same⟩ := visits s x s' fate visited
    exact accounts.put fit same
  · exact ⟨by simp, nofun, nofun, nofun, fun x mem => mem⟩

end Content

end GasCity
