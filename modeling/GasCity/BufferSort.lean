import Mathlib.Data.List.Sort

namespace GasCity

open Function List

/-- A slice that is sorted in place, its scratch copy, and how often the context was asked. -/
structure Buffers (α : Type) where
  items : Nat → α
  scratch : Nat → α
  polls : Nat := 0

namespace Buffers

section loops

variable {α ε : Type} (less : α → α → Bool) (err : Nat → Option ε)

def poll (b : Buffers α) : Except ε (Buffers α) :=
  match err b.polls with
  | none => .ok { b with polls := b.polls + 1 }
  | some e => .error e

def put (b : Buffers α) (k i : Nat) : Buffers α :=
  { b with scratch := update b.scratch k (b.items i) }

/-- The loop that merges, with so many places left from `k` on. -/
def mergeLoop (mid hi : Nat) : Nat → Nat → Nat → Nat → Buffers α → Except ε (Buffers α)
  | 0, _, _, _, b => .ok b
  | left + 1, k, i, j, b => do
    let b ← b.poll err
    if i = mid then mergeLoop mid hi left (k + 1) i (j + 1) (b.put k j)
    else if j = hi then mergeLoop mid hi left (k + 1) (i + 1) j (b.put k i)
    else if less (b.items j) (b.items i) then mergeLoop mid hi left (k + 1) i (j + 1) (b.put k j)
    else mergeLoop mid hi left (k + 1) (i + 1) j (b.put k i)

def copyLoop : Nat → Nat → Buffers α → Except ε (Buffers α)
  | 0, _, b => .ok b
  | left + 1, k, b => do
    let b ← b.poll err
    copyLoop left (k + 1) { b with items := update b.items k (b.scratch k) }

def mergeSort (lo hi : Nat) (b : Buffers α) : Except ε (Buffers α) := do
  let b ← b.poll err
  if hi - lo < 2 then return b
  else
    let mid := lo + (hi - lo) / 2
    let b ← mergeSort lo mid b
    let b ← mergeSort mid hi b
    let b ← mergeLoop less err mid hi (hi - lo) lo lo mid b
    copyLoop err (hi - lo) lo b
termination_by hi - lo

end loops

section sorting

variable {α ε : Type} {less : α → α → Bool} {b : Buffers α} {mid hi left k i j : Nat}

def cells (f : Nat → α) (lo count : Nat) : List α := (range' lo count).map f

theorem length_cells (f : Nat → α) (lo count : Nat) : (cells f lo count).length = count := by
  simp [cells]

theorem pairwise_of_short {l : List α} {r : α → α → Prop} (short : l.length < 2) : l.Pairwise r := by
  match l, short with
  | [], _ => exact Pairwise.nil
  | [a], _ => exact pairwise_singleton r a

theorem cells_succ (f : Nat → α) (lo count : Nat) :
    cells f lo (count + 1) = f lo :: cells f (lo + 1) count := by
  unfold cells
  rw [range'_succ, map_cons]

theorem cells_of_lt {f : Nat → α} {i stop : Nat} (some : i < stop) :
    cells f i (stop - i) = f i :: cells f (i + 1) (stop - (i + 1)) := by
  rw [← cells_succ]
  congr 1
  omega

theorem cells_add (f : Nat → α) (lo count more : Nat) :
    cells f lo (count + more) = cells f lo count ++ cells f (lo + count) more := by
  unfold cells
  rw [← map_append, ← range'_append, Nat.one_mul]

theorem cells_congr {f g : Nat → α} {lo count : Nat}
    (same : ∀ p, lo ≤ p → p < lo + count → f p = g p) : cells f lo count = cells g lo count := by
  refine map_congr_left fun p mem => ?_
  rw [mem_range'_1] at mem
  exact same p mem.1 mem.2

variable (less) in
def inOrder (x y : α) : Bool := !less y x

variable (less) in
/-- The merge of the parts from `i` and `j` on is written from `k` on, and nothing else. -/
structure Merged (mid hi left k i j : Nat) (b b' : Buffers α) : Prop where
  items : b'.items = b.items
  below : ∀ p < k, b'.scratch p = b.scratch p
  written : cells b'.scratch k left =
    (cells b.items i (mid - i)).merge (cells b.items j (hi - j)) (inOrder less)

theorem mergeLoop_ok (count : left = mid - i + (hi - j)) (inLeft : i ≤ mid) (inRight : j ≤ hi) :
    ∃ b', mergeLoop less (fun _ => none : Nat → Option ε) mid hi left k i j b = .ok b' ∧
      Merged less mid hi left k i j b b' := by
  induction left generalizing k i j b with
  | zero =>
    have none : mid - i = 0 ∧ hi - j = 0 := by omega
    exact ⟨b, rfl, rfl, fun _ _ => rfl, by rw [none.1, none.2]; exact (nil_merge []).symm⟩
  | succ left ih =>
    have next {i' j' source : Nat} (rest : left = mid - i' + (hi - j')) (inLeft : i' ≤ mid)
        (inRight : j' ≤ hi) (head : (cells b.items i (mid - i)).merge (cells b.items j (hi - j))
            (inOrder less) = b.items source ::
          (cells b.items i' (mid - i')).merge (cells b.items j' (hi - j')) (inOrder less)) :
        ∃ b', mergeLoop less (fun _ => none : Nat → Option ε) mid hi left (k + 1) i' j'
            (put { b with polls := b.polls + 1 } k source) = .ok b' ∧
          Merged less mid hi (left + 1) k i j b b' := by
      obtain ⟨b', ran, items, below, written⟩ := @ih
        (put { b with polls := b.polls + 1 } k source) (k + 1) i' j' rest inLeft inRight
      refine ⟨b', ran, items, fun p less => ?_, ?_⟩
      · rw [below p (by omega)]
        exact update_of_ne (by omega) _ _
      · rw [cells_succ, written, head, below k (Nat.lt_succ_self k)]
        exact congrArg (· :: _) (update_self _ _ _)
    show ∃ b', (if i = mid then _ else if j = hi then _ else
      if less (b.items j) (b.items i) = true then _ else _) = _ ∧ _
    split
    next done =>
      have empty : cells b.items i (mid - i) = [] := by rw [done, Nat.sub_self]; rfl
      refine next (by omega) inLeft (by omega) ?_
      rw [empty, nil_merge, nil_merge, cells_of_lt (by omega)]
    next =>
      split
      next done =>
        have empty : cells b.items j (hi - j) = [] := by rw [done, Nat.sub_self]; rfl
        refine next (by omega) (by omega) inRight ?_
        rw [empty, merge_right, merge_right, cells_of_lt (by omega)]
      next =>
        split
        next before =>
          refine next (by omega) inLeft (by omega) ?_
          rw [cells_of_lt (by omega : i < mid), cells_of_lt (by omega : j < hi), cons_merge_cons,
            if_neg (by simp [inOrder, before])]
        next after =>
          refine next (by omega) (by omega) inRight ?_
          rw [cells_of_lt (by omega : i < mid), cells_of_lt (by omega : j < hi), cons_merge_cons,
            if_pos (by simp [inOrder, after])]

theorem copyLoop_ok : ∃ b', copyLoop (fun _ => none : Nat → Option ε) left k b = .ok b' ∧
    ∀ p, b'.items p = if k ≤ p ∧ p < k + left then b.scratch p else b.items p := by
  induction left generalizing k b with
  | zero => exact ⟨b, rfl, fun p => (if_neg (by omega)).symm⟩
  | succ left ih =>
    obtain ⟨b', ran, items⟩ := @ih
      { b with polls := b.polls + 1, items := update b.items k (b.scratch k) } (k + 1)
    refine ⟨b', ran, fun p => ?_⟩
    rw [items p]
    by_cases here : p = k
    · subst here
      rw [if_neg (by omega), if_pos (by omega)]
      exact update_self _ _ _
    · have other : update b.items k (b.scratch k) p = b.items p := update_of_ne here _ _
      simp only [other]
      congr 1
      simp only [eq_iff_iff]
      omega

theorem mergeSort_ok (trans : ∀ x y z, inOrder less x y → inOrder less y z → inOrder less x z)
    (total : ∀ x y, (inOrder less x y || inOrder less y x) = true) (lo hi : Nat) (b : Buffers α)
    (within : lo ≤ hi) :
    ∃ b', mergeSort less (fun _ => none : Nat → Option ε) lo hi b = .ok b' ∧
      (∀ p, p < lo ∨ hi ≤ p → b'.items p = b.items p) ∧
      (cells b'.items lo (hi - lo)).Perm (cells b.items lo (hi - lo)) ∧
      (cells b'.items lo (hi - lo)).Pairwise (inOrder less · ·) := by
  induction size : hi - lo using Nat.strongRecOn generalizing lo hi b with
  | ind n ih =>
    subst size
    rw [mergeSort]
    show ∃ b', (if hi - lo < 2 then Except.ok { b with polls := b.polls + 1 } else _) = Except.ok b' ∧ _
    split
    next short =>
      exact ⟨_, rfl, fun _ _ => rfl, Perm.refl _, pairwise_of_short (by rwa [length_cells])⟩
    next long =>
      generalize middle : lo + (hi - lo) / 2 = mid
      have halves : lo < mid ∧ mid < hi ∧ mid = lo + (mid - lo) ∧
          hi - lo = mid - lo + (hi - mid) := by omega
      obtain ⟨before, between, split, sizes⟩ := halves
      obtain ⟨b₁, ran₁, frame₁, perm₁, sorted₁⟩ := ih (mid - lo) (by omega) lo mid
        { b with polls := b.polls + 1 } (by omega) rfl
      obtain ⟨b₂, ran₂, frame₂, perm₂, sorted₂⟩ := ih (hi - mid) (by omega) mid hi b₁ (by omega) rfl
      obtain ⟨b₃, ran₃, items, -, written⟩ := @mergeLoop_ok α ε less b₂ mid hi (hi - lo) lo lo mid
        sizes (by omega) (by omega)
      obtain ⟨b₄, ran₄, copied⟩ := @copyLoop_ok α ε b₃ (hi - lo) lo
      have left : cells b₂.items lo (mid - lo) = cells b₁.items lo (mid - lo) :=
        cells_congr fun p _ less => frame₂ p (.inl (by omega))
      have right : cells b₁.items mid (hi - mid) = cells b.items mid (hi - mid) :=
        cells_congr fun p least _ => frame₁ p (.inr least)
      have sorted : cells b₄.items lo (hi - lo) = (cells b₂.items lo (mid - lo)).merge
          (cells b₂.items mid (hi - mid)) (inOrder less) := by
        rw [← written]
        exact cells_congr fun p least most => (copied p).trans (if_pos ⟨least, most⟩)
      refine ⟨b₄, ?_, fun p outside => ?_, ?_, ?_⟩
      · rw [ran₁]
        show (mergeSort less _ mid hi b₁ >>= _) = _
        rw [ran₂]
        show (mergeLoop less _ mid hi _ lo lo mid b₂ >>= _) = _
        rw [ran₃]
        exact ran₄
      · rw [copied p, if_neg (by omega), items, frame₂ p (by omega), frame₁ p (by omega)]
      · rw [sorted]
        refine (merge_perm_append _).trans ?_
        rw [sizes, cells_add, ← split]
        exact (left ▸ perm₁).append (right ▸ perm₂)
      · rw [sorted]
        exact pairwise_merge trans total _ _ (left ▸ sorted₁) sorted₂

end sorting

end Buffers

end GasCity
