import Mathlib.Data.List.Basic

namespace GasCity

open List

/-! Lists cut at a separator. -/

section cut

variable {α : Type} [DecidableEq α] (sep : α)

/-- What comes before the first separator, and the parts after it. -/
def cut : List α → List α × List (List α)
  | [] => ([], [])
  | x :: rest =>
    if x = sep then ([], (cut rest).1 :: (cut rest).2) else (x :: (cut rest).1, (cut rest).2)

def parts (l : List α) : List (List α) := (cut sep l).1 :: (cut sep l).2

variable {sep} {l : List α}

theorem cut_of_notMem (free : sep ∉ l) : cut sep l = (l, []) := by
  induction l with
  | nil => rfl
  | cons x l ih =>
    rw [mem_cons, not_or] at free
    rw [cut, if_neg (Ne.symm free.1), ih free.2]

variable (sep) in
theorem notMem_cut (l : List α) : sep ∉ (cut sep l).1 := by
  induction l with
  | nil => exact not_mem_nil
  | cons x l ih =>
    unfold cut
    split
    · exact not_mem_nil
    next other =>
      rw [mem_cons, not_or]
      exact ⟨Ne.symm other, ih⟩

variable (sep) in
theorem cut_append (l more : List α) :
    cut sep (l ++ more) = ((cut sep (l ++ (cut sep more).1)).1,
      (cut sep (l ++ (cut sep more).1)).2 ++ (cut sep more).2) := by
  induction l with
  | nil =>
    rw [nil_append, nil_append, cut_of_notMem (notMem_cut sep more)]
    rfl
  | cons x l ih =>
    rw [cons_append, cons_append, cut, cut, ih]
    split <;> rfl

variable (sep) in
theorem parts_append (l more : List α) :
    parts sep (l ++ more) = parts sep (l ++ (cut sep more).1) ++ (cut sep more).2 := by
  unfold parts
  rw [cut_append]
  rfl

theorem cut_append_of_mem (l : List α) {tail : List α} (free : sep ∉ tail) :
    parts sep (l ++ sep :: tail) = parts sep l ++ [tail] := by
  rw [parts_append, cut, if_pos rfl, append_nil, cut_of_notMem free]

theorem cut_append_tail (l : List α) {tail : List α} (free : sep ∉ tail) :
    (cut sep (l ++ sep :: tail)).2 = (cut sep l).2 ++ [tail] := by
  rw [cut_append, cut, if_pos rfl, append_nil, cut_of_notMem free]

theorem cut_of_mem {head tail : List α} (free : sep ∉ head) :
    cut sep (head ++ sep :: tail) = (head, parts sep tail) := by
  rw [cut_append, cut, if_pos rfl, append_nil, cut_of_notMem free]
  rfl

theorem cut_eq_nil : (cut sep l).2 = [] ↔ sep ∉ l := by
  constructor
  · intro none mem
    obtain ⟨head, tail, rfl, free⟩ := eq_append_cons_of_mem mem
    rw [cut_of_mem free] at none
    cases none
  · exact fun free => congrArg Prod.snd (cut_of_notMem free)

end cut

end GasCity
