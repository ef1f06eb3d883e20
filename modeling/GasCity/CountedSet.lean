import Mathlib.Data.List.Perm.Subperm
import Mathlib.Logic.Function.Basic

namespace GasCity

open Function

variable {α : Type} [DecidableEq α]

def tally (xs : List α) : α → Int :=
  xs.foldl (fun counts x => update counts x (counts x + 1)) (fun _ => 0)

def spend (counts : α → Int) : List α → Bool
  | [] => true
  | x :: xs =>
    if counts x - 1 < 0 then false else spend (update counts x (counts x - 1)) xs

def countedEqual (a b : List α) : Bool :=
  if a.length ≠ b.length then false else spend (tally a) b

theorem foldl_tally (xs : List α) (counts : α → Int) (x : α) :
    xs.foldl (fun counts x => update counts x (counts x + 1)) counts x =
      counts x + xs.count x := by
  induction xs generalizing counts with
  | nil => simp
  | cons y ys ih =>
    rw [List.foldl_cons, ih]
    by_cases h : x = y
    · subst h
      simp
      omega
    · simp [update_of_ne h, List.count_cons_of_ne (Ne.symm h)]

theorem tally_eq_count (xs : List α) (x : α) : tally xs x = xs.count x := by
  simp [tally, foldl_tally]

theorem spend_iff (counts : α → Int) (xs : List α) (nonneg : ∀ x, 0 ≤ counts x) :
    spend counts xs = true ↔ ∀ x, (xs.count x : Int) ≤ counts x := by
  induction xs generalizing counts with
  | nil => simpa [spend] using nonneg
  | cons y ys ih =>
    by_cases hy : counts y - 1 < 0
    · simp only [spend, hy, ↓reduceIte, Bool.false_eq_true, false_iff]
      intro h
      have := h y
      simp only [List.count_cons_self] at this
      omega
    · have nonneg' : ∀ x, 0 ≤ update counts y (counts y - 1) x := by
        intro x
        by_cases h : x = y
        · subst h
          rw [update_self]
          omega
        · simpa [update_of_ne h] using nonneg x
      simp only [spend, hy, ↓reduceIte, ih _ nonneg']
      refine forall_congr' fun x => ?_
      by_cases h : x = y
      · subst h
        rw [update_self, List.count_cons_self]
        omega
      · simp [update_of_ne h, List.count_cons_of_ne (Ne.symm h)]

theorem countedEqual_iff_perm {a b : List α} : countedEqual a b = true ↔ a.Perm b := by
  have hspend : spend (tally a) b = true ↔ ∀ x, b.count x ≤ a.count x := by
    rw [spend_iff _ _ (by intro x; simp [tally_eq_count])]
    simp [tally_eq_count]
  unfold countedEqual
  split
  next hlen =>
    simp only [Bool.false_eq_true, false_iff]
    exact fun h => hlen h.length_eq
  next hlen =>
    rw [hspend]
    constructor
    · intro h
      have hsub : b.Subperm a := List.subperm_ext_iff.mpr (fun x _ => h x)
      exact (hsub.perm_of_length_le (by omega)).symm
    · exact fun h x => Nat.le_of_eq (h.count_eq x).symm

end GasCity
