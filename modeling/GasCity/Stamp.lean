import Mathlib.Logic.Function.Iterate
import Mathlib.Algebra.Group.Int.Defs
import Mathlib.Algebra.Group.Nat.Defs

namespace GasCity

open Function

variable {σ τ ω : Type}

/-- From `s` to `s'` the stamp moves `k` times, and the view stands when it does not move. -/
structure Stamped (next : τ → τ) (stamp : σ → τ) (view : σ → ω) (k : Nat) (s s' : σ) : Prop where
  moved : stamp s' = next^[k] (stamp s)
  still : k = 0 → view s' = view s

/-- The counter does not come back to a value within so many moves. -/
def NoCycle (next : τ → τ) (bound : Nat) : Prop := ∀ k t, 0 < k → k < bound → next^[k] t ≠ t

variable {next : τ → τ} {stamp : σ → τ} {view : σ → ω} {k k' bound : Nat} {s s' s'' : σ}

theorem Stamped.refl (s : σ) : Stamped next stamp view 0 s s := ⟨rfl, fun _ => rfl⟩

theorem Stamped.trans (h : Stamped next stamp view k s s') (h' : Stamped next stamp view k' s' s'') :
    Stamped next stamp view (k + k') s s'' := by
  refine ⟨?_, ?_⟩
  · rw [h'.moved, h.moved, ← iterate_add_apply, Nat.add_comm]
  · intro none
    have first : view s' = view s := h.still (by omega)
    have second : view s'' = view s' := h'.still (by omega)
    exact second.trans first

theorem Stamped.unmoved (h : Stamped next stamp view k s s') (cycle : NoCycle next bound)
    (short : k < bound) (same : stamp s' = stamp s) : k = 0 := by
  by_contra moved
  exact cycle k (stamp s) (by omega) short (h.moved.symm.trans same)

section Int64

theorem toInt_iterate_emod (k : Nat) (t : Int64) :
    ((· + 1)^[k] t).toInt % 2 ^ 64 = (t.toInt + k) % 2 ^ 64 := by
  induction k generalizing t with
  | zero => simp
  | succ k ih =>
    have one : (t + 1).toInt % 2 ^ 64 = (t.toInt + 1) % 2 ^ 64 := by
      rw [Int64.toInt_add]
      exact Int.bmod_emod
    rw [iterate_succ_apply, ih]
    push_cast
    omega

theorem toInt_iterate_of_lt {k : Nat} {t : Int64} (room : t.toInt + k < 2 ^ 63) :
    ((· + 1)^[k] t).toInt = t.toInt + k := by
  have wrapped := toInt_iterate_emod k t
  have low := t.le_toInt
  have low' := ((· + 1)^[k] t).le_toInt
  have high' := ((· + 1)^[k] t).toInt_lt
  omega

theorem noCycle_int64 : NoCycle (fun t : Int64 => t + 1) (2 ^ 64) := by
  intro k t pos short same
  have wrapped := toInt_iterate_emod k t
  rw [same] at wrapped
  omega

end Int64

section UInt64

/-- A counter over the nonzero values: the top value is followed by one. -/
def nextNonzero (t : UInt64) : UInt64 := if t = 18446744073709551615 then 1 else t + 1

theorem toNat_nextNonzero (t : UInt64) :
    (nextNonzero t).toNat = t.toNat % 18446744073709551615 + 1 := by
  have high := t.toNat_lt
  unfold nextNonzero
  split
  next top =>
    subst top
    rfl
  next below =>
    have apart : t.toNat ≠ 18446744073709551615 := by
      intro same
      exact below (UInt64.toNat_inj.mp same)
    rw [UInt64.toNat_add]
    show (t.toNat + 1) % 2 ^ 64 = _
    omega

theorem toNat_iterate_nextNonzero (k : Nat) (t : UInt64) :
    (nextNonzero^[k + 1] t).toNat = (t.toNat + k) % 18446744073709551615 + 1 := by
  induction k with
  | zero => exact toNat_nextNonzero t
  | succ k ih =>
    rw [iterate_succ_apply', toNat_nextNonzero, ih]
    omega

theorem noCycle_nextNonzero : NoCycle nextNonzero 18446744073709551615 := by
  intro k t pos short same
  obtain ⟨k, rfl⟩ : ∃ j, k = j + 1 := ⟨k - 1, by omega⟩
  have count := toNat_iterate_nextNonzero k t
  have high := t.toNat_lt
  rw [same] at count
  omega

end UInt64

end GasCity
