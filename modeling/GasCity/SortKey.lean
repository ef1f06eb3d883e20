import Mathlib.Data.List.Sort

namespace GasCity

open List

variable {α β : Type} [LinearOrder β]

variable (key : α → β) {r : α → α → Prop} (le : ∀ a b, r a b ↔ key a ≤ key b)

include le

theorem total_of_key : Std.Total r :=
  ⟨fun a b => by rw [le, le]; exact le_total (key a) (key b)⟩

theorem trans_of_key : IsTrans α r :=
  ⟨fun a b c first second => by rw [le] at first second ⊢; exact first.trans second⟩

variable {p : α → Bool} {rows : List α} {a : α}

theorem le_of_find? (sorted : rows.Pairwise r) (found : rows.find? p = some a) {b : α}
    (mem : b ∈ rows) (accepted : p b = true) : key a ≤ key b := by
  obtain ⟨-, before, after, rfl, none⟩ := find?_eq_some_iff_append.mp found
  rcases mem_append.mp mem with early | late
  · exact absurd accepted (by simpa using none b early)
  · rcases mem_cons.mp late with rfl | late
    · exact le_rfl
    · exact (le a b).mp (rel_of_pairwise_cons (pairwise_append.mp sorted).2.1 late)

variable [DecidableRel r]

theorem insertionSort_eq_of_perm {rows' : List α} (perm : rows.Perm rows')
    (apart : ∀ a ∈ rows, ∀ b ∈ rows, key a = key b → a = b) :
    rows.insertionSort r = rows'.insertionSort r := by
  have total := total_of_key key le
  have trans := trans_of_key key le
  have sorted := perm_insertionSort r rows
  have sorted' := perm_insertionSort r rows'
  refine Perm.eq_of_pairwise ?_ (pairwise_insertionSort r rows)
    (pairwise_insertionSort r rows') ((sorted.trans perm).trans sorted'.symm)
  intro a b left right ab ba
  have mem : a ∈ rows := sorted.mem_iff.mp left
  have mem' : b ∈ rows := perm.mem_iff.mpr (sorted'.mem_iff.mp right)
  exact apart a mem b mem' (le_antisymm ((le a b).mp ab) ((le b a).mp ba))

theorem insertionSort_increasing (nodup : (rows.map key).Nodup) :
    (rows.insertionSort r).Pairwise fun a b => key a < key b := by
  have total := total_of_key key le
  have trans := trans_of_key key le
  have perm := (perm_insertionSort r rows).map key
  exact (pairwise_insertionSort r rows).imp₂ (fun a b before other =>
    lt_of_le_of_ne ((le a b).mp before) other) (pairwise_map.mp (perm.nodup_iff.mpr nodup))

/-- A least accepted element comes first in some sorted order of the rows. -/
theorem exists_sorted_find? [DecidableEq α] (mem : a ∈ rows) (accepted : p a = true)
    (least : ∀ b ∈ rows, p b = true → r a b) :
    ∃ sorted : List α, sorted.Perm rows ∧ sorted.Pairwise r ∧ sorted.find? p = some a := by
  have total := total_of_key key le
  have trans := trans_of_key key le
  refine ⟨(a :: rows.erase a).insertionSort r,
    (perm_insertionSort r _).trans (perm_cons_erase mem).symm, pairwise_insertionSort r _, ?_⟩
  have first (rest : List α) (above : ∀ b ∈ rest, p b = true → r a b) :
      (rest.orderedInsert r a).find? p = some a := by
    induction rest with
    | nil => simp [accepted]
    | cons b rest ih =>
      rw [forall_mem_cons] at above
      rw [orderedInsert]
      split
      next => simp [accepted]
      next greater => rw [find?_cons_of_neg (mt above.1 greater), ih above.2]
  exact first _ fun b kept => least b (mem_of_mem_erase ((perm_insertionSort r _).mem_iff.mp kept))

end GasCity
