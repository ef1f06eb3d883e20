import Mathlib.Data.Fintype.Card
import Mathlib.Data.List.Lex
import Mathlib.Data.Set.Finite.List

namespace GasCity

open List Relation

variable {α : Type} {needs : α → α → Prop} {nodes : List α} {rank : α → Nat} {before rest other : List α}

structure Free (needs : α → α → Prop) (nodes before : List α) (x : α) : Prop where
  mem : x ∈ nodes
  new : x ∉ before
  met : ∀ y, needs x y → y ∈ before

def Ordered (needs : α → α → Prop) (nodes : List α) : List α → List α → Prop
  | _, [] => True
  | before, x :: rest => Free needs nodes before x ∧ Ordered needs nodes (before ++ [x]) rest

/-- The continuation that always takes the free element of least rank, until none is free. -/
def Least (needs : α → α → Prop) (nodes : List α) (rank : α → Nat) : List α → List α → Prop
  | before, [] => ∀ x, ¬ Free needs nodes before x
  | before, x :: rest => Free needs nodes before x ∧ (∀ y, Free needs nodes before y → rank x ≤ rank y) ∧
      Least needs nodes rank (before ++ [x]) rest

theorem Least.ordered (least : Least needs nodes rank before rest) : Ordered needs nodes before rest := by
  induction rest generalizing before with
  | nil => trivial
  | cons x rest ih => exact ⟨least.1, ih least.2.2⟩

theorem Least.stuck (least : Least needs nodes rank before rest) (x : α) :
    ¬ Free needs nodes (before ++ rest) x := by
  induction rest generalizing before with
  | nil => exact before.append_nil.symm ▸ least x
  | cons y rest ih =>
    have none := ih least.2.2
    rwa [append_assoc] at none

theorem Ordered.nodup (ordered : Ordered needs nodes before rest) (apart : before.Nodup) :
    (before ++ rest).Nodup := by
  induction rest generalizing before with
  | nil => rwa [append_nil]
  | cons x rest ih =>
    have tail := ih ordered.2 (nodup_append.mpr ⟨apart, nodup_singleton x, fun y mem z is => by
      rintro rfl
      exact ordered.1.new (mem_singleton.mp is ▸ mem)⟩)
    rwa [append_assoc] at tail

theorem Ordered.mem (ordered : Ordered needs nodes before rest) {x : α} (there : x ∈ rest) : x ∈ nodes := by
  induction rest generalizing before with
  | nil => cases there
  | cons y rest ih =>
    rcases mem_cons.mp there with rfl | there
    · exact ordered.1.mem
    · exact ih ordered.2 there

theorem Least.le (least : Least needs nodes rank before rest) (ordered : Ordered needs nodes before other)
    (apart : ∀ x ∈ nodes, ∀ y ∈ nodes, rank x = rank y → x = y)
    (all : ∀ x ∈ nodes, x ∈ before ++ other) : ¬ other.map rank < rest.map rank := by
  induction rest generalizing before other with
  | nil => exact not_lt_nil _
  | cons x rest ih =>
    obtain ⟨free, first, least⟩ := least
    cases other with
    | nil => exact (free.new (by simpa using all x free.mem)).elim
    | cons y other =>
      obtain ⟨free', ordered⟩ := ordered
      rcases (first y free').lt_or_eq with lt | is
      · intro lower
        rcases cons_lt_cons_iff.mp lower with lower | ⟨is, -⟩ <;> omega
      · cases apart x free.mem y free'.mem is
        intro lower
        rcases cons_lt_cons_iff.mp lower with lower | ⟨-, lower⟩
        · omega
        · exact ih least ordered (by simpa using all) lower

section Positions

variable [DecidableEq α]

theorem Ordered.precedes (ordered : Ordered needs nodes before rest) {x y : α} (there : x ∈ rest)
    (need : needs x y) : (before ++ rest).idxOf y < (before ++ rest).idxOf x := by
  induction rest generalizing before with
  | nil => cases there
  | cons z rest ih =>
    by_cases is : x = z
    · subst is
      have met := ordered.1.met y need
      rw [idxOf_append_of_mem met, idxOf_append_of_notMem ordered.1.new]
      exact Nat.lt_of_lt_of_le (idxOf_lt_length_of_mem met) (Nat.le_add_right _ _)
    · have tail := ih ordered.2 ((mem_cons.mp there).resolve_left is)
      rwa [append_assoc] at tail

theorem ordered_of_precedes (sub : ∀ x ∈ rest, x ∈ nodes) (apart : (before ++ rest).Nodup)
    (precede : ∀ x y, x ∈ rest → needs x y → (before ++ rest).idxOf y < (before ++ rest).idxOf x) :
    Ordered needs nodes before rest := by
  induction rest generalizing before with
  | nil => trivial
  | cons x rest ih =>
    have new : x ∉ before := fun mem => (nodup_append.mp apart).2.2 x mem x mem_cons_self rfl
    refine ⟨⟨sub x mem_cons_self, new, fun y need => ?_⟩, ih (fun z mem =>
      sub z (mem_cons_of_mem x mem)) (by rwa [append_assoc]) fun z y mem need => ?_⟩
    · have earlier := precede x y mem_cons_self need
      by_contra missing
      rw [idxOf_append_of_notMem new, idxOf_append_of_notMem missing, idxOf_cons_self] at earlier
      omega
    · rw [append_assoc]
      exact precede z y (mem_cons_of_mem x mem) need

theorem Ordered.acyclic (ordered : Ordered needs nodes [] rest) (all : ∀ x ∈ nodes, x ∈ rest)
    (inside : ∀ x y, needs x y → x ∈ nodes) (x : α) : ¬ TransGen needs x x := by
  have earlier {x y : α} (path : TransGen needs x y) : rest.idxOf y < rest.idxOf x := by
    induction path with
    | single need => exact ordered.precedes (all _ (inside _ _ need)) need
    | tail _ need ih => exact (ordered.precedes (all _ (inside _ _ need)) need).trans ih
  exact fun cycle => (earlier cycle).false

end Positions

theorem wellFounded_of_acyclic (acyclic : ∀ x, ¬ TransGen needs x x) (nodes : List α) :
    WellFounded fun a b : { a // a ∈ nodes } => TransGen needs b.1 a.1 := by
  have irrefl : Std.Irrefl fun a b : { a // a ∈ nodes } => TransGen needs b.1 a.1 :=
    ⟨fun a => acyclic a.1⟩
  have finite : Finite { a // a ∈ nodes } := nodes.finite_toSet.to_subtype
  exact Finite.wellFounded_of_trans_of_irrefl _

theorem Least.cyclic (least : Least needs nodes rank [] rest) (inside : ∀ x y, needs x y → y ∈ nodes) {x : α}
    (mem : x ∈ nodes) (left : x ∉ rest) : ∃ a, TransGen needs a a := by
  by_contra acyclic
  have founded := wellFounded_of_acyclic (not_exists.mp acyclic) nodes
  have none (a : { a // a ∈ nodes }) : a.1 ∈ rest := by
    induction a using founded.induction with
    | _ a ih =>
    by_contra missing
    refine least.stuck a.1 ⟨a.2, missing, fun y need => ?_⟩
    exact ih ⟨y, inside a.1 y need⟩ (.single need)
  exact left (none ⟨x, mem⟩)

end GasCity
