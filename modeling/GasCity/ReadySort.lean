import GasCity.BufferSort
import GasCity.CacheObservation

namespace GasCity

open List Buffers

variable {ε : Type}

/-- No context, one that is never done, and one whose error is asked for time and again. -/
inductive SortContext (ε : Type) where
  | missing
  | background
  | cancellable (err : Nat → Option ε)

def SortContext.NeverCancelled : SortContext ε → Prop
  | .cancellable err => ∀ n, err n = none
  | .missing | .background => True

def sortBeadsReadyOrderContext (ctx : SortContext ε) (items : List Bead) : Except ε (List Bead) :=
  match ctx with
  | .missing | .background => .ok (sortBeadsReadyOrder items)
  | .cancellable err =>
    match err 0 with
    | some e => .error e
    | none =>
      if items.length < 2 then .ok items
      else do
        let b ← mergeSort beadReadyLess err 0 items.length
          ⟨fun i => items.getD i { id := "" }, fun _ => { id := "" }, 1⟩
        return cells b.items 0 items.length

def readyKey (b : Bead) : Lex (Int × Lex (Int × String)) := toLex (readySortPriority b, createdKey b)

theorem beadReadyLess_iff (a b : Bead) : beadReadyLess a b = true ↔ readyKey a < readyKey b := by
  unfold beadReadyLess readyKey
  rw [Prod.Lex.toLex_lt_toLex]
  split
  next apart => simp [apart]
  next same =>
    have same : readySortPriority a = readySortPriority b := not_not.mp same
    simp [same, createdLess_iff]

theorem inOrder_iff (a b : Bead) : inOrder beadReadyLess a b = true ↔ readyKey a ≤ readyKey b := by
  rw [inOrder, Bool.not_eq_true', ← Bool.not_eq_true, beadReadyLess_iff, not_lt]

theorem eq_of_ready_sorted {rows rows' : List Bead} (perm : rows.Perm rows')
    (nodup : (rows.map Bead.id).Nodup) (sorted : rows.Pairwise fun a b => readyKey a ≤ readyKey b)
    (sorted' : rows'.Pairwise fun a b => readyKey a ≤ readyKey b) : rows = rows' := by
  refine Perm.eq_of_pairwise ?_ sorted sorted' perm
  intro a b left right first second
  have same : createdKey a = createdKey b :=
    congrArg (fun k => (ofLex k).2) (le_antisymm first second)
  exact inj_on_of_nodup_map nodup left (perm.mem_iff.mpr right) (congrArg (fun k => (ofLex k).2) same)

theorem cells_getD (items : List Bead) (zero : Bead) :
    cells (fun i => items.getD i zero) 0 items.length = items := by
  refine ext_getElem (by simp [cells]) fun i less less' => ?_
  simp [cells, less']

/-- Both sorts leave the one list that has the beads by priority, creation and id. -/
theorem sortBeadsReadyOrderContext_eq (ctx : SortContext ε) (never : ctx.NeverCancelled)
    (items : List Bead) (nodup : (items.map Bead.id).Nodup) :
    sortBeadsReadyOrderContext ctx items = .ok (sortBeadsReadyOrder items) ∧
      (sortBeadsReadyOrder items).Perm items ∧
      ((sortBeadsReadyOrder items).Pairwise fun a b => readyKey a < readyKey b) ∧
      ∀ sorted : List Bead, sorted.Perm items → (sorted.Pairwise fun a b => readyKey a ≤ readyKey b) →
        sorted = sortBeadsReadyOrder items := by
  have le (a b : Bead) : ¬ beadReadyLess b a = true ↔ readyKey a ≤ readyKey b := by
    rw [beadReadyLess_iff, not_lt]
  have perm : (sortBeadsReadyOrder items).Perm items := perm_insertionSort _ _
  have keys : (items.map readyKey).Nodup := by
    refine Nodup.of_map (fun k => (ofLex (ofLex k).2).2) ?_
    rw [map_map]
    exact nodup
  have increasing := insertionSort_increasing readyKey le keys
  have unique (sorted : List Bead) (same : sorted.Perm items)
      (ordered : sorted.Pairwise fun a b => readyKey a ≤ readyKey b) : sorted = sortBeadsReadyOrder items :=
    eq_of_ready_sorted (same.trans perm.symm) ((same.map _).nodup_iff.mpr nodup) ordered
      (increasing.imp le_of_lt)
  refine ⟨?_, perm, increasing, unique⟩
  cases ctx with
  | missing | background => rfl
  | cancellable err =>
    obtain rfl : err = fun _ => none := funext never
    show (if items.length < 2 then _ else _) = _
    split
    next short =>
      exact congrArg _ (unique items (Perm.refl _) (pairwise_of_short short))
    next =>
      obtain ⟨b, ran, -, same, ordered⟩ := @mergeSort_ok Bead ε beadReadyLess
        (fun a b c first second => (inOrder_iff a c).mpr
          (((inOrder_iff a b).mp first).trans ((inOrder_iff b c).mp second)))
        (fun a b => by
          rw [Bool.or_eq_true, inOrder_iff, inOrder_iff]
          exact le_total _ _) 0 items.length
        ⟨fun i => items.getD i { id := "" }, fun _ => { id := "" }, 1⟩ (Nat.zero_le _)
      rw [ran]
      refine congrArg _ (unique _ ?_ (ordered.imp fun before => (inOrder_iff _ _).mp before))
      rw [Nat.sub_zero, cells_getD] at same
      exact same

theorem sortBeadsReadyOrderContext_eq_pair :
    sortBeadsReadyOrderContext (ε := Unit) (.cancellable fun _ => none) [{ id := "b" }, { id := "a" }] =
      .ok (sortBeadsReadyOrder [{ id := "b" }, { id := "a" }]) :=
  (sortBeadsReadyOrderContext_eq (.cancellable fun _ => none) (fun _ => rfl) _ (by decide)).1

end GasCity
