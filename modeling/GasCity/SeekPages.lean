import GasCity.CensusStamp

namespace GasCity
open List

theorem filter_behind {α : Type} {before : α → α → Bool} (asymm : ∀ a b, before a b → ¬ before b a)
    {seen rest : List α} {last : α} (sorted : (seen ++ last :: rest).Pairwise (before · ·)) :
    (seen ++ last :: rest).filter (before last) = rest := by
  obtain ⟨-, tail, across⟩ := pairwise_append.mp sorted
  have gone : seen.filter (before last) = [] :=
    filter_eq_nil_iff.mpr fun b mem => asymm b last (across b mem last mem_cons_self)
  have self : ¬ before last last = true := fun h => asymm last last h h
  rw [filter_append, gone, nil_append, filter_cons_of_neg self]
  exact filter_eq_self.mpr (pairwise_cons.mp tail).1

def seekOf (b : Bead) : SeekBoundary := ⟨b.createdAt, b.id⟩

theorem seekOf_after_asc (a b : Bead) :
    (seekOf a).After b .sortCreatedAsc = true ↔ createdKey a < createdKey b := by
  unfold SeekBoundary.After seekOf createdKey
  rw [Prod.Lex.toLex_lt_toLex, Bool.or_eq_true, decide_eq_true_iff, decide_eq_true_iff,
    @eq_comm _ b.createdAt]

theorem seekOf_after_desc (a b : Bead) :
    (seekOf a).After b .sortCreatedDesc = true ↔ createdKey b < createdKey a := by
  unfold SeekBoundary.After seekOf createdKey
  rw [Prod.Lex.toLex_lt_toLex, Bool.or_eq_true, decide_eq_true_iff, decide_eq_true_iff]

theorem seekOf_after_asymm (order : SortOrder) (a b : Bead) (after : (seekOf a).After b order) :
    ¬ (seekOf b).After a order := by
  cases order with
  | sortDefault => simp [SeekBoundary.After] at after
  | sortCreatedAsc =>
    rw [seekOf_after_asc] at *
    exact after.asymm
  | sortCreatedDesc =>
    rw [seekOf_after_desc] at *
    exact after.asymm

theorem sortBeadsForQuery_after {order : SortOrder} (explicit : order ≠ .sortDefault)
    {rows : List Bead} (nodup : (rows.map Bead.id).Nodup) :
    (sortBeadsForQuery rows order).Pairwise (fun a b => (seekOf a).After b order) := by
  have keys : (rows.map createdKey).Nodup := by
    refine Nodup.of_map (fun k => (ofLex k).2) ?_
    rwa [map_map]
  cases order with
  | sortDefault => exact absurd rfl explicit
  | sortCreatedAsc =>
    refine (insertionSort_increasing createdKey (fun a b => ?_) keys).imp
      fun {a b} lt => (seekOf_after_asc a b).mpr lt
    rw [createdLess_iff, not_lt]
  | sortCreatedDesc =>
    refine (insertionSort_increasing (fun b => OrderDual.toDual (createdKey b)) (fun a b => ?_)
      keys).imp fun {a b} lt => (seekOf_after_desc a b).mpr lt
    rw [createdLess_iff, not_lt]
    exact OrderDual.toDual_le_toDual.symm

theorem sortBeadsForQuery_filter {order : SortOrder} (explicit : order ≠ .sortDefault)
    {rows : List Bead} (nodup : (rows.map Bead.id).Nodup) (keep : Bead → Bool) :
    sortBeadsForQuery (rows.filter keep) order = (sortBeadsForQuery rows order).filter keep := by
  have perm := (perm_sortBeadsForQuery rows order).filter keep
  have kept : ((rows.filter keep).map Bead.id).Nodup := nodup.sublist (filter_sublist.map _)
  have kept' := (perm.map Bead.id).nodup_iff.mpr kept
  refine Perm.eq_of_pairwise (fun a b _ _ h h' => absurd h' (seekOf_after_asymm order a b h))
    (sortBeadsForQuery_after explicit kept) ((sortBeadsForQuery_after explicit nodup).filter keep)
    ((perm_sortBeadsForQuery _ order).trans perm.symm)

/-- A client that asks for the next page until it gets an empty one: the pages it saw, where the
fuel lasts. -/
def seekWalk (items : List Bead) (q : ListQuery) (n : Nat) :
    Nat → Option SeekBoundary → Option (List (List Bead))
  | 0, _ => none
  | fuel + 1, boundary =>
    let page := applyListQuery items { q with limit := n, seekAfter := boundary }
    match page.getLast? with
    | none => some []
    | some last => (seekWalk items q n fuel (some (seekOf last))).map (page :: ·)

section
variable {items : List Bead} {q : ListQuery} {n : Nat}

theorem cutAt_take (positive : 1 ≤ n) (rows : List Bead) : cutAt n rows = rows.take n := by
  unfold cutAt
  split
  next => rfl
  next fits => exact (take_of_length_le (by omega)).symm

theorem matches_seek (boundary : SeekBoundary) :
    items.filter { q with limit := n, seekAfter := some boundary }.Matches =
      (items.filter { q with limit := 0, seekAfter := none }.Matches).filter
        (boundary.After · q.sort) := by
  rw [filter_filter]
  refine filter_congr fun b _ => ?_
  simp only [ListQuery.Matches, ListQuery.matchesTier, Bool.and_true]
  exact Bool.and_comm _ _

theorem applyListQuery_behind (explicit : q.sort ≠ .sortDefault)
    (distinct : (items.map Bead.id).Nodup) {seen rest : List Bead} {last : Bead}
    (whole : seen ++ last :: rest =
      applyListQuery items { q with limit := 0, seekAfter := none }) (limit : Nat) :
    applyListQuery items { q with limit, seekAfter := some (seekOf last) } = cutAt limit rest := by
  have nodup := distinct.sublist
    ((filter_sublist (p := { q with limit := 0, seekAfter := none }.Matches)).map Bead.id)
  have sorted := sortBeadsForQuery_after explicit nodup
  unfold applyListQuery at whole ⊢
  rw [cutAt_of_le (.inl rfl)] at whole
  rw [matches_seek, sortBeadsForQuery_filter explicit nodup, ← whole]
  rw [← whole] at sorted
  exact congrArg _ (filter_behind (seekOf_after_asymm q.sort) sorted)

theorem seekWalk_rest (explicit : q.sort ≠ .sortDefault) (distinct : (items.map Bead.id).Nodup)
    (positive : 1 ≤ n) {rest : List Bead} {fuel : Nat} {boundary : Option SeekBoundary}
    (enough : rest.length < fuel)
    (suffix : rest <:+ applyListQuery items { q with limit := 0, seekAfter := none })
    (behind : ∀ limit, applyListQuery items { q with limit, seekAfter := boundary } =
      cutAt limit rest) :
    ∃ pages, seekWalk items q n fuel boundary = some pages ∧ pages.flatten = rest := by
  induction fuel generalizing rest boundary with
  | zero => omega
  | succ fuel ih =>
    rw [seekWalk, behind, cutAt_take positive]
    cases found : (rest.take n).getLast? with
    | none =>
      refine ⟨[], rfl, ?_⟩
      have := congrArg length (getLast?_eq_none_iff.mp found)
      rw [length_take, length_nil] at this
      exact (eq_nil_of_length_eq_zero (by omega)).symm
    | some last =>
      obtain ⟨seen, page⟩ := getLast?_eq_some_iff.mp found
      obtain ⟨before, whole⟩ := suffix
      have split : rest = seen ++ last :: rest.drop n := by
        rw [← singleton_append, ← append_assoc, ← page, take_append_drop]
      have shorter : (rest.drop n).length < fuel := by
        have := congrArg length split
        simp at this ⊢
        omega
      have onward : (before ++ seen) ++ last :: rest.drop n =
          applyListQuery items { q with limit := 0, seekAfter := none } := by
        rw [append_assoc, ← split, whole]
      obtain ⟨pages, walked, flat⟩ := ih shorter ⟨before ++ seen ++ [last], by simpa using onward⟩
        (applyListQuery_behind explicit distinct onward)
      refine ⟨rest.take n :: pages, ?_, ?_⟩
      · simp only [walked, Option.map_some]
      · rw [flatten_cons, flat, take_append_drop]

/-- Walking the pages of a sorted query gives the rows of the query: all of them, each once, in
its order. -/
theorem seekWalk_exact (items : List Bead) (distinct : (items.map Bead.id).Nodup) (q : ListQuery)
    (_valid : q.Validate = none) (explicit : q.sort = .sortCreatedAsc ∨ q.sort = .sortCreatedDesc)
    (n : Nat) (positive : 1 ≤ n) :
    ∃ pages, seekWalk items q n (items.length + 1) none = some pages ∧
      pages.flatten = applyListQuery items { q with limit := 0, seekAfter := none } ∧
      (pages.flatten.map Bead.id).Nodup ∧
      ∀ b, b ∈ pages.flatten ↔ b ∈ items ∧ { q with seekAfter := none }.Matches b := by
  have chosen : q.sort ≠ .sortDefault := by
    rintro default
    simp [default] at explicit
  have whole : applyListQuery items { q with limit := 0, seekAfter := none } =
      sortBeadsForQuery (items.filter { q with seekAfter := none }.Matches) q.sort :=
    cutAt_of_le (.inl rfl)
  have perm := perm_sortBeadsForQuery (items.filter { q with seekAfter := none }.Matches) q.sort
  have few : (applyListQuery items { q with limit := 0, seekAfter := none }).length <
      items.length + 1 := by
    rw [whole, perm.length_eq]
    exact Nat.lt_succ_of_le (length_filter_le _ _)
  have first : ∀ limit, applyListQuery items { q with limit, seekAfter := none } =
      cutAt limit (applyListQuery items { q with limit := 0, seekAfter := none }) := by
    intro limit
    rw [whole]
    rfl
  obtain ⟨pages, walked, flat⟩ :=
    seekWalk_rest chosen distinct positive few (suffix_refl _) first
  refine ⟨pages, walked, flat, ?_, fun b => ?_⟩
  · rw [flat, whole, (perm.map Bead.id).nodup_iff]
    exact distinct.sublist (filter_sublist.map _)
  · rw [flat, whole, perm.mem_iff, mem_filter]

theorem seekWalk_exact_shared_time :
    let items : List Bead := [{ id := "b" }, { id := "a" }, { id := "c" }]
    ∃ pages, seekWalk items { sort := .sortCreatedDesc } 2 4 none = some pages ∧
      pages.flatten = applyListQuery items { sort := .sortCreatedDesc } := by
  obtain ⟨pages, walked, flat, -⟩ := seekWalk_exact [{ id := "b" }, { id := "a" }, { id := "c" }]
    (by decide) { sort := .sortCreatedDesc } rfl (.inr rfl) 2 (by decide)
  exact ⟨pages, walked, flat⟩

end

end GasCity
