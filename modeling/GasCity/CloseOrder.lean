import GasCity.Bead
import GasCity.LeastOrder
import Mathlib.Data.List.Perm.Basic

namespace GasCity.CloseOrder
open List

def priority : List String → String → Nat
  | [], _ => 0
  | _ :: ids, id => if id ∈ ids then priority ids id + 1 else 0

variable (ids : List String)

def blockersOf (id : String) (deps : List Dep) : List String :=
  (deps.filter (fun d => d.issueID == id && d.type == "blocks" && ids.contains d.dependsOnID &&
    d.dependsOnID != id)).map Dep.dependsOnID

def blockers {ε : Type} (depList : String → Except ε (List Dep)) (ids : List String) (id : String) :
    List String :=
  blockersOf ids id ((depList id).toOption.getD [])

def consider (blockedBy : String → List String) (out : List String)
    (pick : String × Int) (id : String) : String × Int :=
  if out.contains id || !(blockedBy id).all out.contains then pick
  else if pick.1 = "" ∨ (priority ids id : Int) < pick.2 then (id, priority ids id)
  else pick

def nextPick (blockedBy : String → List String) (out : List String) : String :=
  (ids.foldl (consider ids blockedBy out) ("", -1)).1

def orderLoop (ids : List String) (blockedBy : String → List String) (out : List String) :
    List String :=
  if out.length < ids.length then
    if nextPick ids blockedBy out = "" then
      -- a cycle: what is left goes out in input order
      ids.foldl (fun out id => if out.contains id then out else out ++ [id]) out
    else orderLoop ids blockedBy (out ++ [nextPick ids blockedBy out])
  else out
termination_by ids.length - out.length
decreasing_by
  rw [length_append]
  simp
  omega

/-- The order of a batch to close. The id of an error is the one whose listing failed. -/
def Order {ε : Type} (store : Option (String → Except ε (List Dep))) (ids : List String) :
    Except (String × ε) (List String) :=
  match store with
  | none => .ok ids
  | some depList =>
    if ids.length ≤ 1 then .ok ids
    else
      let failed id := match depList id with
        | .error err => some (id, err)
        | .ok _ => none
      match ids.findSome? failed with
      | some err => .error err
      | none => .ok (orderLoop ids (blockers depList ids) [])

def Blocks (deps : String → List Dep) (ids : List String) (id blocker : String) : Prop :=
  id ∈ ids ∧ blocker ∈ ids ∧
    ∃ d ∈ deps id, d.issueID = id ∧ d.type = "blocks" ∧ d.dependsOnID = blocker

structure BlockersFirst (deps : String → List Dep) (ids out : List String) : Prop where
  perm : out.Perm ids
  first : ∀ id blocker, Blocks deps ids id blocker → out.idxOf blocker < out.idxOf id

section
variable {ids : List String} {blockedBy : String → List String} {out : List String}

theorem priority_eq_idxOf (nodup : ids.Nodup) {id : String} (mem : id ∈ ids) :
    priority ids id = ids.idxOf id := by
  induction ids with
  | nil => cases mem
  | cons a ids ih =>
    obtain ⟨fresh, rest⟩ := nodup_cons.mp nodup
    rw [priority]
    rcases mem_cons.mp mem with rfl | later
    · rw [if_neg fresh, idxOf_cons_self]
    · rw [if_pos later, ih rest later, idxOf_cons_ne _ (ne_of_mem_of_not_mem later fresh).symm]

abbrev Ready (ids : List String) (blockedBy : String → List String) (out : List String) :=
  Free (fun x y => y ∈ blockedBy x) ids out

def Picked (ids : List String) (blockedBy : String → List String) (out seen : List String)
    (pick : String × Int) : Prop :=
  pick.1 = "" ∧ (∀ y ∈ seen, ¬ Ready ids blockedBy out y) ∨
    Ready ids blockedBy out pick.1 ∧ pick.2 = priority ids pick.1 ∧
      ∀ y ∈ seen, Ready ids blockedBy out y → priority ids pick.1 ≤ priority ids y

variable (named : ∀ id ∈ ids, id ≠ "")
include named

theorem picked_consider {seen : List String} {pick : String × Int} {id : String} (mem : id ∈ ids)
    (picked : Picked ids blockedBy out seen pick) :
    Picked ids blockedBy out (seen ++ [id]) (consider ids blockedBy out pick id) := by
  have free_iff : Ready ids blockedBy out id ↔
      ¬ (out.contains id || !(blockedBy id).all out.contains) = true := by
    constructor
    · intro free
      simpa using ⟨free.new, free.met⟩
    · intro idle
      have idle : id ∉ out ∧ ∀ x ∈ blockedBy id, x ∈ out := by simpa using idle
      exact ⟨mem, idle.1, idle.2⟩
  have both {p : String → Prop} (before : ∀ y ∈ seen, p y) (here : p id) : ∀ y ∈ seen ++ [id], p y :=
    fun y mem => (mem_append.mp mem).elim (before y) (fun is => mem_singleton.mp is ▸ here)
  unfold consider
  split
  next busy =>
    have bound := mt free_iff.mp (not_not.mpr busy)
    exact picked.imp (And.imp_right (both · bound))
      (And.imp_right (And.imp_right (both · fun free => absurd free bound)))
  next idle =>
    have free := free_iff.mpr idle
    split
    next first =>
      refine .inr ⟨free, rfl, both (fun y mem other => ?_) fun _ => le_rfl⟩
      rcases picked with ⟨-, none⟩ | ⟨free, rank, least⟩
      · exact absurd other (none y mem)
      · have := least y mem other
        rcases first with empty | lower
        · exact absurd empty (named _ free.mem)
        · dsimp only
          omega
    next later =>
      obtain ⟨taken, lower⟩ := not_or.mp later
      rcases picked with ⟨empty, -⟩ | ⟨free, rank, least⟩
      · exact absurd empty taken
      · exact .inr ⟨free, rank, both least fun _ => by omega⟩

theorem nextPick_picked : (nextPick ids blockedBy out = "" ∧
      ∀ y, ¬ Ready ids blockedBy out y) ∨
    Ready ids blockedBy out (nextPick ids blockedBy out) ∧
      ∀ y, Ready ids blockedBy out y →
        priority ids (nextPick ids blockedBy out) ≤ priority ids y := by
  have scanned {seen : List String} (sub : seen ⊆ ids) :
      Picked ids blockedBy out seen (seen.foldl (consider ids blockedBy out) ("", -1)) := by
    induction seen using List.reverseRecOn with
    | nil => exact .inl ⟨rfl, fun y mem => by cases mem⟩
    | append_singleton seen id ih =>
      rw [foldl_append]
      exact picked_consider named (sub (by simp)) (ih fun y mem => sub (mem_append_left _ mem))
  rcases scanned (Subset.refl ids) with ⟨empty, none⟩ | ⟨free, -, least⟩
  · exact .inl ⟨empty, fun y free => none y free.mem free⟩
  · exact .inr ⟨free, fun y other => least y other.mem other⟩

omit named in
theorem append_left (rows : List String) (nodup : rows.Nodup) :
    rows.foldl (fun out id => if out.contains id then out else out ++ [id]) out =
      out ++ rows.filter (fun id => !out.contains id) := by
  induction rows generalizing out with
  | nil => simp
  | cons id rows ih =>
    obtain ⟨fresh, rest⟩ := nodup_cons.mp nodup
    rw [foldl_cons, ih rest]
    by_cases there : id ∈ out
    · simp [there]
    · have same : rows.filter (fun x => !(out ++ [id]).contains x) =
          rows.filter (fun x => !out.contains x) := by
        refine filter_congr fun x mem => ?_
        simp [ne_of_mem_of_not_mem mem fresh]
      rw [if_neg (by simpa using there), same, filter_cons_of_pos (by simpa using there),
        append_assoc, singleton_append]

theorem orderLoop_least (nodup : ids.Nodup) (once : out.Nodup) (sub : out ⊆ ids) :
    ∃ rest, Least (fun x y => y ∈ blockedBy x) ids (priority ids) out rest ∧
      orderLoop ids blockedBy out =
        (out ++ rest) ++ ids.filter (fun id => !(out ++ rest).contains id) := by
  induction left : ids.length - out.length generalizing out with
  | zero =>
    have perm := (subperm_of_subset once sub).perm_of_length_le (by omega)
    have none : ids.filter (fun id => !out.contains id) = [] :=
      filter_eq_nil_iff.mpr fun x mem => by simpa using perm.mem_iff.mpr mem
    refine ⟨[], fun x free => free.new (perm.mem_iff.mpr free.mem), ?_⟩
    rw [orderLoop, if_neg (by omega), append_nil, none, append_nil]
  | succ n ih =>
    rw [orderLoop, if_pos (by omega)]
    rcases @nextPick_picked ids blockedBy out named with ⟨empty, stuck⟩ | ⟨free, least⟩
    · refine ⟨[], stuck, ?_⟩
      rw [if_pos empty, append_left ids nodup, append_nil]
    · obtain ⟨rest, onward, result⟩ := @ih (out ++ [nextPick ids blockedBy out])
        (nodup_append.mpr ⟨once, nodup_singleton _, fun x mem y is same =>
          free.new (mem_singleton.mp is ▸ same ▸ mem)⟩) (append_subset.mpr ⟨sub, by simpa using free.mem⟩)
        (by simp; omega)
      refine ⟨nextPick ids blockedBy out :: rest, ⟨free, least, onward⟩, ?_⟩
      rw [if_neg (named _ free.mem), result, append_assoc out, singleton_append]

end

theorem mem_blockersOf {ids : List String} {deps : String → List Dep} {x y : String} (mem : x ∈ ids) :
    y ∈ blockersOf ids x (deps x) ↔ Blocks deps ids x y ∧ y ≠ x := by
  simp only [blockersOf, mem_map, mem_filter, Bool.and_eq_true, beq_iff_eq, contains_iff_mem,
    bne_iff_ne]
  constructor
  · rintro ⟨d, ⟨there, ⟨⟨issue, type⟩, inside⟩, other⟩, rfl⟩
    exact ⟨⟨mem, inside, d, there, issue, type, rfl⟩, other⟩
  · rintro ⟨⟨-, inside, d, there, issue, type, rfl⟩, other⟩
    exact ⟨d, ⟨there, ⟨⟨issue, type⟩, inside⟩, other⟩, rfl⟩

/-- The batch comes out as a whole; without a cycle it is the least order, by the places of the
input, in which every blocker comes first. -/
theorem order_least {ε : Type} (depList : String → Except ε (List Dep)) (deps : String → List Dep)
    (ids : List String) (nodup : ids.Nodup) (named : ∀ id ∈ ids, id ≠ "")
    (answers : ∀ id ∈ ids, depList id = .ok (deps id)) :
    ∃ out, Order (some depList) ids = .ok out ∧ out.Perm ids ∧
      ((∀ id, ¬ Relation.TransGen (Blocks deps ids) id id) →
        BlockersFirst deps ids out ∧ ∀ other, BlockersFirst deps ids other →
          ¬ other.map ids.idxOf < out.map ids.idxOf) := by
  by_cases few : ids.length ≤ 1
  · refine ⟨ids, if_pos few, Perm.refl _, fun acyclic => ⟨⟨Perm.refl _, fun id blocker blocks => ?_⟩,
      fun other order lower => ?_⟩⟩
    · have same : id = blocker := by
        match ids, few, blocks.1, blocks.2.1 with
        | [x], _, left, right => exact (mem_singleton.mp left).trans (mem_singleton.mp right).symm
      exact absurd (.single (same ▸ blocks)) (acyclic blocker)
    · have same : other = ids := by
        match ids, few with
        | [], _ => exact order.perm.eq_nil
        | [x], _ => exact perm_singleton.mp order.perm
      exact absurd (same ▸ lower) (lt_irrefl _)
  have needs_iff {x y : String} (mem : x ∈ ids) :
      y ∈ blockers depList ids x ↔ Blocks deps ids x y ∧ y ≠ x := by
    rw [blockers, answers x mem]
    exact mem_blockersOf mem
  have inside (x y : String) (need : y ∈ blockers depList ids x) : y ∈ ids := by
    obtain ⟨d, kept, rfl⟩ := mem_map.mp need
    have kept := (mem_filter.mp kept).2
    simp only [Bool.and_eq_true, contains_iff_mem] at kept
    exact kept.1.2
  obtain ⟨rest, least, result⟩ :=
    @orderLoop_least ids (blockers depList ids) [] named nodup nodup_nil (nil_subset _)
  have ordered := least.ordered
  have once : rest.Nodup := ordered.nodup nodup_nil
  have sub : rest ⊆ ids := fun x mem => ordered.mem mem
  rw [nil_append] at result
  have ran : Order (some depList) ids =
      .ok (rest ++ ids.filter fun id => !rest.contains id) := by
    unfold Order
    dsimp only
    rw [if_neg few, findSome?_eq_none_iff.mpr fun id mem => by rw [answers id mem], ← result]
  have apart : (rest ++ ids.filter fun id => !rest.contains id).Nodup := by
    refine nodup_append.mpr ⟨once, nodup.filter _, fun x mem y there same => ?_⟩
    have new := (mem_filter.mp there).2
    simp [← same, mem] at new
  refine ⟨_, ran, (perm_ext_iff_of_nodup apart nodup).mpr fun x => ?_, fun acyclic => ?_⟩
  · rw [mem_append, mem_filter]
    by_cases mem : x ∈ rest
    · simp [mem, sub mem]
    · simp [mem]
  · have all : ∀ x ∈ ids, x ∈ rest := by
      intro x mem
      by_contra left
      obtain ⟨a, cycle⟩ := least.cyclic inside mem left
      have path {b : String} (mem : a ∈ ids)
          (path : Relation.TransGen (fun x y => y ∈ blockers depList ids x) a b) :
          Relation.TransGen (Blocks deps ids) a b ∧ b ∈ ids := by
        induction path with
        | single need => exact ⟨.single ((needs_iff mem).mp need).1, inside _ _ need⟩
        | tail _ need ih => exact ⟨ih.1.tail ((needs_iff ih.2).mp need).1, inside _ _ need⟩
      obtain ⟨b, _, need⟩ := Relation.TransGen.tail'_iff.mp cycle
      exact acyclic a (path (inside b a need) cycle).1
    have none : (ids.filter fun id => !rest.contains id) = [] :=
      filter_eq_nil_iff.mpr fun x mem => by simpa using all x mem
    have needed {id blocker : String} (blocks : Blocks deps ids id blocker) :
        blocker ∈ blockers depList ids id := by
      refine (needs_iff blocks.1).mpr ⟨blocks, ?_⟩
      rintro rfl
      exact acyclic _ (.single blocks)
    have places (order : List String) (inside : ∀ x ∈ order, x ∈ ids) :
        order.map ids.idxOf = order.map (priority ids) :=
      map_congr_left fun x mem => (priority_eq_idxOf nodup (inside x mem)).symm
    rw [none, append_nil]
    refine ⟨⟨(perm_ext_iff_of_nodup once nodup).mpr fun x => ⟨fun mem => sub mem, all x⟩, fun id
      blocker blocks => ?_⟩, fun other order => ?_⟩
    · exact ordered.precedes (all id blocks.1) (needed blocks)
    · rw [places rest fun x mem => sub mem, places other fun x mem => order.perm.mem_iff.mp mem]
      refine least.le (ordered_of_precedes (fun x mem => order.perm.mem_iff.mp mem)
        (order.perm.nodup_iff.mpr nodup) fun x y there need => ?_) (fun x left y right same => ?_)
        fun x mem => order.perm.mem_iff.mpr mem
      · exact order.first x y ((needs_iff (order.perm.mem_iff.mp there)).mp need).1
      · rw [priority_eq_idxOf nodup left, priority_eq_idxOf nodup right] at same
        exact (idxOf_inj left).mp same

theorem order_least_backwards :
    ∃ out, Order (ε := Unit) (some fun _ => .ok [⟨"a", "b", "blocks"⟩]) ["a", "b"] = .ok out ∧
      out.Perm ["a", "b"] := by
  obtain ⟨out, ran, perm, -⟩ := @order_least Unit (fun _ => .ok [⟨"a", "b", "blocks"⟩])
    (fun _ => [⟨"a", "b", "blocks"⟩]) ["a", "b"] (by decide) (by decide) (fun _ _ => rfl)
  exact ⟨out, ran, perm⟩

end GasCity.CloseOrder
