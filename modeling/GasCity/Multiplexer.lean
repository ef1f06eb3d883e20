import Mathlib.Data.List.DropRight
import Mathlib.Data.Prod.Lex
import Mathlib.Data.String.Basic
import GasCity.SortKey

namespace GasCity

open List

section tails

variable {α β : Type} [LinearOrder β] {key : α → β} {n : Nat}

theorem not_mem_rtake {l : List α} (later : List α) {x : α}
    (sorted : l.Pairwise fun a b => key a < key b) (mem : x ∈ l)
    (distinct : later.Nodup) (enough : n ≤ later.length)
    (after : ∀ y ∈ later, y ∈ l ∧ key x < key y) : x ∉ l.rtake n := by
  obtain ⟨before, rest, rfl⟩ := append_of_mem mem
  have less := (pairwise_append.mp sorted).2.2
  have inRest : later ⊆ rest := by
    intro y there
    obtain ⟨found, larger⟩ := after y there
    rcases mem_append.mp found with early | same
    · exact absurd (less y early x mem_cons_self) larger.asymm
    · rcases mem_cons.mp same with rfl | late
      · exact absurd larger (lt_irrefl _)
      · exact late
  have long := (subperm_of_subset distinct inRest).length_le
  intro last
  unfold rtake at last
  have place : (before ++ x :: rest).length - n = before.length + 1 + (rest.length - n) := by
    simp
    omega
  have tail : (before ++ x :: rest).drop (before.length + 1) = rest := by
    rw [← drop_drop, drop_left, drop_one, tail_cons]
  rw [place, ← drop_drop, tail] at last
  exact lt_irrefl _ (rel_of_pairwise_cons (pairwise_append.mp sorted).2.1 (mem_of_mem_drop last))

theorem rtake_of_sublist {l tails : List α} (distinct : l.Nodup) (sub : tails.Sublist l)
    (last : ∀ x ∈ l.rtake n, x ∈ tails) : tails.rtake n = l.rtake n := by
  have parts : l = l.take (l.length - n) ++ l.rtake n := (take_append_drop _ _).symm
  have length : (l.rtake n).length = min n l.length := by
    unfold rtake
    rw [length_drop]
    omega
  rw [parts] at sub
  obtain ⟨first, second, rfl, early, late⟩ := sublist_append_iff.mp sub
  have all : l.rtake n ⊆ second := by
    intro x mem
    rcases mem_append.mp (last x mem) with inFirst | inSecond
    · exact absurd mem (disjoint_take_drop distinct (Nat.le_refl _) (early.subset inFirst))
    · exact inSecond
  have long := (subperm_of_subset (distinct.sublist (drop_sublist _ _)) all).length_le
  have same := late.eq_of_length_le long
  rw [same]
  have few : first.length ≤ l.length - n := early.length_le.trans (length_take_le _ _)
  have place : (first ++ l.rtake n).length - n = first.length := by
    rw [length_append]
    omega
  unfold rtake at place ⊢
  rw [place, drop_left]

end tails

/-- What the multiplexer reads of a filter; its providers read the rest. -/
structure EventFilter (φ : Type) where
  criteria : φ
  limit : Int := 0

/-- A city's events; only some providers read their tail themselves. -/
structure EventProvider (ε φ : Type) where
  list : EventFilter φ → List ε
  listTail : Option (EventFilter φ → Int → List ε) := none

structure TaggedEvent (ε : Type) where
  city : String
  event : ε

section multiplexer

variable {ε φ : Type} (seq : ε → Nat) (ts : ε → Int)

def TaggedEvent.key (e : TaggedEvent ε) : Int ×ₗ String ×ₗ Nat :=
  toLex (ts e.event, toLex (e.city, seq e.event))

def taggedEventLess (left right : TaggedEvent ε) : Bool :=
  if ts left.event ≠ ts right.event then ts left.event < ts right.event
  else if left.city ≠ right.city then left.city < right.city
  else seq left.event < seq right.event

def mergeSorted (answer : EventProvider ε φ → List ε)
    (arrived : List (String × EventProvider ε φ)) : List (TaggedEvent ε) :=
  (arrived.flatMap fun p => (answer p.2).map (TaggedEvent.mk p.1)).insertionSort
    fun left right => taggedEventLess seq ts right left = false

def listAll (arrived : List (String × EventProvider ε φ)) (filter : EventFilter φ) :
    List (TaggedEvent ε) :=
  let all := mergeSorted seq ts (·.list { filter with limit := 0 }) arrived
  if 0 < filter.limit ∧ filter.limit < all.length then all.take filter.limit.toNat else all

def EventProvider.tail (p : EventProvider ε φ) (filter : EventFilter φ) (limit : Int) : List ε :=
  match p.listTail with
  | some listTail => listTail filter limit
  | none =>
    let events := p.list filter
    if limit < events.length then events.drop (events.length - limit).toNat else events

def listTail (arrived : List (String × EventProvider ε φ)) (filter : EventFilter φ) (limit : Int) :
    List (TaggedEvent ε) :=
  if limit ≤ 0 then listAll seq ts arrived filter
  else
    let all := mergeSorted seq ts (·.tail { filter with limit := 0 } limit) arrived
    if limit < all.length then all.drop (all.length - limit).toNat else all

/-- A city's events in sequence order have timestamps that do not fall, and its own tail is the
end of its list. -/
structure EventProvider.Orderly (p : EventProvider ε φ) : Prop where
  sequence : ∀ filter, (p.list filter).Pairwise fun a b => seq a < seq b ∧ ts a ≤ ts b
  tail : ∀ listTail ∈ p.listTail, ∀ filter (n : Nat), listTail filter n = (p.list filter).rtake n

variable {seq ts} {arrived arrived' : List (String × EventProvider ε φ)}

theorem taggedEventLess_iff (left right : TaggedEvent ε) :
    taggedEventLess seq ts right left = false ↔ left.key seq ts ≤ right.key seq ts := by
  unfold taggedEventLess TaggedEvent.key
  rw [Prod.Lex.toLex_le_toLex, Prod.Lex.toLex_le_toLex]
  dsimp only
  by_cases time : ts right.event = ts left.event
  · rw [if_neg (not_not.mpr time)]
    by_cases city : right.city = left.city
    · simp [time, city]
    · rw [if_pos city, decide_eq_false_iff_not, not_lt, le_iff_lt_or_eq, or_iff_left (Ne.symm city)]
      simp only [time, lt_irrefl, false_or, true_and, Ne.symm city, false_and, or_false]
  · simp [time, le_iff_lt_or_eq, Ne.symm time]

theorem drop_toNat_eq_rtake {α : Type} (l : List α) (n : Nat) :
    (if (n : Int) < l.length then l.drop ((l.length : Int) - n).toNat else l) = l.rtake n := by
  unfold rtake
  split
  next less =>
    congr 1
    omega
  next all =>
    rw [show l.length - n = 0 by omega, drop_zero]

theorem EventProvider.Orderly.tail_eq {p : EventProvider ε φ} (orderly : p.Orderly seq ts)
    (filter : EventFilter φ) (n : Nat) : p.tail filter n = (p.list filter).rtake n := by
  unfold EventProvider.tail
  cases own : p.listTail with
  | some listTail => exact orderly.tail listTail own filter n
  | none => exact drop_toNat_eq_rtake _ n

section answers

variable (orderly : ∀ p ∈ arrived, p.2.Orderly seq ts) (filter : EventFilter φ)

def answers (arrived : List (String × EventProvider ε φ)) (filter : EventFilter φ) :
    List (TaggedEvent ε) :=
  arrived.flatMap fun p => (p.2.list filter).map (TaggedEvent.mk p.1)

theorem key_lt {city : String} {a b : ε} (before : seq a < seq b ∧ ts a ≤ ts b) :
    TaggedEvent.key seq ts ⟨city, a⟩ < TaggedEvent.key seq ts ⟨city, b⟩ := by
  unfold TaggedEvent.key
  rw [Prod.Lex.toLex_lt_toLex, Prod.Lex.toLex_lt_toLex]
  rcases before.2.lt_or_eq with less | same
  · exact .inl less
  · exact .inr ⟨same, .inr ⟨rfl, before.1⟩⟩

include orderly

theorem answers_keys (cities : (arrived.map Prod.fst).Nodup) :
    ((answers arrived filter).map (TaggedEvent.key seq ts)).Nodup := by
  refine pairwise_map.mpr (pairwise_flatMap.mpr ⟨fun p mem => pairwise_map.mpr ?_, ?_⟩)
  · exact ((orderly p mem).sequence filter).imp fun before => (key_lt before).ne
  · refine (pairwise_map.mp cities).imp fun {p q} apart a inP b inQ same => apart ?_
    obtain ⟨e, -, rfl⟩ := mem_map.mp inP
    obtain ⟨e', -, rfl⟩ := mem_map.mp inQ
    exact congrArg (fun k => (ofLex (ofLex k).2).1) same

theorem tails_sublist (n : Nat) :
    (arrived.flatMap fun p => (p.2.tail filter n).map (TaggedEvent.mk p.1)).Sublist
      (answers arrived filter) := by
  induction arrived with
  | nil => exact .slnil
  | cons p arrived ih =>
    have rest := ih fun q mem => orderly q (mem_cons_of_mem p mem)
    have own : (p.2.tail filter n).Sublist (p.2.list filter) := by
      rw [(orderly p mem_cons_self).tail_eq]
      exact drop_sublist _ _
    exact (own.map _).append rest

theorem mem_tails {n : Nat} {l : List (TaggedEvent ε)} {x : TaggedEvent ε}
    (sorted : l.Pairwise fun a b => a.key seq ts < b.key seq ts)
    (perm : l.Perm (answers arrived filter)) (last : x ∈ l.rtake n) :
    x ∈ arrived.flatMap fun p => (p.2.tail filter n).map (TaggedEvent.mk p.1) := by
  have inL : x ∈ l := mem_of_mem_drop last
  obtain ⟨p, mem, there⟩ := mem_flatMap.mp (perm.mem_iff.mp inL)
  obtain ⟨e, listed, rfl⟩ := mem_map.mp there
  refine mem_flatMap.mpr ⟨p, mem, mem_map_of_mem ?_⟩
  rw [(orderly p mem).tail_eq]
  by_contra early
  have sequence := (orderly p mem).sequence filter
  rw [← take_append_drop ((p.2.list filter).length - n) (p.2.list filter)] at listed sequence
  have first := (mem_append.mp listed).resolve_right early
  have before := (pairwise_append.mp sequence).2.2 e first
  have long := length_pos_of_mem first
  rw [length_take] at long
  refine not_mem_rtake (((p.2.list filter).rtake n).map (TaggedEvent.mk p.1)) sorted inL
    ?_ ?_ ?_ last
  · refine pairwise_map.mpr ((pairwise_append.mp sequence).2.1.imp fun less same => ?_)
    have := congrArg (fun e => seq e.event) same
    exact less.1.ne this
  · unfold rtake
    rw [length_map, length_drop]
    omega
  · intro y there
    obtain ⟨e', mem', rfl⟩ := mem_map.mp there
    refine ⟨perm.mem_iff.mpr (mem_flatMap.mpr ⟨p, mem, mem_map_of_mem (mem_of_mem_drop mem')⟩), ?_⟩
    exact key_lt (before e' mem')

end answers

/-- The tail of the merge of all cities is the end of the merged list without a limit, in whatever
order the cities answer the two calls. -/
theorem listTail_eq_rtake (cities : (arrived.map Prod.fst).Nodup) (perm : arrived.Perm arrived')
    (orderly : ∀ p ∈ arrived, p.2.Orderly seq ts) (filter : EventFilter φ) {n : Nat} (pos : 1 ≤ n) :
    listTail seq ts arrived filter n =
      (listAll seq ts arrived' { filter with limit := 0 }).rtake n := by
  have keys := answers_keys orderly { filter with limit := 0 } cities
  have sub := tails_sublist orderly { filter with limit := 0 } n
  have apart : ∀ a ∈ answers arrived { filter with limit := 0 },
      ∀ b ∈ answers arrived { filter with limit := 0 }, a.key seq ts = b.key seq ts → a = b :=
    fun a inA b inB => inj_on_of_nodup_map keys inA inB
  have all : listAll seq ts arrived' { filter with limit := 0 } =
      mergeSorted seq ts (·.list { filter with limit := 0 }) arrived := by
    unfold listAll
    dsimp only
    rw [if_neg fun both => absurd both.1 (lt_irrefl _)]
    exact (insertionSort_eq_of_perm _ taggedEventLess_iff (perm.flatMap_right _) apart).symm
  have sorted := insertionSort_increasing _ taggedEventLess_iff keys
  have tails := insertionSort_increasing _ taggedEventLess_iff (keys.sublist (sub.map _))
  have perms := perm_insertionSort (fun left right => taggedEventLess seq ts right left = false)
  unfold listTail
  rw [if_neg (by omega), all, drop_toNat_eq_rtake]
  have antisymm : Std.Antisymm fun a b : TaggedEvent ε => a.key seq ts < b.key seq ts :=
    ⟨fun a b less more => absurd less more.asymm⟩
  refine rtake_of_sublist sorted.nodup (sublist_of_subperm_of_pairwise ?_ tails sorted)
    fun x last => ?_
  · exact (perms _).subperm.trans (sub.subperm.trans (perms _).symm.subperm)
  · exact (perms _).mem_iff.mpr (mem_tails orderly _ sorted (perms _) last)

def twoEvents : EventProvider (Nat × Int) Unit where
  list _ := [(1, 10), (2, 20)]

/-- A limit of the filter keeps the earliest events, and the tail the latest. -/
theorem listTail_of_limited_filter :
    (listTail Prod.fst Prod.snd [("city", twoEvents)] ⟨(), 1⟩ 1).map (·.event) = [(2, 20)] ∧
      ((listAll Prod.fst Prod.snd [("city", twoEvents)] ⟨(), 1⟩).rtake 1).map (·.event) =
        [(1, 10)] := by
  decide

theorem listTail_eq_rtake_two_events :
    twoEvents.Orderly Prod.fst Prod.snd ∧
      listTail Prod.fst Prod.snd [("east", twoEvents), ("west", twoEvents)] ⟨(), 1⟩ (3 : Nat) =
        (listAll Prod.fst Prod.snd [("east", twoEvents), ("west", twoEvents)] ⟨(), 0⟩).rtake 3 :=
  have orderly : twoEvents.Orderly Prod.fst Prod.snd :=
    ⟨fun _ => show Pairwise _ [(1, 10), (2, 20)] by decide, fun _ none => by cases none⟩
  ⟨orderly, listTail_eq_rtake (by decide) (.refl _) (fun p mem => by
    rcases mem_pair.mp mem with rfl | rfl <;> exact orderly)
    ⟨(), 1⟩ (by decide)⟩

end multiplexer

end GasCity
