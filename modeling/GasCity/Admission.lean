import Mathlib.Data.List.Basic
import Mathlib.Data.List.Count
import Mathlib.Data.List.Dedup
import Mathlib.Data.List.Sort

namespace GasCity

open List

/-- Counters that items are charged to, the caps of the counters, and the key
under which at most one item is admitted. -/
structure Quotas (α ι κ : Type) where
  charges : α → List ι
  cap : ι → Option Nat
  key : α → Option κ

namespace Quotas

section load

variable {α ι κ : Type} [DecidableEq ι] (q : Quotas α ι κ)

def load (taken : List α) (c : ι) : Nat := taken.countP fun x => c ∈ q.charges x

def full (taken : List α) (c : ι) : Bool := (q.cap c).any (· ≤ q.load taken c)

structure Sound (taken : List α) : Prop where
  within : ∀ c, ∀ cap ∈ q.cap c, q.load taken c ≤ cap
  keys : (taken.filterMap q.key).Nodup

variable {q} {c : ι}

theorem full_iff {taken : List α} :
    q.full taken c = true ↔ ∃ cap ∈ q.cap c, cap ≤ q.load taken c := by
  unfold full
  cases q.cap c with
  | none | some => simp

@[simp] theorem load_append (t u : List α) : q.load (t ++ u) c = q.load t c + q.load u c :=
  countP_append

variable {t u : List α}

theorem load_le_of_begins (h : t <+: u) : q.load t c ≤ q.load u c := by
  obtain ⟨more, rfl⟩ := h
  rw [load_append]
  exact Nat.le_add_right _ _

theorem full_of_begins (h : t <+: u) (full : q.full t c = true) :
    q.full u c = true := by
  obtain ⟨cap, is, le⟩ := full_iff.mp full
  exact full_iff.mpr ⟨cap, is, le.trans (load_le_of_begins h)⟩

theorem load_perm (h : t.Perm u) : q.load t c = q.load u c := h.countP_eq _

theorem Sound.perm (sound : q.Sound t) (h : t.Perm u) : q.Sound u where
  within c cap is := by
    rw [← load_perm h]
    exact sound.within c cap is
  keys := (h.filterMap q.key).nodup_iff.mp sound.keys

end load

section sweep

variable {α ι κ : Type} [DecidableEq ι] [DecidableEq κ] (q : Quotas α ι κ)

variable (taken : List α)

def seen (x : α) : Bool :=
  (q.key x).any fun k => k ∈ taken.filterMap q.key

def admits (x : α) : Bool :=
  !q.seen taken x && (q.charges x).all fun c => !q.full taken c

def visit (x : α) : List α := if q.admits taken x then taken ++ [x] else taken

def sweep (taken xs : List α) : List α := xs.foldl q.visit taken

variable {q} {taken xs : List α} {x : α}

omit [DecidableEq ι] in
theorem seen_iff : q.seen taken x = true ↔ ∃ k ∈ q.key x, ∃ y ∈ taken, q.key y = some k := by
  unfold seen
  cases q.key x with
  | none | some => simp

theorem admits_iff : q.admits taken x = true ↔
    q.seen taken x = false ∧ ∀ c ∈ q.charges x, q.full taken c = false := by
  simp [admits]

theorem sweep_append (taken xs ys : List α) :
    q.sweep taken (xs ++ ys) = q.sweep (q.sweep taken xs) ys :=
  foldl_append

theorem sweep_cons (taken : List α) (x : α) (xs : List α) :
    q.sweep taken (x :: xs) = q.sweep (q.visit taken x) xs := rfl

theorem visit_of_admits (admitted : q.admits taken x = true) : q.visit taken x = taken ++ [x] :=
  if_pos admitted

theorem prefix_visit (taken : List α) (x : α) : taken <+: q.visit taken x := by
  unfold visit
  split
  · exact prefix_append _ _
  · exact prefix_rfl

theorem prefix_sweep (taken xs : List α) : taken <+: q.sweep taken xs := by
  induction xs generalizing taken with
  | nil => exact prefix_rfl
  | cons x xs ih => exact (prefix_visit taken x).trans (ih _)

theorem sublist_sweep (taken xs : List α) : (q.sweep taken xs).Sublist (taken ++ xs) := by
  induction xs generalizing taken with
  | nil => simp [sweep]
  | cons x xs ih =>
    refine (ih (q.visit taken x)).trans ?_
    unfold visit
    split
    · simp
    · exact (sublist_cons_self x xs).append_left taken

theorem Sound.take (sound : q.Sound taken) (admitted : q.admits taken x = true) :
    q.Sound (taken ++ [x]) := by
  obtain ⟨new, room⟩ := admits_iff.mp admitted
  refine ⟨fun c cap is => ?_, ?_⟩
  · rw [load_append]
    by_cases charged : c ∈ q.charges x
    · have open' := room c charged
      have below : ¬cap ≤ q.load taken c := by
        intro le
        rw [full_iff.mpr ⟨cap, is, le⟩] at open'
        cases open'
      have one : q.load [x] c ≤ 1 := countP_le_length
      omega
    · have none : q.load [x] c = 0 := by simp [load, charged]
      have := sound.within c cap is
      omega
  · rw [filterMap_append]
    cases key : q.key x with
    | none => simpa [key] using sound.keys
    | some k =>
      refine nodup_append.mpr ⟨sound.keys, by simp [key], ?_⟩
      intro k' mem k'' mem' same
      have : k'' = k := by simpa [key] using mem'
      obtain ⟨y, taken', keyed⟩ := mem_filterMap.mp mem
      rw [seen_iff.mpr ⟨k, key, y, taken', by rw [keyed, same, this]⟩] at new
      cases new

theorem Sound.sweep (sound : q.Sound taken) (xs : List α) : q.Sound (q.sweep taken xs) := by
  induction xs generalizing taken with
  | nil => exact sound
  | cons x xs ih =>
    refine ih ?_
    unfold visit
    split
    next admitted => exact sound.take admitted
    · exact sound

theorem sweep_eq_append (sound : q.Sound (taken ++ xs)) : q.sweep taken xs = taken ++ xs := by
  induction xs generalizing taken with
  | nil => simp [Quotas.sweep]
  | cons x xs ih =>
    have regroup : taken ++ x :: xs = taken ++ [x] ++ xs := by simp
    have admitted : q.admits taken x = true := by
      refine admits_iff.mpr ⟨?_, fun c charged => ?_⟩
      · by_contra old
        obtain ⟨k, key, y, mem, keyed⟩ := seen_iff.mp (Bool.of_not_eq_false old)
        have keys := sound.keys
        rw [filterMap_append, filterMap_cons_some key] at keys
        exact (nodup_append.mp keys).2.2 k (mem_filterMap.mpr ⟨y, mem, keyed⟩) k
          mem_cons_self rfl
      · by_contra closed
        obtain ⟨cap, is, le⟩ := full_iff.mp (Bool.of_not_eq_false closed)
        have within := sound.within c cap is
        have one : q.load [x] c = 1 := by simp [load, charged]
        rw [regroup, load_append, load_append] at within
        omega
    rw [regroup] at sound
    rw [sweep_cons, visit_of_admits admitted, ih sound, regroup]

/-- Each item is taken, or one of its key was taken before it, or one of its
counters was full by what was taken before it. -/
theorem sweep_split (taken before after : List α) (x : α) :
    q.sweep taken before ++ [x] <+: q.sweep taken (before ++ x :: after) ∨
    q.seen (q.sweep taken before) x = true ∨
    ∃ c ∈ q.charges x, q.full (q.sweep taken before) c = true := by
  by_cases admitted : q.admits (q.sweep taken before) x = true
  · left
    rw [sweep_append, sweep_cons, visit_of_admits admitted]
    exact prefix_sweep _ _
  · right
    by_contra neither
    rw [not_or] at neither
    refine admitted (admits_iff.mpr ⟨Bool.of_not_eq_true neither.1, fun c charged => ?_⟩)
    exact Bool.of_not_eq_true fun closed => neither.2 ⟨c, charged, closed⟩

end sweep

end Quotas

theorem flatMap_filter_perm {α β : Type} [DecidableEq β] (f : α → β) {keys : List β}
    (distinct : keys.Nodup) {xs : List α} (covers : ∀ x ∈ xs, f x ∈ keys) :
    (keys.flatMap fun k => xs.filter (f · = k)).Perm xs := by
  induction keys generalizing xs with
  | nil =>
    have empty : xs = [] := eq_nil_iff_forall_not_mem.mpr fun x mem => by simpa using covers x mem
    rw [empty]
    simp
  | cons k keys ih =>
    have apart := nodup_cons.mp distinct
    have rest : ∀ k' ∈ keys, xs.filter (f · = k') =
        (xs.filter fun x => !decide (f x = k)).filter (f · = k') := by
      intro k' mem
      rw [filter_filter]
      refine filter_congr fun x _ => ?_
      have differ : k' ≠ k := fun same => apart.1 (same ▸ mem)
      by_cases hit : f x = k'
      · simp [hit, differ]
      · simp [hit]
    rw [flatMap_cons, flatMap_congr rest]
    refine (List.Perm.append_left _ (ih apart.2 fun x mem => ?_)).trans
      (filter_append_perm _ xs)
    obtain ⟨mem, other⟩ := mem_filter.mp mem
    refine (mem_cons.mp (covers x mem)).resolve_left ?_
    simpa using other

theorem insertionSort_append_of_le {α : Type} {r : α → α → Prop} [DecidableRel r] {xs ys : List α}
    (sorted : ys.Pairwise r) (before : ∀ x ∈ xs, ∀ y ∈ ys, r x y) :
    (xs ++ ys).insertionSort r = xs.insertionSort r ++ ys := by
  induction xs with
  | nil => simpa using sorted.insertionSort_eq
  | cons x xs ih =>
    have insert : ∀ zs : List α, orderedInsert r x (zs ++ ys) = orderedInsert r x zs ++ ys := by
      intro zs
      induction zs with
      | nil =>
        cases ys with
        | nil => rfl
        | cons y ys => simp [orderedInsert, before x mem_cons_self y mem_cons_self]
      | cons z zs inner =>
        simp only [cons_append, orderedInsert]
        split
        · rfl
        · rw [inner, cons_append]
    rw [cons_append, insertionSort_cons, insertionSort_cons,
      ih fun x mem => before x (mem_cons_of_mem _ mem), insert]

end GasCity
