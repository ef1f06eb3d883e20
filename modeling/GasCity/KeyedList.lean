import Mathlib.Data.List.Nodup

namespace GasCity

open List

/-- A list of rows no two of which share a key: a map whose values carry their own key. -/
structure KeyedList {κ α : Type} (key : α → κ) where
  rows : List α
  nodup : (rows.map key).Nodup

namespace KeyedList

variable {κ α : Type} {key : α → κ} [DecidableEq κ]

def empty : KeyedList key := ⟨[], by simp⟩

def find (m : KeyedList key) (k : κ) : Option α := m.rows.find? (fun a => decide (key a = k))

variable (m : KeyedList key)

def keys : List κ := m.rows.map key

def erase (k : κ) : KeyedList key :=
  ⟨m.rows.filter (fun a => decide (key a ≠ k)), m.nodup.sublist (filter_sublist.map key)⟩

def keep (p : α → Bool) : KeyedList key :=
  ⟨m.rows.filter p, m.nodup.sublist (filter_sublist.map key)⟩

def set (a : α) : KeyedList key :=
  ⟨a :: (m.erase (key a)).rows, by
    simp only [map_cons, nodup_cons]
    refine ⟨?_, (m.erase (key a)).nodup⟩
    simp [erase]⟩

def push (a : α) (fresh : key a ∉ m.keys) : KeyedList key :=
  ⟨m.rows ++ [a], by
    simp only [map_append, map_cons, map_nil]
    exact nodup_append.mpr ⟨m.nodup, by simp, by
      intro x hx y hy
      have : y = key a := by simpa using hy
      subst this
      exact fun h => fresh (h ▸ hx)⟩⟩

def mapRows (f : α → α) (same : ∀ a, key (f a) = key a) : KeyedList key :=
  ⟨m.rows.map f, by simpa [map_map, Function.comp_def, same] using m.nodup⟩

def modify (k : κ) (f : α → α) (same : ∀ a, key (f a) = key a) :
    KeyedList key :=
  m.mapRows (fun a => if key a = k then f a else a) (fun a => by split <;> simp [same])

def ofRows (rows : List α) : KeyedList key := rows.foldl set empty

variable {a : α} {k : κ} {m : KeyedList key}

theorem find_eq_some_iff :
    m.find k = some a ↔ a ∈ m.rows ∧ key a = k := by
  constructor
  · intro h
    exact ⟨mem_of_find?_eq_some h, by simpa using find?_some h⟩
  · rintro ⟨hm, hk⟩
    cases hf : m.find k with
    | none =>
      have := find?_eq_none.mp hf a hm
      simp [hk] at this
    | some b =>
      have hb := mem_of_find?_eq_some hf
      have hbk : key b = k := by simpa using find?_some hf
      exact congrArg some (inj_on_of_nodup_map m.nodup hb hm (hbk.trans hk.symm))

theorem key_of_find (h : m.find k = some a) : key a = k :=
  (find_eq_some_iff.mp h).2

theorem mem_of_find (h : m.find k = some a) : a ∈ m.rows :=
  (find_eq_some_iff.mp h).1

theorem find_key_of_mem (h : a ∈ m.rows) : m.find (key a) = some a :=
  find_eq_some_iff.mpr ⟨h, rfl⟩

theorem find_eq_none_iff : m.find k = none ↔ k ∉ m.keys := by
  rw [find]
  simp [keys]

theorem mem_keys_iff : k ∈ m.keys ↔ ∃ a, m.find k = some a := by
  rw [← Option.isSome_iff_exists, ← not_iff_not, ← find_eq_none_iff]
  simp

@[simp] theorem find_empty (k : κ) : (empty : KeyedList key).find k = none := rfl

@[simp] theorem find_erase (m : KeyedList key) (k j : κ) :
    (m.erase k).find j = if j = k then none else m.find j := by
  split
  next h =>
    subst h
    apply find_eq_none_iff.mpr
    simp [keys, erase]
  next h =>
    apply Option.ext
    intro a
    rw [find_eq_some_iff, find_eq_some_iff]
    simp only [erase, mem_filter, decide_eq_true_eq]
    constructor
    · rintro ⟨⟨hm, _⟩, hk⟩
      exact ⟨hm, hk⟩
    · rintro ⟨hm, hk⟩
      exact ⟨⟨hm, fun e => h (hk.symm.trans e)⟩, hk⟩

@[simp] theorem find_keep (m : KeyedList key) (p : α → Bool) (k : κ) :
    (m.keep p).find k = (m.find k).filter p := by
  apply Option.ext
  intro a
  rw [find_eq_some_iff, Option.filter_eq_some_iff, find_eq_some_iff]
  simp only [keep, mem_filter]
  tauto

theorem erase_of_find_none (missing : m.find k = none) :
    m.erase k = m := by
  obtain ⟨rows, nodup⟩ := m
  have same : rows.filter (fun a => decide (key a ≠ k)) = rows := by
    refine filter_eq_self.mpr fun a mem => decide_eq_true fun eq => ?_
    exact find_eq_none_iff.mp missing (mem_map.mpr ⟨a, mem, eq⟩)
  unfold erase
  congr 1

@[simp] theorem find_set (m : KeyedList key) (a : α) (j : κ) :
    (m.set a).find j = if j = key a then some a else m.find j := by
  split
  next h => exact find_eq_some_iff.mpr ⟨by simp [set], h.symm⟩
  next h =>
    have hrest : (m.set a).find j = (m.erase (key a)).find j := by
      simp [find, set, Ne.symm h]
    simp [hrest, h]

theorem set_erase (same : key a = k) : (m.erase k).set a = m.set a := by
  subst same
  simp [set, erase, filter_filter]

theorem mem_set {b : α} :
    b ∈ (m.set a).rows ↔ b = a ∨ (b ∈ m.rows ∧ key b ≠ key a) := by
  simp [set, erase]

theorem mem_set_set {b d : α} (same : key a = key b) :
    d ∈ ((m.set a).set b).rows ↔ d ∈ (m.set b).rows := by
  rw [mem_set, mem_set, mem_set]
  constructor
  · rintro (rfl | ⟨rfl | ⟨mem, -⟩, other⟩)
    · exact .inl rfl
    · exact (other same).elim
    · exact .inr ⟨mem, other⟩
  · rintro (rfl | ⟨mem, other⟩)
    · exact .inl rfl
    · exact .inr ⟨.inr ⟨mem, same ▸ other⟩, other⟩

theorem forall_mem_set {p : α → Prop} (before : ∀ b ∈ m.rows, p b) (here : p a) : ∀ b ∈ (m.set a).rows, p b := by
  intro b mem
  rcases mem_set.mp mem with rfl | ⟨mem, -⟩
  · exact here
  · exact before b mem

theorem perm_cons_erase (h : m.find k = some a) :
    m.rows.Perm (a :: (m.erase k).rows) := by
  obtain ⟨mem, rfl⟩ := find_eq_some_iff.mp h
  obtain ⟨before, after, split⟩ := append_of_mem mem
  have apart := m.nodup
  rw [split, map_append] at apart
  have unlike := (nodup_middle.mp apart)
  have others : ∀ b ∈ before ++ after, key b ≠ key a := fun b inside same =>
    (nodup_cons.mp unlike).1 (by
      rw [← map_append]
      exact mem_map.mpr ⟨b, inside, same⟩)
  have rest : (m.erase (key a)).rows = before ++ after := by
    have kept := filter_eq_self.mpr fun b inside => decide_eq_true (others b inside)
    show m.rows.filter _ = _
    rw [split, filter_append, filter_cons_of_neg (by simp), ← filter_append]
    exact kept
  rw [rest, split]
  exact perm_middle

theorem find_foldl_set_isSome (rows : List α) (m : KeyedList key) (k : κ) :
    ((rows.foldl set m).find k).isSome ↔ (m.find k).isSome ∨ ∃ a ∈ rows, key a = k := by
  induction rows generalizing m with
  | nil => simp
  | cons a rows ih =>
    rw [foldl_cons, ih]
    by_cases h : k = key a
    · simp [h]
    · simp [h, Ne.symm h]

theorem find_ofRows_isSome (rows : List α) (k : κ) :
    ((ofRows rows : KeyedList key).find k).isSome ↔ ∃ a ∈ rows, key a = k := by
  rw [ofRows, find_foldl_set_isSome]
  simp

theorem mem_of_find_foldl_set {rows : List α} (found : (rows.foldl set m).find k = some a) :
    a ∈ rows ∨ m.find k = some a := by
  induction rows generalizing m with
  | nil => exact .inr found
  | cons b rows ih =>
    rcases ih found with mem | found
    · exact .inl (mem_cons_of_mem b mem)
    · rw [find_set] at found
      split at found
      next => exact .inl (mem_cons.mpr (.inl (Option.some.inj found).symm))
      next => exact .inr found

theorem mem_of_find_ofRows {rows : List α} (found : (ofRows rows : KeyedList key).find k = some a) : a ∈ rows :=
  (mem_of_find_foldl_set found).resolve_right (by simp)

@[simp] theorem find_push (m : KeyedList key) (a : α) (fresh : key a ∉ m.keys) (j : κ) :
    (m.push a fresh).find j = if j = key a then some a else m.find j := by
  apply Option.ext
  intro b
  split
  next h =>
    subst h
    simp only [find_eq_some_iff, push, mem_append, mem_singleton, Option.some.injEq]
    constructor
    · rintro ⟨hm | hm, hk⟩
      · exact absurd (by simpa [keys] using ⟨b, hm, hk⟩) fresh
      · exact hm.symm
    · rintro rfl
      exact ⟨.inr rfl, rfl⟩
  next h =>
    simp only [find_eq_some_iff, push, mem_append, mem_singleton]
    constructor
    · rintro ⟨hm | rfl, hk⟩
      · exact ⟨hm, hk⟩
      · exact absurd hk.symm h
    · rintro ⟨hm, hk⟩
      exact ⟨.inl hm, hk⟩

@[simp] theorem find_mapRows (m : KeyedList key) (f : α → α) (same : ∀ a, key (f a) = key a)
    (j : κ) : (m.mapRows f same).find j = (m.find j).map f := by
  simp only [find, mapRows, find?_map, Function.comp_def, same]

theorem find_modify (m : KeyedList key) (k : κ) (f : α → α) (same : ∀ a, key (f a) = key a)
    (j : κ) : (m.modify k f same).find j = if j = k then (m.find j).map f else m.find j := by
  rw [modify, find_mapRows]
  cases hf : m.find j with
  | none => simp
  | some a =>
    simp only [Option.map_some, key_of_find hf]
    split <;> rfl

end KeyedList

end GasCity
