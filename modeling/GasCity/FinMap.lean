import Mathlib.Data.List.AList

namespace GasCity

/-- A finite map with unique keys; the order of its entries is the order a range loop visits them in. -/
abbrev FinMap (κ α : Type) := AList (fun _ : κ => α)

variable {κ α : Type} [DecidableEq κ]

@[simp] theorem FinMap.lookup_insert_ite (m : FinMap κ α) (k j : κ) (v : α) :
    (m.insert k v).lookup j = if j = k then some v else m.lookup j := by
  by_cases h : j = k
  · subst h
    simp [AList.lookup_insert]
  · simp [AList.lookup_insert_ne h, h]

@[simp] theorem FinMap.lookup_erase_ite (m : FinMap κ α) (k j : κ) :
    (m.erase k).lookup j = if j = k then none else m.lookup j := by
  by_cases h : j = k
  · subst h
    simp [AList.lookup_erase]
  · simp [AList.lookup_erase_ne h, h]

theorem FinMap.lookup_foldl_insert {ρ : Type} (key : ρ → κ) (value : κ → α) (rows : List ρ)
    (m : FinMap κ α) (j : κ) :
    (rows.foldl (fun m a => m.insert (key a) (value (key a))) m).lookup j =
      if j ∈ rows.map key then some (value j) else m.lookup j := by
  induction rows generalizing m with
  | nil => simp
  | cons a rows ih =>
    rw [List.foldl_cons, ih, FinMap.lookup_insert_ite, List.map_cons]
    by_cases rest : j ∈ rows.map key
    · rw [if_pos rest, if_pos (List.mem_cons_of_mem _ rest)]
    · by_cases h : j = key a
      · subst h
        rw [if_neg rest, if_pos rfl, if_pos List.mem_cons_self]
      · rw [if_neg rest, if_neg h, if_neg (by simp [h] at rest ⊢; exact rest)]

variable {m : FinMap κ α}

theorem FinMap.mem_keys_iff {k : κ} :
    k ∈ m.keys ↔ ∃ v, m.lookup k = some v := by
  rw [← AList.mem_keys, ← AList.lookup_isSome, Option.isSome_iff_exists]

theorem FinMap.mem_entries_iff {k : κ} {v : α} :
    (⟨k, v⟩ : Sigma fun _ : κ => α) ∈ m.entries ↔ m.lookup k = some v := by
  rw [← Option.mem_def, AList.mem_lookup_iff]

theorem FinMap.entries_eq_nil_iff :
    m.entries = [] ↔ ∀ k, m.lookup k = none := by
  constructor
  · intro h k
    cases hk : m.lookup k with
    | none => rfl
    | some v =>
      have := FinMap.mem_entries_iff.mpr hk
      simp [h] at this
  · intro h
    apply List.eq_nil_iff_forall_not_mem.mpr
    rintro ⟨k, v⟩ hm
    have := FinMap.mem_entries_iff.mp hm
    simp [h k] at this

/-- Two maps are equal when they have as many entries and every entry of the first is in the second. -/
def FinMap.beq [DecidableEq α] (a b : FinMap κ α) : Bool :=
  a.entries.length == b.entries.length && a.entries.all (fun e => b.lookup e.1 == some e.2)

theorem FinMap.entries_subperm_of_lookup {a b : FinMap κ α}
    (h : ∀ k v, a.lookup k = some v → b.lookup k = some v) : a.entries.Subperm b.entries := by
  apply List.subperm_of_subset a.nodupKeys.nodup
  rintro ⟨k, v⟩ hm
  exact FinMap.mem_entries_iff.mpr (h k v (FinMap.mem_entries_iff.mp hm))

theorem FinMap.beq_iff [DecidableEq α] {a b : FinMap κ α} :
    a.beq b = true ↔ ∀ k, a.lookup k = b.lookup k := by
  simp only [FinMap.beq, Bool.and_eq_true, beq_iff_eq, List.all_eq_true]
  constructor
  · rintro ⟨hlen, hall⟩ k
    have hsub : a.entries.Subperm b.entries :=
      FinMap.entries_subperm_of_lookup (fun k v hk => hall ⟨k, v⟩ (FinMap.mem_entries_iff.mpr hk))
    exact AList.perm_lookup (hsub.perm_of_length_le (by omega))
  · intro h
    have hab : a.entries.Subperm b.entries :=
      FinMap.entries_subperm_of_lookup (fun k v hk => (h k).symm.trans hk)
    have hba : b.entries.Subperm a.entries :=
      FinMap.entries_subperm_of_lookup (fun k v hk => (h k).trans hk)
    refine ⟨le_antisymm hab.length_le hba.length_le, ?_⟩
    rintro ⟨k, v⟩ hm
    exact (h k).symm.trans (FinMap.mem_entries_iff.mp hm)

end GasCity
