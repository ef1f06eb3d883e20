import GasCity.MemRun

namespace GasCity

inductive ConditionalWrite where
  | update (opts : UpdateOpts)
  | close
  | delete

namespace MemStore

def conditionalWrite (m : MemStore) (id : String) (expectedRevision : Int64) (now : Time) :
    ConditionalWrite → MemResult Unit
  | .update opts => m.UpdateIfMatch id expectedRevision opts now
  | .close => m.CloseIfMatch id expectedRevision now
  | .delete => m.DeleteIfMatch id expectedRevision

variable {m : MemStore} {id : String} {rev : Int64} {now : Time}

theorem get_eq_ok_iff {b : Bead} : m.Get id = .ok b ↔ m.beads.find id = some b := by
  unfold Get
  cases m.beads.find id with
  | none | some => simp

variable {write : Bead → MemResult Unit}

theorem conditional_ok {doing : String} (succeeds : (m.conditional doing id rev write).1 = .ok ()) :
    ∃ b, m.beads.find id = some b ∧ b.revision = rev := by
  unfold conditional at succeeds
  split at succeeds
  next => simp at succeeds
  next =>
    split at succeeds
    next => simp at succeeds
    next b found =>
      split at succeeds
      next => simp at succeeds
      next matching => exact ⟨b, found, not_not.mp matching⟩

theorem conditionalWrite_ok {w : ConditionalWrite}
    (succeeds : (m.conditionalWrite id rev now w).1 = .ok ()) :
    ∃ b, m.beads.find id = some b ∧ b.revision = rev := by
  cases w with
  | update opts =>
    change (m.UpdateIfMatch id rev opts now).1 = .ok () at succeeds
    unfold UpdateIfMatch at succeeds
    split at succeeds
    next => simp at succeeds
    next => exact conditional_ok succeeds
  | close | delete => exact conditional_ok succeeds

theorem conditional_error {doing : String} (writes : ∀ b, (write b).1 = .ok ()) {err : MemError}
    (fails : (m.conditional doing id rev write).1 = .error err) :
    (m.conditional doing id rev write).2 = m := by
  unfold conditional at fails ⊢
  split
  next => rfl
  next enabled =>
    rw [if_neg enabled] at fails
    split
    next => rfl
    next b found =>
      rw [found] at fails
      dsimp only at fails
      split
      next => rfl
      next matching =>
        rw [if_neg matching, writes b] at fails
        simp at fails

theorem conditionalWrite_error {w : ConditionalWrite} {err : MemError}
    (fails : (m.conditionalWrite id rev now w).1 = .error err) :
    (m.conditionalWrite id rev now w).2 = m := by
  cases w with
  | update opts =>
    change (m.UpdateIfMatch id rev opts now).1 = .error err at fails
    show (m.UpdateIfMatch id rev opts now).2 = m
    unfold UpdateIfMatch at fails ⊢
    split
    next => rfl
    next valid =>
      rw [valid] at fails
      exact conditional_error (fun _ => rfl) fails
  | close =>
    refine conditional_error (fun b => ?_) fails
    split <;> rfl
  | delete => exact conditional_error (fun _ => rfl) fails

theorem untouched_of_same_revision {ops : List MemOp} {b b' : Bead}
    (found : m.beads.find id = some b) (after : (m.run ops).beads.find id = some b')
    (once : ¬ m.Recreated id ops) (short : ops.length < 2 ^ 64)
    (same : b'.revision = b.revision) (pre post : List MemOp) (parts : ops = pre ++ post) :
    (m.run pre).beads.find id = some b := by
  subst parts
  rw [run_append] at after
  have oncePre : ¬ m.Recreated id pre := by
    rintro ⟨p, op, q, rfl, absent, present⟩
    exact once ⟨p, op, q ++ post, by simp, absent, present⟩
  have oncePost : ¬ (m.run pre).Recreated id post := by
    rintro ⟨p, op, q, rfl, absent, present⟩
    refine once ⟨pre ++ p, op, q, by simp, ?_, ?_⟩
    · rw [run_append]
      exact absent
    · rw [List.append_assoc, run_append]
      exact present
  cases middle : (m.run pre).beads.find id with
  | none =>
    have gone := absent_of_not_recreated middle oncePost
    exact absurd (gone.symm.trans after) (by simp)
  | some b₁ =>
    obtain ⟨k, bound, revised⟩ := run_revised found middle oncePre
    obtain ⟨k', bound', revised'⟩ := run_revised middle after oncePost
    rw [List.length_append] at short
    have none : k + k' = 0 := (revised.trans revised').unmoved noCycle_int64 (by omega) same
    have stands : b₁ = b := revised.still (by omega)
    rw [stands]

theorem revision_le_of_run {ops : List MemOp} {b b' : Bead}
    (found : m.beads.find id = some b) (after : (m.run ops).beads.find id = some b')
    (once : ¬ m.Recreated id ops) (room : b.revision.toInt + ops.length < 2 ^ 63) :
    b.revision ≤ b'.revision ∧ (b' ≠ b → b.revision < b'.revision) := by
  obtain ⟨k, bound, revised⟩ := run_revised found after once
  have counted : b'.revision.toInt = b.revision.toInt + k := by
    rw [revised.moved]
    exact toInt_iterate_of_lt (by omega)
  rw [Int64.le_iff_toInt_le, Int64.lt_iff_toInt_lt]
  refine ⟨by omega, ?_⟩
  intro changed
  have moved : k ≠ 0 := fun none => changed (revised.still none)
  omega

/-- Conditional writes lose no update, from the read of a bead to the write, as long as the bead is
not deleted and made anew under its id in between. -/
theorem conditional_writes_lose_no_update (m : MemStore) :
    (∀ (id : String) (b : Bead) (ops : List MemOp) (w : ConditionalWrite) (now : Time),
      m.Get id = .ok b → ¬ m.Recreated id ops → ops.length < 2 ^ 64 →
      ((m.run ops).conditionalWrite id b.revision now w).1 = .ok () →
      ∀ pre post, ops = pre ++ post → (m.run pre).Get id = .ok b) ∧
    (∀ (id : String) (rev : Int64) (w : ConditionalWrite) (now : Time) (err : MemError),
      (m.conditionalWrite id rev now w).1 = .error err →
      (m.conditionalWrite id rev now w).2 = m) ∧
    ∀ (id : String) (b b' : Bead) (ops : List MemOp),
      m.Get id = .ok b → ¬ m.Recreated id ops → b.revision.toInt + ops.length < 2 ^ 63 →
      (m.run ops).Get id = .ok b' →
      b.revision ≤ b'.revision ∧ (b' ≠ b → b.revision < b'.revision) := by
  refine ⟨?_, ?_, ?_⟩
  · intro id b ops w now read once short succeeds pre post parts
    obtain ⟨b', after, same⟩ := conditionalWrite_ok succeeds
    exact get_eq_ok_iff.mpr (untouched_of_same_revision (get_eq_ok_iff.mp read) after once short
      same pre post parts)
  · intro id rev w now err fails
    exact conditionalWrite_error fails
  · intro id b b' ops read once room reread
    exact revision_le_of_run (get_eq_ok_iff.mp read) (get_eq_ok_iff.mp reread) once room

def pinnedRow : Bead := { id := "gc-1", title := "old", status := "open", revision := 1 }

def pinnedStore : MemStore where
  beads := KeyedList.empty.set pinnedRow
  honorExplicitIDs := true

theorem pinnedStore_not_recreated (op : MemOp) : ¬ pinnedStore.Recreated "gc-1" [op] := by
  rintro ⟨pre, op', post, parts, absent, -⟩
  cases pre with
  | nil => cases absent
  | cons first rest => simp at parts

theorem pinnedStore_loses_no_update :
    (pinnedStore.run [.depAdd "gc-1" "gc-2" "blocks"]).Get "gc-1" = .ok pinnedRow ∧
      pinnedRow.revision ≤ (closeRow 5 pinnedRow).revision := by
  obtain ⟨loses, -, counts⟩ := conditional_writes_lose_no_update pinnedStore
  refine ⟨?_, ?_⟩
  · exact loses "gc-1" pinnedRow [.depAdd "gc-1" "gc-2" "blocks"] .close 5 rfl
      (pinnedStore_not_recreated _) (by decide) rfl [.depAdd "gc-1" "gc-2" "blocks"] [] rfl
  · exact (counts "gc-1" pinnedRow (closeRow 5 pinnedRow) [.close "gc-1" 5] rfl
      (pinnedStore_not_recreated _) (by decide) rfl).1

/-- A bead made anew under a pinned id starts again at the first revision, and a revision at the top
of its range wraps around. -/
theorem revision_is_reused :
    (¬ ∀ (m : MemStore) (id : String) (b : Bead) (ops : List MemOp) (w : ConditionalWrite)
        (now : Time), m.Get id = .ok b →
        ((m.run ops).conditionalWrite id b.revision now w).1 = .ok () →
        ∀ pre post, ops = pre ++ post → (m.run pre).Get id = .ok b) ∧
      ¬ ∀ (m : MemStore) (id : String) (b b' : Bead) (op : MemOp), m.Get id = .ok b →
        (m.run [op]).Get id = .ok b' → b.revision ≤ b'.revision := by
  refine ⟨?_, ?_⟩
  · intro loses
    have kept := loses pinnedStore "gc-1" pinnedRow
      [.delete "gc-1", .create { id := "gc-1", title := "new" } 5] .close 7 rfl (by decide)
      [.delete "gc-1", .create { id := "gc-1", title := "new" } 5] [] rfl
    have renamed := get_eq_ok_iff.mp kept
    have titles := congrArg (Option.map Bead.title) renamed
    exact absurd titles (by decide)
  · intro counts
    have wrapped := counts
      { beads := KeyedList.empty.set { pinnedRow with revision := Int64.maxValue } } "gc-1"
      { pinnedRow with revision := Int64.maxValue }
      (closeRow 5 { pinnedRow with revision := Int64.maxValue }) (.close "gc-1" 5) rfl rfl
    cases wrapped

end MemStore

end GasCity
