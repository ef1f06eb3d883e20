import GasCity.MemStore
import GasCity.Stamp

namespace GasCity

open KeyedList

inductive MemOp where
  | create (b : Bead) (now : Time)
  | update (id : String) (opts : UpdateOpts) (now : Time)
  | updateIfMatch (id : String) (expectedRevision : Int64) (opts : UpdateOpts) (now : Time)
  | updateIfReadyAndMatch (id : String) (expectedRevision : Int64) (opts : UpdateOpts) (now : Time)
  | close (id : String) (now : Time)
  | closeIfMatch (id : String) (expectedRevision : Int64) (now : Time)
  | closeAll (ids : List String) (metadata : StringMap) (now : Time)
  | reopen (id : String) (now : Time)
  | setMetadata (id key value : String) (now : Time)
  | setMetadataBatch (id : String) (kvs : StringMap) (now : Time)
  | releaseIfCurrent (id expectedAssignee : String) (now : Time)
  | compareAndSetMetadataKey (id key expected next : String) (now : Time)
  | setLocalString (id key value : String)
  | delete (id : String)
  | deleteIfMatch (id : String) (expectedRevision : Int64)
  | depAdd (issueID dependsOnID depType : String)
  | depRemove (issueID dependsOnID : String)

namespace MemStore

variable (m : MemStore)

def step : MemOp → MemStore
  | .create b now => (m.Create b now).2
  | .update id opts now => (m.Update id opts now).2
  | .updateIfMatch id rev opts now => (m.UpdateIfMatch id rev opts now).2
  | .updateIfReadyAndMatch id rev opts now => (m.UpdateIfReadyAndMatch id rev opts now).2
  | .close id now => (m.Close id now).2
  | .closeIfMatch id rev now => (m.CloseIfMatch id rev now).2
  | .closeAll ids metadata now => (m.CloseAll ids metadata now).2
  | .reopen id now => (m.Reopen id now).2
  | .setMetadata id key value now => (m.SetMetadata id key value now).2
  | .setMetadataBatch id kvs now => (m.SetMetadataBatch id kvs now).2
  | .releaseIfCurrent id assignee now => (m.ReleaseIfCurrent id assignee now).2
  | .compareAndSetMetadataKey id key expected next now =>
    (m.CompareAndSetMetadataKey id key expected next now).2
  | .setLocalString id key value => (m.SetLocalString id key value).2
  | .delete id => (m.Delete id).2
  | .deleteIfMatch id rev => (m.DeleteIfMatch id rev).2
  | .depAdd issueID dependsOnID depType => m.DepAdd issueID dependsOnID depType
  | .depRemove issueID dependsOnID => m.DepRemove issueID dependsOnID

def run (ops : List MemOp) : MemStore := ops.foldl step m

def RowsAdvance (old new : BeadMap) : Prop :=
  ∀ id b, old.find id = some b → new.find id = none ∨ new.find id = some b ∨
    ∃ b', new.find id = some b' ∧ b'.revision = b.revision + 1

theorem RowsAdvance.refl (beads : BeadMap) : RowsAdvance beads beads :=
  fun _ _ found => .inr (.inl found)

theorem RowsAdvance.mapRows (beads : BeadMap) {f : Bead → Bead} (same : ∀ b, (f b).id = b.id)
    (bumps : ∀ b, f b = b ∨ (f b).revision = b.revision + 1) :
    RowsAdvance beads (beads.mapRows f same) := by
  intro id b found
  rw [find_mapRows, found]
  rcases bumps b with stands | bumped
  · exact .inr (.inl (congrArg some stands))
  · exact .inr (.inr ⟨f b, rfl, bumped⟩)

theorem RowsAdvance.modify (beads : BeadMap) (id : String) (f : Bead → Bead)
    (same : ∀ b, (f b).id = b.id) (bumps : ∀ b, (f b).revision = b.revision + 1) :
    RowsAdvance beads (beads.modify id f same) := by
  apply RowsAdvance.mapRows
  intro b
  split
  next => exact .inr (bumps b)
  next => exact .inl rfl

theorem RowsAdvance.erase (beads : BeadMap) (id : String) : RowsAdvance beads (beads.erase id) := by
  intro j b found
  rw [find_erase, found]
  split
  next => exact .inl rfl
  next => exact .inr (.inl rfl)

theorem RowsAdvance.push (beads : BeadMap) (b : Bead) (fresh : b.id ∉ beads.keys) :
    RowsAdvance beads (beads.push b fresh) := by
  intro j old found
  have other : j ≠ b.id := by
    rintro rfl
    exact fresh (mem_keys_iff.mpr ⟨old, found⟩)
  rw [find_push, if_neg other]
  exact .inr (.inl found)

theorem RowsAdvance.insertLocked (m : MemStore) (stored : Bead) (seq : Int64) :
    RowsAdvance m.beads (m.insertLocked stored seq).2.beads := by
  unfold MemStore.insertLocked
  split
  next => exact .refl m.beads
  next fresh => exact RowsAdvance.push m.beads stored fresh

theorem RowsAdvance.conditional {α : Type} (m : MemStore) (doing id : String) (rev : Int64)
    {write : Bead → MemResult α} (writes : ∀ b, RowsAdvance m.beads (write b).2.beads) :
    RowsAdvance m.beads (m.conditional doing id rev write).2.beads := by
  unfold MemStore.conditional
  split
  next => exact .refl m.beads
  next =>
    split
    next => exact .refl m.beads
    next b found =>
      split
      next => exact .refl m.beads
      next => exact writes b

theorem step_advances (op : MemOp) : RowsAdvance m.beads (m.step op).beads := by
  have stands := RowsAdvance.refl m.beads
  have bumps := fun id f same => RowsAdvance.modify m.beads id f same
  have updates : ∀ id opts now, RowsAdvance m.beads (m.applyUpdateLocked id opts now).beads :=
    fun id opts now => bumps id (applyUpdate opts now) (fun _ => rfl) (fun _ => rfl)
  cases op with
  | create b now =>
    show RowsAdvance m.beads (m.createLocked b m.honorExplicitIDs now).2.beads
    unfold createLocked
    dsimp only
    split <;> exact RowsAdvance.insertLocked m _ _
  | updateIfMatch id rev opts now =>
    show RowsAdvance m.beads (m.UpdateIfMatch id rev opts now).2.beads
    unfold UpdateIfMatch
    split
    next => exact stands
    next => exact RowsAdvance.conditional m _ id rev (fun _ => updates id opts now)
  | updateIfReadyAndMatch id rev opts now =>
    show RowsAdvance m.beads (m.UpdateIfReadyAndMatch id rev opts now).2.beads
    unfold UpdateIfReadyAndMatch
    split
    next => exact stands
    next =>
      apply RowsAdvance.conditional
      intro b
      split
      next => exact updates id opts now
      next => exact stands
  | closeIfMatch id rev now =>
    apply RowsAdvance.conditional
    intro b
    split
    next => exact stands
    next => exact bumps id (closeRow now) (fun _ => rfl) (fun _ => rfl)
  | closeAll ids metadata now =>
    refine RowsAdvance.mapRows m.beads (closeAllRow_id ids metadata now) ?_
    intro b
    unfold closeAllRow
    split
    next => exact .inr rfl
    next => exact .inl rfl
  | deleteIfMatch id rev =>
    exact RowsAdvance.conditional m _ id rev (fun _ => RowsAdvance.erase m.beads id)
  | update | close | reopen | setMetadata | setMetadataBatch | releaseIfCurrent
  | compareAndSetMetadataKey | setLocalString | delete =>
    -- each branch leaves the rows, writes one or erases one
    simp only [step, Update, Close, Reopen, SetMetadata, SetMetadataBatch, ReleaseIfCurrent,
      CompareAndSetMetadataKey, SetLocalString, Delete]
    repeat' split
    all_goals first
      | exact stands
      | exact RowsAdvance.erase m.beads _
      | exact updates _ _ _
      | refine bumps _ _ ?_ ?_ <;> exact fun _ => rfl
  | depAdd | depRemove => exact stands

def Recreated (id : String) (ops : List MemOp) : Prop :=
  ∃ pre op post, ops = pre ++ op :: post ∧ (m.run pre).beads.find id = none ∧
    (m.run (pre ++ [op])).beads.find id ≠ none

theorem run_append (pre post : List MemOp) :
    m.run (pre ++ post) = (m.run pre).run post := List.foldl_append

variable {ops : List MemOp}

theorem Recreated.cons {m : MemStore} {id : String} {op : MemOp}
    (later : (m.step op).Recreated id ops) : m.Recreated id (op :: ops) := by
  obtain ⟨pre, op', post, split, absent, present⟩ := later
  exact ⟨op :: pre, op', post, by rw [split]; rfl, absent, present⟩

theorem absent_of_not_recreated {m : MemStore} {id : String} (absent : m.beads.find id = none)
    (once : ¬ m.Recreated id ops) :
    (m.run ops).beads.find id = none := by
  induction ops generalizing m with
  | nil => exact absent
  | cons op ops ih =>
    have next : (m.step op).beads.find id = none := by
      by_contra present
      exact once ⟨[], op, ops, rfl, absent, present⟩
    exact ih next (fun later => once later.cons)

/-- How a bead gets from one row to another: the revision counts the changes in between. -/
abbrev Revised (k : Nat) (b b' : Bead) : Prop := Stamped (· + 1) Bead.revision id k b b'

theorem run_revised {m : MemStore} {id : String} {b b' : Bead} (found : m.beads.find id = some b)
    (after : (m.run ops).beads.find id = some b') (once : ¬ m.Recreated id ops) :
    ∃ k ≤ ops.length, Revised k b b' := by
  induction ops generalizing m b with
  | nil =>
    obtain rfl : b = b' := Option.some.inj (found.symm.trans after)
    exact ⟨0, Nat.le_refl 0, Stamped.refl b⟩
  | cons op ops ih =>
    have later : ¬ (m.step op).Recreated id ops := fun h => once h.cons
    rcases m.step_advances op id b found with gone | stands | ⟨b₁, found₁, bumped⟩
    · have := absent_of_not_recreated gone later
      exact absurd (this.symm.trans after) (by simp)
    · obtain ⟨k, bound, revised⟩ := ih stands after later
      exact ⟨k, Nat.le_succ_of_le bound, revised⟩
    · obtain ⟨k, bound, revised⟩ := ih found₁ after later
      have first : Revised 1 b b₁ := ⟨bumped, fun h => absurd h Nat.one_ne_zero⟩
      have total := first.trans revised
      refine ⟨1 + k, ?_, total⟩
      rw [List.length_cons]
      omega

end MemStore

end GasCity
