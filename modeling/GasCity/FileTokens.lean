import GasCity.FileHistory

namespace GasCity

open KeyedList

theorem toInt_add_one {t : Int64} (below : t ≠ Int64.maxValue) : (t + 1).toInt = t.toInt + 1 := by
  have high := t.toInt_lt
  have apart : t.toInt ≠ 2 ^ 63 - 1 := fun top => below (Int64.toInt_inj.mp top)
  exact toInt_iterate_of_lt (k := 1) (t := t) (by push_cast; omega)

/-- Every row of the new map is a row of the old one whose fence has moved exactly when the bead was
handed over, or is new and has no fence. -/
def FencesFollow (moves : String → Bool) (old new : BeadMap) : Prop :=
  ∀ id b', new.find id = some b' → (old.find id = none ∧ b'.claimFence = 0) ∨
    ∃ b, old.find id = some b ∧
      b'.claimFence = if moves id then b.claimFence + 1 else b.claimFence

section FencesFollow

variable {moves : String → Bool} {beads : BeadMap}

theorem FencesFollow.refl (still : ∀ id, moves id = false) : FencesFollow moves beads beads := by
  intro id b found
  refine .inr ⟨b, found, ?_⟩
  rw [still id]
  rfl

theorem FencesFollow.mapRows {f : Bead → Bead} (same : ∀ b, (f b).id = b.id)
    (moved : ∀ b, beads.find b.id = some b →
      (f b).claimFence = if moves b.id then b.claimFence + 1 else b.claimFence) :
    FencesFollow moves beads (beads.mapRows f same) := by
  intro id b' found
  rw [find_mapRows] at found
  obtain ⟨b, old, rfl⟩ := Option.map_eq_some_iff.mp found
  have own := key_of_find old
  subst own
  exact .inr ⟨b, old, moved b old⟩

theorem FencesFollow.modify {id : String} (f : Bead → Bead) (same : ∀ b, (f b).id = b.id)
    (moved : ∀ b, beads.find id = some b →
      (f b).claimFence = if moves id then b.claimFence + 1 else b.claimFence)
    (others : ∀ j, j ≠ id → moves j = false) : FencesFollow moves beads (beads.modify id f same) := by
  apply FencesFollow.mapRows
  intro b found
  split
  next own =>
    subst own
    exact moved b found
  next other =>
    rw [others b.id other]
    rfl

theorem FencesFollow.erase (still : ∀ id, moves id = false) (id : String) :
    FencesFollow moves beads (beads.erase id) := by
  intro j b' found
  rw [find_erase] at found
  split at found
  next => simp at found
  next => exact FencesFollow.refl still j b' found

theorem FencesFollow.push (still : ∀ id, moves id = false) {b : Bead} (fresh : b.id ∉ beads.keys)
    (bare : b.claimFence = 0) : FencesFollow moves beads (beads.push b fresh) := by
  intro j b' found
  rw [find_push] at found
  split at found
  next own =>
    subst own
    obtain rfl := Option.some.inj found
    exact .inl ⟨find_eq_none_iff.mpr fresh, bare⟩
  next => exact FencesFollow.refl still j b' found

end FencesFollow

namespace MemStore

variable {m : MemStore}

theorem fences_insertLocked {moves : String → Bool} (still : ∀ id, moves id = false) {stored : Bead}
    (bare : stored.claimFence = 0) (seq : Int64) :
    FencesFollow moves m.beads (m.insertLocked stored seq).2.beads := by
  unfold insertLocked
  split
  next => exact FencesFollow.refl still
  next fresh => exact FencesFollow.push still fresh bare

theorem fences_createLocked {moves : String → Bool} (still : ∀ id, moves id = false) (b : Bead)
    (honorExplicit : Bool) (now : Time) :
    FencesFollow moves m.beads (m.createLocked b honorExplicit now).2.beads := by
  unfold createLocked
  dsimp only
  split <;> exact fences_insertLocked still rfl _

theorem handsOver_of_find {id : String} {b : Bead} (found : m.beads.find id = some b)
    (opts : UpdateOpts) : m.handsOver id opts = isOwnershipTransition b.status b.assignee opts := by
  unfold handsOver
  rw [found]
  rfl

theorem fences_applyUpdateLocked {moves : String → Bool} {id : String} {opts : UpdateOpts}
    (own : moves id = m.handsOver id opts) (others : ∀ j, j ≠ id → moves j = false) (now : Time) :
    FencesFollow moves m.beads (m.applyUpdateLocked id opts now).beads := by
  refine FencesFollow.modify (applyUpdate opts now) (fun _ => rfl) ?_ others
  intro b found
  rw [own, handsOver_of_find found]
  rfl

theorem fences_conditional {moves : String → Bool} {doing id : String} {rev : Int64}
    {write : Bead → MemResult Unit}
    (refused : (m.conditional doing id rev write).1.isOk = false → ∀ j, moves j = false)
    (writes : ∀ b, m.conditional doing id rev write = write b →
      FencesFollow moves m.beads (write b).2.beads) :
    FencesFollow moves m.beads (m.conditional doing id rev write).2.beads := by
  unfold conditional at refused writes ⊢
  split
  next off => exact FencesFollow.refl (refused (by rw [if_pos off]; rfl))
  next on =>
    rw [if_neg on] at refused
    simp only [if_neg on] at writes
    split
    next missing => exact FencesFollow.refl (refused (by rw [missing]; rfl))
    next b found =>
      rw [found] at refused writes
      dsimp only at refused writes
      split
      next stale => exact FencesFollow.refl (refused (by rw [if_pos stale]; rfl))
      next current => exact writes b (if_neg current)

theorem refl_of_own {i : String} {moved : String → Bool} (own : moved i = false) :
    FencesFollow (fun id => i == id && moved id) m.beads m.beads := by
  refine FencesFollow.refl fun id => ?_
  by_cases same : i = id
  · rw [← same, own, Bool.and_false]
  · simp [same]

theorem fences_accepted {i : String} {opts : UpdateOpts} {now : Time} {ok : Bool} (accepted : ok) :
    FencesFollow (fun id => i == id && m.handsOver id opts && ok) m.beads
      (m.applyUpdateLocked i opts now).beads :=
  fences_applyUpdateLocked (by simp [accepted]) (fun j other => by simp [other.symm]) now

theorem step_fences (m : MemStore) (op : MemOp) :
    FencesFollow (fun id => m.transfers id op) m.beads (m.step op).beads := by
  have stands : FencesFollow (fun _ => false) m.beads m.beads := FencesFollow.refl fun _ => rfl
  have writes {i : String} {f : Bead → Bead} (same : ∀ b, (f b).id = b.id)
      (fence : ∀ b, (f b).claimFence = b.claimFence) :
      FencesFollow (fun _ => false) m.beads (m.beads.modify i f same) :=
    FencesFollow.modify f same (fun b _ => fence b) (fun _ _ => rfl)
  have erases {i : String} : FencesFollow (fun _ => false) m.beads (m.beads.erase i) :=
    FencesFollow.erase (fun _ => rfl) i
  cases op with
  | create b now => exact fences_createLocked (fun _ => rfl) b m.honorExplicitIDs now
  | update i opts now =>
    show FencesFollow (fun id => i == id && m.handsOver id opts) m.beads (m.Update i opts now).2.beads
    unfold Update
    split
    next missing =>
      refine refl_of_own ?_
      simp [handsOver, Option.isNone_iff_eq_none.mp missing]
    next => exact fences_applyUpdateLocked (by simp) (fun j other => by simp [other.symm]) now
  | updateIfMatch i rev opts now =>
    show FencesFollow (fun id => i == id && m.handsOver id opts &&
      (m.UpdateIfMatch i rev opts now).1.isOk) m.beads (m.UpdateIfMatch i rev opts now).2.beads
    unfold UpdateIfMatch
    split
    next => exact FencesFollow.refl (fun _ => Bool.and_false _)
    next =>
      refine fences_conditional (fun refused j => by rw [refused, Bool.and_false]) fun _ through => ?_
      rw [through]
      exact fences_accepted rfl
  | updateIfReadyAndMatch i rev opts now =>
    show FencesFollow (fun id => i == id && m.handsOver id opts &&
      (m.UpdateIfReadyAndMatch i rev opts now).1.isOk) m.beads
      (m.UpdateIfReadyAndMatch i rev opts now).2.beads
    unfold UpdateIfReadyAndMatch
    split
    next => exact FencesFollow.refl (fun _ => Bool.and_false _)
    next =>
      refine fences_conditional (fun refused j => by rw [refused, Bool.and_false]) fun _ through => ?_
      rw [through]
      split
      next => exact fences_accepted rfl
      next => exact FencesFollow.refl (fun _ => Bool.and_false _)
  | closeIfMatch i rev now =>
    refine fences_conditional (fun _ _ => rfl) fun b _ => ?_
    split
    next => exact stands
    next => refine writes ?_ ?_ <;> exact fun _ => rfl
  | closeAll ids metadata now =>
    refine FencesFollow.mapRows (closeAllRow_id ids metadata now) ?_
    intro b _
    unfold closeAllRow
    split <;> rfl
  | reopen i now =>
    show FencesFollow (fun id => i == id && (m.beads.find id).any (fun b => b.status == "closed"))
      m.beads (m.Reopen i now).2.beads
    unfold Reopen
    split
    next missing => exact refl_of_own (by simp [missing])
    next b found =>
      split
      next isOpen => exact refl_of_own (by simp [found, isOpen])
      next =>
        refine FencesFollow.modify (reopenRow now) (fun _ => rfl) (fun b' same => ?_)
          fun j other => by simp [other.symm]
        rw [beq_self_eq_true, Bool.true_and, same]
        rfl
  | releaseIfCurrent i assignee now =>
    show FencesFollow (fun id => i == id && (m.ReleaseIfCurrent i assignee now).1.toOption.getD false)
      m.beads (m.ReleaseIfCurrent i assignee now).2.beads
    unfold ReleaseIfCurrent
    split
    next => exact refl_of_own rfl
    next =>
      split
      next => exact refl_of_own rfl
      next =>
        refine FencesFollow.modify (releaseRow now) (fun _ => rfl) (fun b _ => ?_)
          fun j other => by simp [other.symm]
        rw [beq_self_eq_true]
        rfl
  | close | setMetadata | setMetadataBatch | compareAndSetMetadataKey | setLocalString | delete =>
    simp only [transfers, step, Close, SetMetadata, SetMetadataBatch, CompareAndSetMetadataKey,
      SetLocalString, Delete]
    repeat' split
    all_goals first
      | exact stands
      | exact erases
      | refine writes ?_ ?_ <;> exact fun _ => rfl
  | deleteIfMatch i rev => exact fences_conditional (fun _ _ => rfl) (fun _ _ => erases)
  | depAdd | depRemove => exact stands

end MemStore

end GasCity
