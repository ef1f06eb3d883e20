import GasCity.MemConditional
import Mathlib.Data.List.Induction

namespace GasCity.MemStore

def localString (m : MemStore) (id key : String) : String :=
  (((m.localStrings.lookup id).getD ∅).lookup key).getD ""

def GetLocalString (m : MemStore) (id key : String) : Except MemError String :=
  if (m.beads.find id).isNone then .error (.notFound "getting local string on" id)
  else .ok (m.localString id key)

/-- Two stores with the same rows, dependencies, counter and settings, and with the same
clone-local strings to read. -/
structure SameState (m m' : MemStore) : Prop where
  beads : m.beads = m'.beads
  deps : m.deps = m'.deps
  seq : m.seq = m'.seq
  settings : m.disableConditionalWrites = m'.disableConditionalWrites ∧
    m.idPrefix = m'.idPrefix ∧ m.honorExplicitIDs = m'.honorExplicitIDs
  strings : ∀ id key, m.localString id key = m'.localString id key

/-- Where the bead comes to exist again after calls that left it absent, it has no string. -/
def Forgets (m : MemStore) (id : String) : Prop :=
  ∀ between, (∀ pre, pre <+: between → (m.run pre).beads.find id = none) →
    ∀ op key value, ((m.run between).step op).GetLocalString id key = .ok value → value = ""

/-- The conditional verbs leave the store that the plain ones leave, and a deleted bead's strings
are not seen again. -/
structure VerbsAgree (m : MemStore) (id : String) (rev : Int64) (opts : UpdateOpts) (now : Time) :
    Prop where
  update : SameState (m.UpdateIfMatch id rev opts now).2 (m.Update id opts now).2
  close : SameState (m.CloseIfMatch id rev now).2 (m.Close id now).2
  delete : SameState (m.DeleteIfMatch id rev).2 (m.Delete id).2
  forgotten : (m.DeleteIfMatch id rev).2.Forgets id ∧ (m.Delete id).2.Forgets id

variable {m : MemStore} {id : String} {rev : Int64} {opts : UpdateOpts} {now : Time} {b : Bead}

theorem SameState.refl (m : MemStore) : SameState m m :=
  ⟨rfl, rfl, rfl, ⟨rfl, rfl, rfl⟩, fun _ _ => rfl⟩

theorem conditional_strings {doing : String} {write : Bead → MemResult Unit}
    (keeps : ∀ b, (write b).2.localStrings = m.localStrings) :
    (m.conditional doing id rev write).2.localStrings = m.localStrings := by
  unfold conditional
  split
  next => rfl
  next =>
    split
    next => rfl
    next b _ =>
      split
      next => rfl
      next => exact keeps b

theorem conditional_of_match {doing : String} {write : Bead → MemResult Unit}
    (enabled : m.disableConditionalWrites = false) (found : m.beads.find id = some b)
    (matching : b.revision = rev) : m.conditional doing id rev write = write b := by
  unfold conditional
  rw [if_neg (by simp [enabled]), found]
  exact if_neg (not_not.mpr matching)

theorem strings_step (absent : m.beads.find id = none) (op : MemOp) :
    (m.step op).localStrings.lookup id = m.localStrings.lookup id ∨
      (m.step op).localStrings.lookup id = none := by
  have same : ∀ {m' : MemStore}, m'.localStrings = m.localStrings →
      m'.localStrings.lookup id = m.localStrings.lookup id ∨ m'.localStrings.lookup id = none :=
    fun same => .inl (by rw [same])
  cases op with
  | setLocalString i key value =>
    show (m.SetLocalString i key value).2.localStrings.lookup id = _ ∨ _
    unfold SetLocalString
    split
    next => exact .inl rfl
    next present =>
      have other : id ≠ i := by
        rintro rfl
        simp [absent] at present
      split
      next =>
        split
        next => exact .inl rfl
        next => simp [other]
      next => simp [other]
  | delete i =>
    show (m.Delete i).2.localStrings.lookup id = _ ∨ (m.Delete i).2.localStrings.lookup id = none
    unfold Delete
    split
    next => exact .inl rfl
    next => by_cases here : id = i <;> simp [here]
  | create b now =>
    refine same ?_
    have inserted : ∀ row seq, (m.insertLocked row seq).2.localStrings = m.localStrings := by
      intro row seq
      unfold insertLocked
      split <;> rfl
    show (m.Create b now).2.localStrings = _
    unfold Create createLocked
    dsimp only
    split <;> exact inserted _ _
  | updateIfMatch i rev opts now =>
    refine same ?_
    show (m.UpdateIfMatch i rev opts now).2.localStrings = _
    unfold UpdateIfMatch
    split
    next => rfl
    next => exact conditional_strings fun _ => rfl
  | updateIfReadyAndMatch i rev opts now =>
    refine same ?_
    show (m.UpdateIfReadyAndMatch i rev opts now).2.localStrings = _
    unfold UpdateIfReadyAndMatch
    split
    next => rfl
    next =>
      refine conditional_strings fun _ => ?_
      split <;> rfl
  | closeIfMatch i rev now =>
    refine same (conditional_strings fun _ => ?_)
    split <;> rfl
  | deleteIfMatch i rev => exact same (conditional_strings fun _ => rfl)
  | update | close | reopen | setMetadata | setMetadataBatch | releaseIfCurrent
  | compareAndSetMetadataKey =>
    refine same ?_
    simp only [step, Update, Close, Reopen, SetMetadata, SetMetadataBatch, ReleaseIfCurrent,
      CompareAndSetMetadataKey]
    repeat' split
    all_goals rfl
  | closeAll | depAdd | depRemove => exact .inl rfl

theorem localString_step (absent : m.beads.find id = none)
    (empty : ∀ key, m.localString id key = "") (op : MemOp) (key : String) :
    (m.step op).localString id key = "" := by
  unfold localString at empty ⊢
  rcases strings_step absent op with same | gone
  · rw [same]
    exact empty key
  · rw [gone]
    rfl

theorem forgets_of_empty (empty : ∀ key, m.localString id key = "") : m.Forgets id := by
  intro between absent op key value read
  have still : ∀ key, (m.run between).localString id key = "" := by
    clear read
    induction between using List.reverseRecOn with
    | nil => exact empty
    | append_singleton between last ih =>
      have before := fun pre (h : pre <+: between) => absent pre (h.trans (List.prefix_append _ _))
      intro key
      rw [run, List.foldl_append]
      exact localString_step (before between (List.prefix_refl _)) (ih before) last key
  unfold GetLocalString at read
  split at read
  next => simp at read
  next =>
    rw [localString_step (absent between (List.prefix_refl _)) still] at read
    exact (Except.ok.inj read).symm

theorem delete_strings (found : m.beads.find id = some b) (key : String) :
    (m.Delete id).2.localString id key = "" := by
  unfold Delete localString
  rw [if_neg (by simp [found])]
  simp

/-- The verbs agree exactly where conditional writes are on and the bead has no clone-local
string. -/
theorem verbs_agree_iff (m : MemStore) (id : String) (rev : Int64) (opts : UpdateOpts) (now : Time)
    (b : Bead) (found : m.beads.find id = some b) (matching : b.revision = rev)
    (accepted : validateConditionalUpdateOpts "conditional update" id opts = none) :
    VerbsAgree m id rev opts now ↔
      m.disableConditionalWrites = false ∧ ∀ key, m.localString id key = "" := by
  have plain : m.Update id opts now = (.ok (), m.applyUpdateLocked id opts now) :=
    if_neg (by simp [found])
  have update : m.UpdateIfMatch id rev opts now = m.conditional "updating bead" id rev
      (fun _ => (.ok (), m.applyUpdateLocked id opts now)) := by
    unfold UpdateIfMatch
    rw [accepted]
  constructor
  · intro agree
    have enabled : m.disableConditionalWrites = false := by
      -- a refused update leaves the revision, the plain one counts it up
      by_contra disabled
      have refused : (m.UpdateIfMatch id rev opts now).2 = m := by
        rw [update]
        unfold conditional
        rw [if_pos (by simpa using disabled)]
      have same := congrArg (fun rows : BeadMap => rows.find id) (refused ▸ agree.update.beads)
      have written : (m.applyUpdateLocked id opts now).beads.find id =
          some (applyUpdate opts now b) := by
        refine (m.beads.find_modify id (applyUpdate opts now) (fun _ => rfl) id).trans ?_
        rw [if_pos rfl, found, Option.map_some]
      rw [plain] at same
      have := congrArg Bead.revision (Option.some.inj (found.symm.trans (same.trans written)))
      simp [applyUpdate, touch] at this
    refine ⟨enabled, fun key => ?_⟩
    have same := agree.delete.strings id key
    rw [delete_strings found] at same
    unfold DeleteIfMatch at same
    rw [conditional_of_match enabled found matching] at same
    exact same
  · rintro ⟨enabled, empty⟩
    have deleted : (m.DeleteIfMatch id rev).2 = { m with beads := m.beads.erase id } := by
      unfold DeleteIfMatch
      rw [conditional_of_match enabled found matching]
    refine ⟨?_, ?_, ?_, ?_, forgets_of_empty (delete_strings found)⟩
    · rw [update, plain, conditional_of_match enabled found matching]
      exact SameState.refl _
    · unfold CloseIfMatch Close
      rw [conditional_of_match enabled found matching, found]
      exact SameState.refl _
    · rw [deleted]
      unfold Delete
      rw [if_neg (by simp [found])]
      refine ⟨rfl, rfl, rfl, ⟨rfl, rfl, rfl⟩, fun i key => ?_⟩
      by_cases here : i = id
      · subst here
        simpa [localString] using empty key
      · simp [localString, here]
    · rw [deleted]
      exact forgets_of_empty empty

theorem verbs_agree_pinned :
    VerbsAgree pinnedStore "gc-1" 1 { title := some "new" } 0 :=
  (verbs_agree_iff pinnedStore "gc-1" 1 { title := some "new" } 0 pinnedRow rfl rfl rfl).mpr
    ⟨rfl, fun _ => rfl⟩

/-- A bead deleted at its revision and created again under its id has the old string. -/
theorem deleteIfMatch_keeps_strings :
    ∃ (m : MemStore) (b : Bead), m.beads.find "gc-1" = some b ∧ b.revision = 1 ∧
      m.disableConditionalWrites = false ∧
      ¬ SameState (m.DeleteIfMatch "gc-1" 1).2 (m.Delete "gc-1").2 ∧
      ((m.DeleteIfMatch "gc-1" 1).2.Create { id := "gc-1" } 0).2.GetLocalString "gc-1" "k" =
        .ok "v" := by
  refine ⟨{ pinnedStore with localStrings := AList.insert "gc-1" (AList.insert "k" "v" ∅) ∅ },
    pinnedRow, rfl, rfl, rfl, fun same => ?_, by decide⟩
  have := same.strings "gc-1" "k"
  revert this
  decide

end GasCity.MemStore
