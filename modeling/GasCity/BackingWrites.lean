import GasCity.SingleWriter

namespace GasCity

open List

namespace MemStore

/-- A later state of a store that differs only in the rows and dependencies of some beads, and has
lost no row. -/
structure OnlyTouches (ids : List String) (m m' : MemStore) : Prop where
  rows : ∀ j, j ∉ ids → m'.beads.find j = m.beads.find j
  deps : ∀ j, j ∉ ids → m'.DepList j .down = m.DepList j .down
  stays : ∀ j, (m.beads.find j).isSome → (m'.beads.find j).isSome

structure Wrote (id : String) (row : Bead) (m m' : MemStore) : Prop where
  found : m'.beads.find id = some row
  frame : OnlyTouches [id] m m'

variable {m m' m'' : MemStore} {ids ids' : List String} {id : String} {now : Time}

theorem OnlyTouches.refl (ids : List String) (m : MemStore) : OnlyTouches ids m m :=
  ⟨fun _ _ => rfl, fun _ _ => rfl, fun _ h => h⟩

theorem OnlyTouches.trans (first : OnlyTouches ids m m') (second : OnlyTouches ids m' m'') :
    OnlyTouches ids m m'' where
  rows j other := (second.rows j other).trans (first.rows j other)
  deps j other := (second.deps j other).trans (first.deps j other)
  stays j held := second.stays j (first.stays j held)

theorem OnlyTouches.mono (touches : OnlyTouches ids m m') (sub : ∀ j ∈ ids, j ∈ ids') :
    OnlyTouches ids' m m' where
  rows j other := touches.rows j fun mem => other (sub j mem)
  deps j other := touches.deps j fun mem => other (sub j mem)
  stays := touches.stays

theorem wrote_modify {row : Bead} (found : m.beads.find id = some row) (f : Bead → Bead)
    (same : ∀ b, (f b).id = b.id) :
    Wrote id (f row) m { m with beads := m.beads.modify id f same } := by
  have written : ∀ j, (m.beads.modify id f same).find j =
      if j = id then (m.beads.find j).map f else m.beads.find j := m.beads.find_modify id f same
  refine ⟨?_, ⟨?_, fun _ _ => rfl, ?_⟩⟩
  · have own := written id
    rw [if_pos rfl, found] at own
    exact own
  · intro j other
    have stands := written j
    rw [if_neg fun same => other (mem_singleton.mpr same)] at stands
    exact stands
  · intro j held
    have here := written j
    rw [here]
    split
    next => rw [Option.isSome_map]; exact held
    next => exact held

theorem wrote_same {row : Bead} (found : m.beads.find id = some row) : Wrote id row m m :=
  ⟨found, OnlyTouches.refl [id] m⟩

theorem depList_needs {needs : List String} {j : String} (other : j ≠ id) :
    (m.deps ++ needs.map (depFromNeed id)).filter (fun d => d.issueID == j) =
      m.deps.filter (fun d => d.issueID == j) := by
  have foreign : (needs.map (depFromNeed id)).filter (fun d => d.issueID == j) = [] := by
    rw [filter_eq_nil_iff]
    intro d mem
    obtain ⟨need, _, rfl⟩ := mem_map.mp mem
    have owner : (depFromNeed id need).issueID = id := by
      unfold depFromNeed
      split
      next => split <;> rfl
      next => rfl
    simpa [owner] using other.symm
  rw [filter_append, foreign, append_nil]

theorem insertLocked_wrote {stored created : Bead} {seq : Int64}
    (ok : m.insertLocked stored seq = (.ok created, m')) :
    created = stored ∧ Wrote stored.id stored m m' := by
  unfold insertLocked at ok
  split at ok
  next => cases ok
  next fresh =>
    obtain ⟨same, moved⟩ := Prod.mk.inj ok
    have same : stored = created := Except.ok.inj same
    subst same moved
    have pushed := m.beads.find_push stored fresh
    refine ⟨rfl, ?_, ?_, ?_, ?_⟩
    · rw [pushed, if_pos rfl]
    · intro j other
      rw [pushed, if_neg fun same => other (mem_singleton.mpr same)]
    · intro j other
      exact depList_needs fun same => other (mem_singleton.mpr same)
    · intro j held
      rw [pushed]
      split
      next => rfl
      next => exact held

theorem candidate_ne_empty (pre : String) (seq : Int64) : candidate pre seq ≠ "" := by
  intro empty
  have length := congrArg String.length empty
  have dash : "-".length = 1 := rfl
  simp only [candidate, String.length_append, dash, String.length_empty] at length
  omega

theorem mintLoop_ne_empty (pre : String) (fuel : Nat) (seq : Int64) :
    (m.mintLoop pre fuel seq).1 ≠ "" := by
  induction fuel generalizing seq with
  | zero => exact candidate_ne_empty pre (seq + 1)
  | succ fuel ih =>
    unfold mintLoop
    split
    next => exact candidate_ne_empty pre (seq + 1)
    next => exact ih (seq + 1)

theorem create_wrote {b created : Bead} (ok : m.Create b now = (.ok created, m')) :
    created.id ≠ "" ∧ Wrote created.id created m m' := by
  unfold Create createLocked at ok
  dsimp only at ok
  split at ok
  next explicit =>
    obtain ⟨rfl, wrote⟩ := insertLocked_wrote ok
    exact ⟨explicit.2, wrote⟩
  next =>
    obtain ⟨rfl, wrote⟩ := insertLocked_wrote ok
    exact ⟨mintLoop_ne_empty _ _ _, wrote⟩

variable {u : Unit}

theorem wrote_of_ok {e : MemError} {f : Bead → Bead} (keeps : ∀ b, (f b).id = b.id)
    (ok : (if (m.beads.find id).isNone then (.error e, m)
      else (.ok u, { m with beads := m.beads.modify id f keeps })) = (Except.ok u, m')) :
    ∃ row, Wrote id (f row) m m' := by
  cases found : m.beads.find id with
  | none => simp [found] at ok
  | some row =>
    obtain ⟨_, rfl⟩ := Prod.mk.inj ((if_neg (by simp [found])).symm.trans ok)
    exact ⟨row, wrote_modify found f keeps⟩

theorem update_wrote {opts : UpdateOpts} (ok : m.Update id opts now = (.ok u, m')) :
    ∃ row, Wrote id (applyUpdate opts now row) m m' :=
  wrote_of_ok (fun _ => rfl) ok

theorem setMetadata_wrote {key value : String} (ok : m.SetMetadata id key value now = (.ok u, m')) :
    ∃ row, Wrote id row m m' := by
  obtain ⟨row, wrote⟩ := wrote_of_ok (f := writeMetadata (AList.insert key value ∅) now) (fun _ => rfl) ok
  exact ⟨_, wrote⟩

theorem setMetadataBatch_wrote {kvs : StringMap} (some : kvs.entries.length ≠ 0)
    (ok : m.SetMetadataBatch id kvs now = (.ok u, m')) : ∃ row, Wrote id row m m' := by
  unfold SetMetadataBatch at ok
  rw [if_neg some] at ok
  obtain ⟨row, wrote⟩ := wrote_of_ok (f := writeMetadata kvs now) (fun _ => rfl) ok
  exact ⟨_, wrote⟩

theorem releaseIfCurrent_wrote {assignee : String}
    (ok : m.ReleaseIfCurrent id assignee now = (.ok true, m')) : ∃ row, Wrote id row m m' := by
  unfold ReleaseIfCurrent at ok
  split at ok
  next => cases ok
  next row found =>
    split at ok
    next => cases ok
    next =>
      obtain ⟨_, rfl⟩ := Prod.mk.inj ok
      exact ⟨_, wrote_modify found (releaseRow now) fun _ => rfl⟩

theorem close_wrote (ok : m.Close id now = (.ok u, m')) :
    ∃ row, row.status = "closed" ∧ Wrote id row m m' := by
  unfold Close at ok
  split at ok
  next => cases ok
  next row found =>
    split at ok
    next closed =>
      obtain ⟨_, rfl⟩ := Prod.mk.inj ok
      exact ⟨row, closed, wrote_same found⟩
    next =>
      obtain ⟨_, rfl⟩ := Prod.mk.inj ok
      exact ⟨_, rfl, wrote_modify found (closeRow now) fun _ => rfl⟩

theorem reopen_wrote (ok : m.Reopen id now = (.ok u, m')) :
    ∃ row, row.status = "open" ∧ Wrote id row m m' := by
  unfold Reopen at ok
  split at ok
  next => cases ok
  next row found =>
    split at ok
    next already =>
      obtain ⟨_, rfl⟩ := Prod.mk.inj ok
      exact ⟨row, already, wrote_same found⟩
    next =>
      obtain ⟨_, rfl⟩ := Prod.mk.inj ok
      exact ⟨_, rfl, wrote_modify found (reopenRow now) fun _ => rfl⟩

theorem reopen_deps {j : String} (ok : m.Reopen id now = (.ok u, m')) :
    m'.DepList j .down = m.DepList j .down := by
  unfold Reopen at ok
  split at ok
  next => cases ok
  next =>
    split at ok
    all_goals
      obtain ⟨_, rfl⟩ := Prod.mk.inj ok
      rfl

theorem depWrite_touches (m : MemStore) (w : CachingStore.DepWrite) :
    OnlyTouches [w.issueID] m (depBacking.write w m) := by
  have beads : (depBacking.write w m).beads = m.beads := by cases w <;> rfl
  refine ⟨fun j _ => by rw [beads], ?_, fun j held => by rw [beads]; exact held⟩
  intro j other
  exact depBacking.depList_write fun same => other (mem_singleton.mpr same)

end MemStore

namespace TxOp

open MemStore

variable {m m' : MemStore} {now : Time}

theorem map_eq_ok {α β ε : Type} {f : α → β} {x : Except ε α} {b : β} (ok : x.map f = .ok b) :
    ∃ a, x = .ok a ∧ f a = b := by
  cases x with
  | error err => cases ok
  | ok a => exact ⟨a, rfl, Except.ok.inj ok⟩

theorem write_wrote {op : TxOp} {id : String} (named : op.Named)
    (ok : op.write now m = (.ok id, m')) :
    (id = "" ∧ m' = m) ∨ (id ≠ "" ∧ ∃ row, Wrote id row m m') := by
  cases op with
  | create b =>
    obtain ⟨created, moved⟩ := Prod.mk.inj ok
    obtain ⟨row, stored, rfl⟩ := map_eq_ok created
    obtain ⟨nonempty, wrote⟩ := create_wrote (Prod.ext stored moved)
    exact .inr ⟨nonempty, row, wrote⟩
  | update j opts =>
    obtain ⟨updated, moved⟩ := Prod.mk.inj ok
    obtain ⟨u, stored, rfl⟩ := map_eq_ok updated
    obtain ⟨row, wrote⟩ := update_wrote (Prod.ext stored moved)
    exact .inr ⟨named, _, wrote⟩
  | setMetadataBatch j kvs =>
    rw [write] at ok
    split at ok
    next =>
      obtain ⟨none, moved⟩ := Prod.mk.inj ok
      exact .inl ⟨(Except.ok.inj none).symm, moved.symm⟩
    next some =>
      obtain ⟨set, moved⟩ := Prod.mk.inj ok
      obtain ⟨u, stored, rfl⟩ := map_eq_ok set
      obtain ⟨row, wrote⟩ := setMetadataBatch_wrote some (Prod.ext stored moved)
      exact .inr ⟨named, row, wrote⟩
  | close j =>
    obtain ⟨closed, moved⟩ := Prod.mk.inj ok
    obtain ⟨u, stored, rfl⟩ := map_eq_ok closed
    obtain ⟨row, _, wrote⟩ := close_wrote (Prod.ext stored moved)
    exact .inr ⟨named, row, wrote⟩

theorem mem_touch {t : TxTouched} {id : String} (nonempty : id ≠ "") (j : String) :
    j ∈ (t.touch id).ids ↔ j ∈ t.ids ∨ j = id := by
  unfold TxTouched.touch
  split
  next known =>
    have held : id ∈ t.ids := known.resolve_left nonempty
    constructor
    · exact .inl
    · rintro (mem | rfl)
      · exact mem
      · exact held
  next => simp

theorem runSequentialTx_touches {ops : List TxOp} {start : MemStore} {t t' : TxTouched}
    (named : ∀ op ∈ ops, op.Named) (ok : runSequentialTx now ops m t = (.ok t', m'))
    (before : OnlyTouches t.ids start m) (held : ∀ j ∈ t.ids, (m.beads.find j).isSome) :
    OnlyTouches t'.ids start m' ∧ ∀ j ∈ t'.ids, (m'.beads.find j).isSome := by
  induction ops generalizing m t with
  | nil =>
    obtain ⟨same, moved⟩ := Prod.mk.inj ok
    have same : t = t' := Except.ok.inj same
    subst same moved
    exact ⟨before, held⟩
  | cons op ops ih =>
    rw [forall_mem_cons] at named
    rw [runSequentialTx] at ok
    split at ok
    next id m₁ written =>
      rcases write_wrote named.1 written with ⟨rfl, rfl⟩ | ⟨nonempty, row, wrote⟩
      · have untouched : t.touch "" = t := if_pos (.inl rfl)
        rw [untouched] at ok
        exact ih named.2 ok before held
      · have touched := fun j => mem_touch (t := t) nonempty j
        refine ih named.2 ok ?_ ?_
        · have wider : OnlyTouches (t.touch id).ids start m :=
            before.mono fun j mem => (touched j).mpr (.inl mem)
          refine wider.trans (wrote.frame.mono fun j mem => ?_)
          exact (touched j).mpr (.inr (mem_singleton.mp mem))
        · intro j mem
          rcases (touched j).mp mem with mem | rfl
          · exact wrote.frame.stays j (held j mem)
          · rw [wrote.found]
            rfl
    next => cases ok

end TxOp

end GasCity
