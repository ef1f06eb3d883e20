import GasCity.ReadySound

namespace GasCity

open CachingStore KeyedList MemStore

variable {fields : RowFields} {c : CachingStore} {m m' : MemStore} {id : String} {now : Time}

/-- The bead is closed, or the row the store returns for it carries all its blocking edges. -/
def FieldsCover (fields : RowFields) (m : MemStore) (id : String) : Prop :=
  ∀ row, m.beads.find id = some row → row.status ≠ "closed" →
    Covers (m.DepList id .down) (depsFromBeadFields (m.returned fields row))

/-- A row to absorb for a stored one, with the dependency fields the store returns. -/
structure Refreshes (fields : RowFields) (m : MemStore) (row fresh : Bead) : Prop where
  id : fresh.id = row.id
  bare : fresh.isBlocked = none
  status : row.status = fresh.status
  deps : depsFromBeadFields fresh = depsFromBeadFields (m.returned fields row)

theorem returnedRow_of_found {row : Bead} (found : m.beads.find id = some row) :
    m.returnedRow fields id = some (m.returned fields row) := by
  rw [returnedRow, found]
  rfl

theorem returnedGet_of_found {row : Bead} (found : m.beads.find id = some row) :
    m.returnedGet fields id = .ok (m.returned fields row) := by
  rw [returnedGet, returnedRow_of_found found]

theorem refreshes_returned (fields : RowFields) (m : MemStore) (row : Bead) :
    Refreshes fields m row (m.returned fields row) :=
  ⟨rfl, rfl, rfl, rfl⟩

theorem refreshes_applyUpdate (fields : RowFields) (m : MemStore) (opts : UpdateOpts) (old : Bead) :
    Refreshes fields m (applyUpdate opts now old)
      (applyUpdateOptsToBead (m.returned fields (applyUpdate opts now old)) opts) := by
  refine ⟨rfl, rfl, ?_, rfl⟩
  show opts.status.getD old.status = opts.status.getD (opts.status.getD old.status)
  cases opts.status <;> rfl

namespace SoundBut

variable {ids : List String} {row : Bead}

theorem absorbFields {fresh : Bead} (sound : SoundBut (id :: ids) c m)
    (found : m.beads.find id = some row) (refreshes : Refreshes fields m row fresh)
    (covers : FieldsCover fields m id) :
    SoundBut ids (c.absorbFreshLocked fresh now (writeOpts .depsFromFields [])) m := by
  have own : fresh.id = id := refreshes.id.trans (key_of_find found)
  subst own
  refine sound.absorb fresh now _ refreshes.bare found refreshes.status fun active => ?_
  show Covers _ (depsFromBeadFields fresh)
  rw [refreshes.deps]
  exact covers row found fun closed => active (refreshes.status.symm.trans closed)

variable (sound : SoundBut [] c m)

include sound

theorem writeFields {fresh : Bead} (wrote : MemStore.Wrote id row m m')
    (refreshes : Refreshes fields m' row fresh) (covers : FieldsCover fields m' id) (now : Time) :
    SoundBut [] ((c.noteLocalMutationLocked [id] now).absorbFreshLocked fresh now
      (writeOpts .depsFromFields [])) m' :=
  ((sound.written wrote.frame).noted [id] now).absorbFields wrote.found refreshes covers

theorem create {b created : Bead}
    (ok : m.Create b now = (.ok created, m')) (covers : FieldsCover fields m' created.id) :
    SoundBut [] (c.absorbAuthoritativeCreated
      ((m'.returnedRow fields created.id).getD created) true now).1 m' := by
  obtain ⟨_, wrote⟩ := create_wrote ok
  rw [returnedRow_of_found wrote.found]
  exact sound.writeFields wrote (refreshes_returned fields m' created) covers now

theorem update {opts : UpdateOpts} {u : Unit}
    (ok : m.Update id opts now = (.ok u, m')) (covers : FieldsCover fields m' id) :
    SoundBut [] (c.updateCommit id opts (m'.returnedGet fields id) now).1 m' := by
  obtain ⟨old, wrote⟩ := update_wrote ok
  have settled := sound.writeFields wrote (refreshes_applyUpdate fields m' opts old) covers now
  rw [returnedGet_of_found wrote.found, updateCommit]
  split
  next => exact settled.clearDependents id
  next => exact settled

theorem setMetadata (wrote : MemStore.Wrote id row m m')
    (covers : FieldsCover fields m' id) (kvs : StringMap) :
    SoundBut [] (c.setMetadataCommit id kvs (m'.returnedRow fields id) now).1 m' := by
  rw [returnedRow_of_found wrote.found]
  exact sound.writeFields wrote (refreshes_returned fields m' row) covers now

theorem release (wrote : MemStore.Wrote id row m m')
    (covers : FieldsCover fields m' id) :
    SoundBut [] (c.releaseCommit id (m'.returnedRow fields id) now).1 m' := by
  have settled := sound.writeFields wrote (refreshes_returned fields m' row) covers now
  rw [returnedRow_of_found wrote.found]
  exact settled.clearDependents id

omit sound

theorem setStatus {status : String} (event : EventType) (sound : SoundBut [] c m)
    (wrote : MemStore.Wrote id row m m') (is : row.status = status)
    (covers : status ≠ "closed" → Covers (m'.DepList id .down) (c.depsOf id)) :
    SoundBut [] (statusCommit status event c id (m'.returnedRow fields id) now).1 m' := by
  have own : row.id = id := key_of_find wrote.found
  subst own
  have noted := (sound.written wrote.frame).noted [row.id] now
  have settled := noted.absorb { m'.returned fields row with status := status } now
    (writeOpts .depsKeepCached []) rfl wrote.found is covers
  rw [returnedRow_of_found wrote.found]
  exact settled.clearDependents row.id

theorem depWrite (sound : SoundBut [] c m) (w : DepWrite)
    (held : (m.beads.find w.issueID).isSome) :
    SoundBut [] (c.depWriteCommit w
      ((depBacking.write w m).returnedWithDeps fields w.issueID) now).1
      (depBacking.write w m) := by
  have frame := m.depWrite_touches w
  generalize depBacking.write w m = m' at frame ⊢
  obtain ⟨row, found⟩ := Option.isSome_iff_exists.mp (frame.stays _ held)
  have own : row.id = w.issueID := key_of_find found
  have noted : SoundBut [row.id] (c.noteLocalMutationLocked [w.issueID] now) m' := by
    rw [own]
    exact (sound.written frame).noted [w.issueID] now
  rw [returnedWithDeps, returnedRow_of_found found]
  rw [← own] at found ⊢
  have settled := noted.absorb (withDeps (m'.returned fields row) (m'.DepList row.id .down)) now
    (writeOpts .depsExplicit (m'.DepList row.id .down)) rfl found rfl fun _ => Covers.refl _
  exact settled.clearOwn row.id

theorem txItem {p : Written} {closed : Bool} (sound : SoundBut (id :: ids) p.1 m)
    (found : m.beads.find id = some row) (covers : FieldsCover fields m id) :
    SoundBut ids (CachingStore.txItem now p ⟨id, closed, m.returnedGet fields id⟩).1 m := by
  have settled : SoundBut ids (p.1.absorbFreshLocked (m.returned fields row) now
      (writeOpts .depsFromFields [])) m :=
    sound.absorbFields found (refreshes_returned fields m row) covers
  rw [CachingStore.txItem, returnedGet_of_found found]
  dsimp only
  split
  next => exact settled.clearDependents id
  next => exact settled

theorem txItems {p : Written} (closed : String → Bool) (sound : SoundBut ids p.1 m)
    (held : ∀ j ∈ ids, (m.beads.find j).isSome) (covers : ∀ j ∈ ids, FieldsCover fields m j) :
    SoundBut [] ((ids.map fun j => (⟨j, closed j, m.returnedGet fields j⟩ : TouchedBead)).foldl
      (CachingStore.txItem now) p).1 m := by
  induction ids generalizing p with
  | nil => exact sound
  | cons j ids ih =>
    rw [List.forall_mem_cons] at held covers
    obtain ⟨row, found⟩ := Option.isSome_iff_exists.mp held.1
    exact ih (sound.txItem found covers.1) held.2 covers.2

theorem tx {ops : List TxOp} {t : TxTouched} (sound : SoundBut [] c m)
    (named : ∀ op ∈ ops, op.Named) (ok : TxOp.runSequentialTx now ops m {} = (.ok t, m'))
    (covers : ∀ j ∈ t.ids, FieldsCover fields m' j) :
    SoundBut [] (c.refreshTxTouchedBeads (CacheOp.touchedBeads fields m' t) now).1 m' := by
  obtain ⟨frame, held⟩ := TxOp.runSequentialTx_touches named ok (MemStore.OnlyTouches.refl [] m)
    fun j none => absurd none List.not_mem_nil
  have touched := sound.written frame
  unfold refreshTxTouchedBeads
  split
  next none =>
    have empty : t.ids = [] := by simpa [CacheOp.touchedBeads] using none
    rw [empty] at touched
    exact touched
  next => exact txItems _ (touched.noted _ now) held covers

end SoundBut

end GasCity
