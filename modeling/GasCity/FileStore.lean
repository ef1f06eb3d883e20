import GasCity.MemRun

namespace GasCity

/-- Nanoseconds since the Unix epoch, which lies 62135596800 seconds after the zero time. -/
def unixNano (t : Time) : Int64 := Int64.ofInt (t - 62135596800000000000)

/-- The file of the store. Its rows come without revision and fence, which stand out of band. -/
structure FileData where
  seq : Int64 := 0
  beads : BeadMap := KeyedList.empty
  deps : List Dep := []
  revisions : FinMap String Int64 := ∅
  revisionsSealed : Bool := false
  fences : FinMap String Int64 := ∅

def onDisk (b : Bead) : Bead := { b with revision := 0, claimFence := 0 }

variable (beads : BeadMap)

def onDiskRows : BeadMap := beads.mapRows onDisk (fun _ => rfl)

def outOfBandItem (counter : Bead → Int64) (m : FinMap String Int64) (b : Bead) :
    FinMap String Int64 :=
  if counter b ≠ 0 then m.insert b.id (counter b) else m

def outOfBand (counter : Bead → Int64) (beads : BeadMap) : FinMap String Int64 :=
  beads.rows.foldl (outOfBandItem counter) ∅

def beadFences : FinMap String Int64 := outOfBand Bead.claimFence beads

def beadRevisions : FinMap String Int64 := outOfBand Bead.revision beads

def applyFence (fences : FinMap String Int64) (b : Bead) : Bead :=
  { b with claimFence := (fences.lookup b.id).getD b.claimFence }

def applyBeadFences (fences : FinMap String Int64) : BeadMap :=
  beads.mapRows (applyFence fences) (fun _ => rfl)

def applyRevision (revs : FinMap String Int64) (b : Bead) : Bead :=
  { b with revision := (revs.lookup b.id).getD b.revision }

def applyBeadRevisions (revs : FinMap String Int64) : BeadMap :=
  beads.mapRows (applyRevision revs) (fun _ => rfl)

def revisionContinuityFloor : Int64 := 1099511627776

variable (seed : Int64)

def laterStamp (t : Time) : Int64 :=
  if t ≠ 0 ∧ seed < unixNano t then unixNano t else seed

def seedRow (b : Bead) : Int64 := laterStamp (laterStamp seed b.updatedAt) b.createdAt

def continuitySeed : Int64 := beads.rows.foldl seedRow revisionContinuityFloor

def raiseRevision (b : Bead) : Bead :=
  { b with revision := if b.revision < seed then seed else b.revision }

def raiseRevisions (beads : BeadMap) : BeadMap :=
  beads.mapRows (raiseRevision seed) (fun _ => rfl)

def applyBeadRevisionsSealed (fd : FileData) : BeadMap :=
  let beads := applyBeadRevisions fd.beads fd.revisions
  if fd.revisionsSealed ∨ fd.beads.rows.length = 0 then beads
  else raiseRevisions (continuitySeed fd.beads) beads

structure FileStore where
  mem : MemStore := {}
  file : Option FileData := none

namespace MemStore

def restoreFrom (m : MemStore) (seq : Int64) (beads : BeadMap) (deps : List Dep) : MemStore :=
  { m with seq := seq, beads := beads, deps := deps }

/-- Whether a write that returns this way is flushed: it goes through and has written. -/
def saves (m : MemStore) : MemOp → Bool
  | .create b now => (m.Create b now).1.isOk
  | .update id opts now => (m.Update id opts now).1.isOk
  | .updateIfMatch id rev opts now => (m.UpdateIfMatch id rev opts now).1.isOk
  | .updateIfReadyAndMatch id rev opts now => (m.UpdateIfReadyAndMatch id rev opts now).1.isOk
  | .close id now => (m.Close id now).1.isOk
  | .closeIfMatch id rev now => (m.CloseIfMatch id rev now).1.isOk
  | .closeAll ids metadata now => decide (0 < (m.CloseAll ids metadata now).1.toOption.getD 0)
  | .reopen id now => (m.Reopen id now).1.isOk
  | .setMetadata id key value now => (m.SetMetadata id key value now).1.isOk
  | .setMetadataBatch id kvs now => (m.SetMetadataBatch id kvs now).1.isOk
  | .releaseIfCurrent id assignee now =>
    (m.ReleaseIfCurrent id assignee now).1.toOption.getD false
  | .compareAndSetMetadataKey id key expected next now =>
    (m.CompareAndSetMetadataKey id key expected next now).1.toOption.getD false
  | .setLocalString _ _ _ => false
  | .delete id => (m.Delete id).1.isOk
  | .deleteIfMatch id rev => (m.DeleteIfMatch id rev).1.isOk
  | .depAdd _ _ _ => true
  | .depRemove _ _ => true

end MemStore

namespace FileStore

/-- A file that is not there yet leaves the state in memory as it is. -/
def reloadFromDisk (s : FileStore) : MemStore :=
  match s.file with
  | none => s.mem
  | some fd =>
    s.mem.restoreFrom fd.seq (applyBeadFences (applyBeadRevisionsSealed fd) fd.fences) fd.deps

def save (m : MemStore) : FileData where
  seq := m.seq
  beads := onDiskRows m.beads
  deps := m.deps
  revisions := beadRevisions m.beads
  revisionsSealed := true
  fences := beadFences m.beads

def write (s : FileStore) (op : MemOp) : FileStore where
  mem := s.reloadFromDisk.step op
  file := if s.reloadFromDisk.saves op then some (save (s.reloadFromDisk.step op)) else s.file

end FileStore

/-- What an older binary does to the rows it has loaded. -/
inductive LegacyOp where
  | update (id : String) (opts : UpdateOpts) (now : Time)
  | delete (id : String)

namespace LegacyOp

def step (m : MemStore) : LegacyOp → MemStore
  | .update id opts now => (m.Update id opts now).2
  | .delete id => (m.Delete id).2

end LegacyOp

namespace FileStore

/-- The rows an older binary loads; it knows neither of the two maps nor the seal. -/
def legacyLoad (s : FileStore) : MemStore :=
  match s.file with
  | none => {}
  | some fd => { seq := fd.seq, beads := fd.beads, deps := fd.deps }

def legacyRows (s : FileStore) (ops : List LegacyOp) : MemStore :=
  ops.foldl LegacyOp.step s.legacyLoad

def legacySave (m : MemStore) : FileData where
  seq := m.seq
  beads := onDiskRows m.beads
  deps := m.deps

def rewrite (s : FileStore) (ops : List LegacyOp) : FileStore :=
  { s with file := some (legacySave (s.legacyRows ops)) }

end FileStore

end GasCity
