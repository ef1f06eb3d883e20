import GasCity.FileReload
import GasCity.Interleave

namespace GasCity

namespace MemStore

def handsOver (m : MemStore) (id : String) (opts : UpdateOpts) : Bool :=
  (m.beads.find id).any (fun b => isOwnershipTransition b.status b.assignee opts)

def transfers (m : MemStore) (id : String) : MemOp → Bool
  | .update i opts _ => i == id && m.handsOver id opts
  | .updateIfMatch i rev opts now =>
    i == id && m.handsOver id opts && (m.UpdateIfMatch i rev opts now).1.isOk
  | .updateIfReadyAndMatch i rev opts now =>
    i == id && m.handsOver id opts && (m.UpdateIfReadyAndMatch i rev opts now).1.isOk
  | .reopen i _ => i == id && (m.beads.find id).any (fun b => b.status == "closed")
  | .releaseIfCurrent i assignee now =>
    i == id && (m.ReleaseIfCurrent i assignee now).1.toOption.getD false
  | _ => false

end MemStore

namespace LegacyOp

def transfers (m : MemStore) (id : String) : LegacyOp → Bool
  | .update i opts _ => i == id && m.handsOver id opts
  | .delete _ => false

def handovers (id : String) : MemStore → List LegacyOp → Nat
  | _, [] => 0
  | m, op :: ops => (if op.transfers m id then 1 else 0) + handovers id (op.step m) ops

end LegacyOp

/-- A write of the current binary, or a rewrite of the file by an older one. -/
inductive FileEvent where
  | sealed (op : MemOp)
  | legacy (ops : List LegacyOp)

/-- The file with the number of each bead's ownership generation. -/
structure FileHistory where
  store : FileStore := {}
  generation : String → Nat := fun _ => 0

namespace FileHistory

variable (s : FileHistory)

def observed : MemStore := s.store.reloadFromDisk

def advance (handovers : String → Nat) (id : String) : Nat :=
  if (s.observed.beads.find id).isSome then s.generation id + handovers id else 0

def next : FileEvent → FileHistory
  | .sealed op =>
    { store := s.store.write op
      generation := s.advance (fun id => if s.observed.transfers id op then 1 else 0) }
  | .legacy ops =>
    { store := s.store.rewrite ops
      generation := s.advance (fun id => LegacyOp.handovers id s.store.legacyLoad ops) }

def run (events : List FileEvent) : FileHistory := events.foldl next s

def opened (idPrefix : String) : FileHistory where
  store := { mem := { idPrefix := idPrefix } }

def Present (id : String) (events : List FileEvent) : Prop :=
  Along next (fun s e => ((s.next e).observed.beads.find id).isSome) s events

/-- From one observation of a bead to a later one its revision does not fall, and its fence is the
same in one ownership generation only. -/
def TokensAdvance (events : List FileEvent) : Prop :=
  ∀ (id : String) (b b' : Bead), s.observed.beads.find id = some b →
    (s.run events).observed.beads.find id = some b' → s.Present id events →
    b.revision ≤ b'.revision ∧
      (b'.claimFence = b.claimFence → (s.run events).generation id = s.generation id)

end FileHistory

namespace FileEvent

def stamps : FileEvent → List Time
  | .sealed (.create _ now) | .sealed (.update _ _ now) | .sealed (.updateIfMatch _ _ _ now)
  | .sealed (.updateIfReadyAndMatch _ _ _ now) | .sealed (.close _ now)
  | .sealed (.closeIfMatch _ _ now) | .sealed (.closeAll _ _ now) | .sealed (.reopen _ now)
  | .sealed (.setMetadata _ _ _ now) | .sealed (.setMetadataBatch _ _ now)
  | .sealed (.releaseIfCurrent _ _ now) | .sealed (.compareAndSetMetadataKey _ _ _ _ now) => [now]
  | .sealed _ => []
  | .legacy ops => ops.filterMap (fun
    | .update _ _ now => some now
    | .delete _ => none)

/-- No counter of a row stands at its last value before a write. An older binary leaves a bead only
when it has never been handed over, it does not hand it over itself, and the bead's revision is no
larger than the floor or than some time stamp of the rows it leaves. -/
def Continues (s : FileHistory) : FileEvent → Prop
  | .sealed _ =>
    ∀ b ∈ s.observed.beads.rows, b.revision ≠ Int64.maxValue ∧ b.claimFence ≠ Int64.maxValue
  | .legacy ops =>
    ∀ id b, s.observed.beads.find id = some b →
      ((s.store.legacyRows ops).beads.find id).isSome →
      b.claimFence = 0 ∧ LegacyOp.handovers id s.store.legacyLoad ops = 0 ∧
        (b.revision ≤ revisionContinuityFloor ∨
          ∃ row ∈ (s.store.legacyRows ops).beads.rows, stampedFrom b.revision row)

end FileEvent

end GasCity
