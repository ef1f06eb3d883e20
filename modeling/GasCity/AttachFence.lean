import Mathlib.Data.List.Sort
import Mathlib.Data.String.Basic
import GasCity.Interleave
import GasCity.KeyedList

namespace GasCity

/-- The fence-pending marker of a sub-DAG root: `"true"`, `"activating"`, `"failed"` or cleared. -/
inductive FenceMarker where
  | unclaimed
  | activating
  | failed
  | cleared
  deriving DecidableEq

/-- A bead of the workflow. `fence` is the marker of a sub-DAG root that carries the idempotency
key; the other beads have none. -/
structure AttachBead where
  id : String
  ref : String
  fence : Option FenceMarker
  moleculeFailed : Bool := false
  deferred : Bool := false
  deriving DecidableEq

namespace AttachBead

def isFailed (b : AttachBead) : Bool := b.moleculeFailed || b.fence == some .failed

def stands (b : AttachBead) (mark : FenceMarker) : Bool := !b.isFailed && b.fence == some mark

end AttachBead

/-- What `Attach` reads and writes: the epoch of the control, the beads of the workflow and the
beads that block the control. -/
structure AttachStore where
  epoch : Nat
  beads : KeyedList AttachBead.id := KeyedList.empty
  edges : List String := []

namespace AttachStore

variable (d : AttachStore)

def candidates : List AttachBead := d.beads.rows.filter fun b => b.fence.isSome

variable (id : String)

def marker : Option (Option FenceMarker) := (d.beads.find id).map AttachBead.fence

def modifyBead (f : AttachBead → AttachBead) (same : ∀ b, (f b).id = b.id) :
    AttachStore :=
  { d with beads := d.beads.modify id f same }

def advance (expected : Nat) : Bool × AttachStore :=
  if d.epoch = expected then (true, { d with epoch := expected + 1 }) else (false, d)

def setMarker (mark : FenceMarker) : AttachStore :=
  d.modifyBead id (fun b => { b with fence := some mark }) fun _ => rfl

def claimAttachCandidate (was becomes : FenceMarker) : Bool × AttachStore :=
  if d.marker id = some (some was) then (true, d.setMarker id becomes) else (false, d)

def markFailed : AttachStore :=
  d.modifyBead id (fun b => { b with moleculeFailed := true }) fun _ => rfl

def activate : AttachStore :=
  d.modifyBead id (fun b => { b with deferred := false }) fun _ => rfl

def create (b : AttachBead) : Option AttachStore :=
  if fresh : b.id ∉ d.beads.keys then some { d with beads := d.beads.push b fresh } else none

def depAdd : AttachStore :=
  if id ∈ d.edges then d else { d with edges := id :: d.edges }

def depRemove : AttachStore := { d with edges := d.edges.erase id }

end AttachStore

inductive ExistingAttach where
  | live (root : String)
  | claimed (root : String)
  | pending (winner : String) (losers : List String)
  | failed
  | absent

def sortedIDs (bs : List AttachBead) : List String :=
  (bs.map AttachBead.id).insertionSort fun x y => x ≤ y

/-- `findExistingAttach` up to its first write: the first live root of the listing, else the
smallest candidate claimed for activation, else the unclaimed candidates by their ids. -/
def findExistingAttach (all : List AttachBead) : ExistingAttach :=
  match all.find? fun b => b.stands .cleared with
  | some b => .live b.id
  | none =>
    match sortedIDs (all.filter fun b => b.stands .activating) with
    | root :: _ => .claimed root
    | [] =>
      match sortedIDs (all.filter fun b => b.stands .unclaimed) with
      | winner :: losers => .pending winner losers
      | [] => if all.any AttachBead.isFailed then .failed else .absent

def ExistingAttach.recovers : ExistingAttach → Bool
  | .pending _ _ => true
  | _ => false

def existingAttachIDMapping (recipe : List String) (root : String) (all : List AttachBead) :
    List String :=
  let found := recipe.tail.filterMap fun ref =>
    (all.find? fun b => !b.moleculeFailed && b.ref == ref).map AttachBead.id
  (root :: found).insertionSort fun x y => x ≤ y

/-- A call of `Attach` between two of its store calls. `owner` tells whether the candidate it
activates is the one it created. -/
inductive AttachCall where
  | idle
  | opened (epoch : Nat)
  | minting (ref : String) (rest : List String)
  | creating (root : String) (ids rest : List String)
  | created (root : String) (ids : List String)
  | attached (root : String) (ids : List String)
  | losing (root : String) (ids : List String)
  | marking (root : String) (ids : List String)
  | recovering (winner : String) (losers : List String)
  | neutralizing (winner loser : String) (rest : List String)
  | detaching (winner loser : String) (rest : List String)
  | mapping (root : String)
  | claiming (root : String) (ids : List String) (owner : Bool)
  | contested (root : String) (ids : List String) (owner : Bool)
  | promoting (root : String) (ids : List String) (owner : Bool)
  | updating (root id : String) (ids : List String) (owner : Bool)
  | rereading (root : String) (owner : Bool)
  | adopting (root : String)
  | wiring (root : String)
  | advancing (root : String)
  | bumping (root : String) (again : Bool)
  | rechecking (root : String)
  | finding (root : String)
  | returned (root : String)
  | refused
  deriving DecidableEq

/-- What a processor does next: call `Attach`, take a listing in some order, mint an id, go on with
the call, or crash. -/
inductive AttachChoice where
  | call
  | list (all : List AttachBead)
  | create (id : String)
  | go
  | crash
  deriving DecidableEq

namespace AttachCall

def activated (root : String) (owner : Bool) : AttachCall :=
  if owner then .returned root else .adopting root

def afterLookup (recipe : List String) (expected epoch : Nat) : ExistingAttach → AttachCall
  | .live root => .adopting root
  | .claimed root => .mapping root
  | .pending winner losers => .recovering winner losers
  | .failed => .refused
  | .absent =>
    if epoch = expected then
      match recipe with
      | [] => .refused
      | ref :: rest => .minting ref rest
    else .refused

def step (recipe : List String) (expected : Nat) (c : AttachChoice) (d : AttachStore)
    (call : AttachCall) : AttachStore × AttachCall :=
  if c = .crash then (d, .idle) else
  match call with
  | .idle | .returned _ | .refused => (d, if c = .call then .opened d.epoch else call)
  | .opened epoch =>
    match c with
    | .list all =>
      if all.Perm d.candidates then
        (d, afterLookup recipe expected epoch (findExistingAttach all))
      else (d, call)
    | _ => (d, call)
  | .minting ref rest =>
    match c with
    | .create id =>
      match d.create { id, ref, fence := some .unclaimed, deferred := true } with
      | some d' => (d', .creating id [id] rest)
      | none => (d, call)
    | _ => (d, call)
  | .creating root ids [] => (d, .created root ids)
  | .creating root ids (ref :: rest) =>
    match c with
    | .create id =>
      match d.create { id, ref, fence := none, deferred := true } with
      | some d' => (d', .creating root (id :: ids) rest)
      | none => (d, call)
    | _ => (d, call)
  | .created root ids => (d.depAdd root, .attached root ids)
  | .attached root ids =>
    match d.advance expected with
    | (true, d') => (d', .claiming root (ids.insertionSort fun x y => x ≤ y) true)
    | (false, d') => (d', .losing root ids)
  | .losing root ids =>
    match d.claimAttachCandidate root .unclaimed .failed with
    | (true, d') => (d', .marking root ids)
    | (false, d') => (d', .refused)
  | .marking root [] => (d.depRemove root, .refused)
  | .marking root (id :: ids) => (d.markFailed id, .marking root ids)
  | .recovering winner [] => (d, .mapping winner)
  | .recovering winner (loser :: rest) =>
    match d.claimAttachCandidate loser .unclaimed .failed with
    | (true, d') => (d', .neutralizing winner loser rest)
    | (false, d') => (d', .refused)
  | .neutralizing winner loser rest => (d.markFailed loser, .detaching winner loser rest)
  | .detaching winner loser rest => (d.depRemove loser, .recovering winner rest)
  | .mapping root =>
    match c with
    | .list all =>
      if all.Perm d.beads.rows then
        (d, .claiming root (existingAttachIDMapping recipe root all) false)
      else (d, call)
    | _ => (d, call)
  | .claiming root ids owner =>
    match d.claimAttachCandidate root .unclaimed .activating with
    | (true, d') => (d', .promoting root ids owner)
    | (false, d') => (d', .contested root ids owner)
  | .contested root ids owner =>
    match d.marker root with
    | some (some .cleared) => (d, activated root owner)
    | some (some .activating) => (d, .promoting root ids owner)
    | _ => (d, .refused)
  | .promoting root [] owner =>
    match d.claimAttachCandidate root .activating .cleared with
    | (true, d') => (d', activated root owner)
    | (false, d') => (d', .rereading root owner)
  | .promoting root (id :: ids) owner =>
    match d.beads.find id with
    | none => (d, .refused)
    | some b => (d, if b.deferred then .updating root id ids owner else .promoting root ids owner)
  | .updating root id ids owner => (d.activate id, .promoting root ids owner)
  | .rereading root owner =>
    if d.marker root = some (some .cleared) then (d, activated root owner) else (d, .refused)
  | .adopting root => (d, if root ∈ d.edges then .advancing root else .wiring root)
  | .wiring root => (d.depAdd root, .advancing root)
  | .advancing root => (d, if d.epoch = expected then .bumping root false else .finding root)
  | .bumping root again =>
    match d.advance expected with
    | (true, d') => (d', .finding root)
    | (false, d') => (d', if again then .finding root else .rechecking root)
  | .rechecking root => (d, if d.epoch = expected then .bumping root true else .finding root)
  | .finding root => (d, .returned root)

end AttachCall

/-- Processors that attach one recipe to one control, under one key and one expected epoch. -/
abbrev Attaching := Threads Nat AttachStore AttachCall

namespace Attaching

variable (recipe : List String) (expected : Nat)

def next (s : Attaching) (e : Nat × AttachChoice) : Attaching :=
  s.step (AttachCall.step recipe expected) e

def start (d : AttachStore) : Attaching := ⟨d, fun _ => .idle⟩

end Attaching

end GasCity
