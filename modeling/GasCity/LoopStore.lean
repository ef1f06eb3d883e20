import GasCity.CutProgram
import GasCity.LoopMeta

namespace GasCity

open KeyedList List

inductive CloseReason where
  | createRollback
  | retryRollback
  | manualApprove
  | manualSupersede
  | manualStop
  | reconcileDone
  | handlerCleanup
  | handlerRoot
  deriving DecidableEq

structure PourArgs where
  formula : String := ""
  vars : StringMap := ∅
  evaluatePrompt : String := ""
  deriving DecidableEq

inductive StoreOp where
  | setMetadata (id : String) (write : MetaWrite)
  | closeBead (id : String) (reason : CloseReason)
  | deleteBead (id : String)
  | pourWisp (parentID : String) (key : WispKey) (args : PourArgs)
  | pourSpeculativeWisp (parentID : String) (key : WispKey) (args : PourArgs)
  | activateWisp (id : String)
  | createConvergenceBead (title : String)
  deriving DecidableEq

/-- The store interface: its reads, and its writes with the id or the error they reply. `depth`
bounds how deep beads nest. -/
structure ConvergenceStore (σ : Type) where
  GetBead : σ → String → Except StoreError BeadInfo
  GetMetadata : σ → String → Except StoreError LoopMeta
  Children : σ → String → Except StoreError (List BeadInfo)
  FindByIdempotencyKey : σ → WispKey → Except StoreError (Option String)
  depth : σ → Nat
  exec : StoreOp → σ → Except StoreError String × σ

abbrev Call (σ α : Type) := Program σ StoreOp (Except StoreError String) HandlerError α

section Calls

variable {σ α : Type}

variable (doing : String)

def orFail : Except StoreError α → Call σ α
  | .ok a => .ret a
  | .error e => .fail (.wrapped doing (.store e))

def mustGet (op : StoreOp) : Call σ String := .write op (orFail doing)

def must (op : StoreOp) : Call σ Unit :=
  .write op fun reply => orFail doing (reply.map fun _ => ())

def attempt (op : StoreOp) : Call σ Unit := .write op fun _ => .ret ()

def query (q : σ → Except StoreError α) : Call σ α :=
  .read fun s => orFail doing (q s)

def look (q : σ → α) : Call σ α := .read fun s => .ret (q s)

def orThrow : Except HandlerError α → Call σ α
  | .ok a => .ret a
  | .error e => .fail (.wrapped doing e)

def onlyIf (c : Prop) [Decidable c] (p : Call σ Unit) : Call σ Unit := if c then p else .ret ()

def pourOrFind (S : ConvergenceStore σ) (op : StoreOp) (key : WispKey) :
    Call σ (Except StoreError String) :=
  .write op fun reply =>
    match reply with
    | .ok id => .ret (.ok id)
    | .error e => look fun s =>
      match S.FindByIdempotencyKey s key with
      | .ok (some id) => .ok id
      | _ => .error e

end Calls

/-- A convergence wisp of a loop. `live` says that it has been published to the agents. -/
structure Wisp where
  id : String
  status : BeadStatus := .isOpen
  iteration : Nat
  live : Bool := false
  deriving DecidableEq

def Wisp.info (rootID : String) (w : Wisp) : BeadInfo where
  id := w.id
  status := w.status
  parentID := rootID
  idempotencyKey := IdempotencyKey rootID w.iteration

/-- A store with one convergence root and its wisps, in the order they were poured. The id of the
root is known before it is created. -/
structure LoopStore where
  rootID : String
  created : Bool := false
  status : BeadStatus := .inProgress
  metadata : LoopMeta := {}
  wisps : KeyedList (fun w : Wisp => w.id) := empty
  named : ∀ w ∈ wisps.rows, w.id ≠ "" ∧ w.id ≠ rootID
  distinct : (wisps.rows.map (fun w => w.iteration)).Nodup

structure IDSupply where
  mint : List String → String
  fresh : ∀ used, mint used ∉ used

def glue : List String → String
  | [] => "w"
  | id :: ids => id ++ glue ids

theorem length_glue_pos (used : List String) : 0 < (glue used).length := by
  induction used with
  | nil => decide
  | cons id used ih =>
    show 0 < (id ++ glue used).length
    rw [String.length_append]
    omega

theorem length_lt_glue {id : String} {used : List String} (mem : id ∈ used) :
    id.length < (glue used).length := by
  induction used with
  | nil => cases mem
  | cons a used ih =>
    show id.length < (a ++ glue used).length
    rw [String.length_append]
    rcases mem_cons.mp mem with rfl | rest
    · have := length_glue_pos used
      omega
    · have := ih rest
      omega

def IDSupply.glued : IDSupply where
  mint := glue
  fresh := fun _ mem => absurd (length_lt_glue mem) (Nat.lt_irrefl _)

namespace LoopStore

def blank (rootID : String) : LoopStore where
  rootID := rootID
  wisps := empty
  named := fun _ mem => absurd mem (not_mem_nil)
  distinct := nodup_nil

variable (s : LoopStore)

def byIteration : KeyedList (fun w : Wisp => w.iteration) :=
  ⟨s.wisps.rows, s.distinct⟩

def rootInfo : BeadInfo := { id := s.rootID, status := s.status }

variable (id : String)

def GetBead : Except StoreError BeadInfo :=
  if s.created ∧ id = s.rootID then .ok s.rootInfo
  else
    match s.wisps.find id with
    | some w => .ok (w.info s.rootID)
    | none => .error (.notFound id)

def GetMetadata : Except StoreError LoopMeta :=
  if s.created ∧ id = s.rootID then .ok s.metadata else .error (.notFound id)

def Children (parentID : String) : Except StoreError (List BeadInfo) :=
  .ok (if parentID = s.rootID then s.wisps.rows.map (Wisp.info s.rootID) else [])

def keyIteration : WispKey → Option Nat
  | .wisp bead iteration => if bead = s.rootID then iteration else none
  | .other _ => none

def FindByIdempotencyKey (key : WispKey) : Except StoreError (Option String) :=
  .ok ((s.keyIteration key).bind fun n => (s.byIteration.find n).map (fun w => w.id))

def note (w : MetaWrite) : LoopStore := { s with metadata := w.apply s.metadata }

def closeRoot : LoopStore := { s with status := .closed }

def mapWisps (f : Wisp → Wisp) (id : ∀ w, (f w).id = w.id)
    (iteration : ∀ w, (f w).iteration = w.iteration) : LoopStore :=
  { s with
    wisps := s.wisps.mapRows f id
    named := by
      intro w mem
      obtain ⟨v, old, rfl⟩ := mem_map.mp mem
      rw [id]
      exact s.named v old
    distinct := by
      have same : (s.wisps.rows.map f).map (fun w => w.iteration) =
          s.wisps.rows.map (fun w => w.iteration) := by
        rw [map_map]
        exact map_congr_left fun w _ => iteration w
      show ((s.wisps.rows.map f).map (fun w => w.iteration)).Nodup
      rw [same]
      exact s.distinct }

variable (w : Wisp)

def closeOne : Wisp :=
  if w.id = id then { w with status := .closed } else w

def publishOne : Wisp := if w.id = id then { w with live := true } else w

@[simp] theorem closeOne_id : (closeOne id w).id = w.id := by
  unfold closeOne
  split <;> rfl

@[simp] theorem closeOne_iteration : (closeOne id w).iteration = w.iteration := by
  unfold closeOne
  split <;> rfl

@[simp] theorem publishOne_id : (publishOne id w).id = w.id := by
  unfold publishOne
  split <;> rfl

@[simp] theorem publishOne_iteration : (publishOne id w).iteration = w.iteration := by
  unfold publishOne
  split <;> rfl

def closeWisp : LoopStore :=
  s.mapWisps (closeOne id) (closeOne_id id) (closeOne_iteration id)

def publish : LoopStore :=
  s.mapWisps (publishOne id) (publishOne_id id) (publishOne_iteration id)

def drop : LoopStore :=
  { s with
    wisps := s.wisps.erase id
    named := fun w mem => s.named w (mem_of_mem_filter mem)
    distinct := s.distinct.sublist (filter_sublist.map _) }

section Writes

variable (ids : IDSupply)

def mentioned (md : LoopMeta) : List String :=
  [md.activeWisp, md.lastProcessedWisp, md.pendingNextWisp, md.gateOutcomeWisp, md.agentVerdictWisp]

variable (s : LoopStore)

def freshID : String :=
  ids.mint ("" :: s.rootID :: (mentioned s.metadata ++ s.wisps.keys))

theorem freshID_not_mentioned : s.freshID ids ∉ mentioned s.metadata := by
  intro mem
  exact ids.fresh _ (mem_cons_of_mem _ (mem_cons_of_mem _
    (mem_append_left _ mem)))

theorem freshID_spec :
    s.freshID ids ≠ "" ∧ s.freshID ids ≠ s.rootID ∧ s.freshID ids ∉ s.wisps.keys := by
  have fresh := ids.fresh ("" :: s.rootID :: (mentioned s.metadata ++ s.wisps.keys))
  rw [mem_cons, mem_cons, not_or, not_or, mem_append, not_or] at fresh
  exact ⟨fresh.1, fresh.2.1, fresh.2.2.2⟩

def grow (n : Nat) (live : Bool) (free : s.byIteration.find n = none) :
    LoopStore :=
  { s with
    wisps := s.wisps.push { id := s.freshID ids, iteration := n, live := live }
      (s.freshID_spec ids).2.2
    named := by
      intro w mem
      rcases mem_append.mp mem with old | new
      · exact s.named w old
      · rw [mem_singleton.mp new]
        exact ⟨(s.freshID_spec ids).1, (s.freshID_spec ids).2.1⟩
    distinct := (s.byIteration.push { id := s.freshID ids, iteration := n, live := live }
      (find_eq_none_iff.mp free)).nodup }

def pour (n : Nat) (live : Bool) : String × LoopStore :=
  match found : s.byIteration.find n with
  | some w => (w.id, s)
  | none => (s.freshID ids, s.grow ids n live found)

def pourUnder (parentID : String) (key : WispKey) (live : Bool) :
    Except StoreError String × LoopStore :=
  match s.keyIteration key with
  | some n =>
    if s.created ∧ parentID = s.rootID then (.ok (s.pour ids n live).1, (s.pour ids n live).2)
    else (.error (.notFound parentID), s)
  | none => (.error (.failure "not a key of this loop"), s)

def exec : StoreOp → LoopStore → Except StoreError String × LoopStore
  | .setMetadata id w, s =>
    if s.created ∧ id = s.rootID then (.ok "", s.note w) else (.error (.notFound id), s)
  | .closeBead id _, s =>
    if s.created ∧ id = s.rootID then (.ok "", s.closeRoot)
    else if (s.wisps.find id).isSome then (.ok "", s.closeWisp id)
    else (.error (.notFound id), s)
  | .deleteBead id, s =>
    if (s.wisps.find id).isSome then (.ok "", s.drop id) else (.error (.notFound id), s)
  | .pourWisp parentID key _, s => s.pourUnder ids parentID key true
  | .pourSpeculativeWisp parentID key _, s => s.pourUnder ids parentID key false
  | .activateWisp id, s =>
    if (s.wisps.find id).isSome then (.ok "", s.publish id) else (.error (.notFound id), s)
  | .createConvergenceBead _, s =>
    (.ok s.rootID, { s with created := true, status := .inProgress, metadata := {} })

/-- The store as its interface documents it: children come with the closed ones, pours are
idempotent per key. -/
def store : ConvergenceStore LoopStore where
  GetBead := GetBead
  GetMetadata := GetMetadata
  Children := Children
  FindByIdempotencyKey := FindByIdempotencyKey
  depth := fun s => s.wisps.rows.length + 1
  exec := exec ids

end Writes

end LoopStore

end GasCity
