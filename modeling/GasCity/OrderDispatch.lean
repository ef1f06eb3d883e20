import GasCity.Interleave

namespace GasCity

open Function

/-- How a store call ends: it is done, it fails without effect, or it takes
effect and fails all the same. -/
inductive CallAnswer where
  | done
  | failed
  | lost
  deriving DecidableEq

def CallAnswer.writes : CallAnswer → Bool
  | .done => true
  | .failed => false
  | .lost => true

/-- The tracking bead of one dispatch. The marker of a trigger environment that
could not be built stays open. -/
inductive TrackingMark where
  | absent
  | inFlight
  | envFailure
  | closed
  deriving DecidableEq

def TrackingMark.isOpen : TrackingMark → Bool
  | .inFlight => true
  | .envFailure => true
  | .absent => false
  | .closed => false

/-- A wisp of the order: its root, whether the root carries the order's label,
and which of its steps are open. In a root-only wisp the root is the work. -/
structure OrderWisp where
  labelled : Bool := false
  rootOpen : Bool := true
  rootOnly : Bool
  steps : List Bool := []

def OrderWisp.live (w : OrderWisp) : Bool := if w.rootOnly then w.rootOpen else w.steps.any id

/-- Where the goroutine of a dispatch stands: before its wisp, with the number
of graph applies tried; while it creates the beads one by one; before the label;
and at the deferred close, with the attempts it has left. -/
inductive DispatchPhase where
  | preparing (applies : Nat)
  | creating (root : Nat)
  | labelling (root : Nat)
  | closing (attempts : Nat)

/-- Where a tick stands with the order: it has read the index and goes through
the open labelled roots it found, with the number of steps read of the first. -/
inductive TickPhase where
  | idle
  | checking (roots : List Nat) (read : Nat)
  deriving DecidableEq

/-- One order of one controller. The tracking beads and the wisps live in one
store, which names beads by number. -/
structure OrderState where
  minted : Nat := 0
  tracking : Nat → TrackingMark := fun _ => .absent
  wisps : Nat → Option OrderWisp := fun _ => none
  dispatches : Nat → Option DispatchPhase := fun _ => none
  tick : TickPhase := .idle
  booting : Bool := false

inductive OrderEvent where
  | index (answer : CallAnswer)
  | notDue
  | triggerEnvFails (answer : CallAnswer)
  | readStep (answer : CallAnswer)
  | launch (answer : CallAnswer)
  | prepareFails (d : Nat)
  | apply (d : Nat) (answer : CallAnswer) (transient rootOnly : Bool) (steps : Nat)
  | createRoot (d : Nat) (answer : CallAnswer) (rootOnly : Bool)
  | createStep (d : Nat) (answer : CallAnswer)
  | wire (d : Nat) (answer : CallAnswer)
  | instantiated (d : Nat)
  | label (d : Nat) (answer : CallAnswer)
  | closeTracking (d : Nat) (answer : CallAnswer)
  | closeStep (root step : Nat)
  | closeRoot (root : Nat)
  | crash
  | sweepClose (d : Nat)
  | boot

def closeVerifyAttempts : Nat := 3

namespace OrderState

variable (s : OrderState)

def hasOpenTracking : Bool := (List.range s.minted).any fun d => (s.tracking d).isOpen

def openRoots : List Nat :=
  (List.range s.minted).filter fun root =>
    (s.wisps root).any fun w => w.labelled && w.rootOpen

variable (answer : CallAnswer)

/-- One list of the open beads serves both gates. A failed read closes the gate. -/
def index : OrderState :=
  if s.booting || s.tick != .idle || answer != .done || s.hasOpenTracking then s
  else { s with tick := .checking s.openRoots 0 }

def triggerEnvFails : OrderState :=
  match s.tick with
  | .idle => s
  | .checking _ _ =>
    if answer.writes then
      { s with minted := s.minted + 1, tick := .idle,
               tracking := update s.tracking s.minted .envFailure }
    else { s with tick := .idle }

/-- The gate looks at the next step of the first root. An open step, a root-only
wisp and a failed read all end the tick. -/
def readStep : OrderState :=
  match s.tick with
  | .idle => s
  | .checking [] _ => s
  | .checking (root :: roots) read =>
    match s.wisps root with
    | none => { s with tick := .checking roots 0 }
    | some w =>
      if w.rootOnly || answer != .done then { s with tick := .idle }
      else match w.steps[read]? with
        | some true => { s with tick := .idle }
        | some false => { s with tick := .checking (root :: roots) (read + 1) }
        | none => { s with tick := .checking roots 0 }

def launch : OrderState :=
  match s.tick with
  | .checking [] _ =>
    let tracked := { s with minted := s.minted + 1, tick := .idle,
                            tracking := update s.tracking s.minted .inFlight }
    match answer with
    | .failed => { s with tick := .idle }
    | .lost => tracked
    | .done =>
      { tracked with dispatches := update s.dispatches s.minted (some (.preparing 0)) }
  | _ => s

variable (d : Nat)

def move (phase : DispatchPhase) : OrderState :=
  { s with dispatches := update s.dispatches d (some phase) }

def leave : OrderState := s.move d (.closing closeVerifyAttempts)

def addWisp (w : OrderWisp) : OrderState :=
  { s with minted := s.minted + 1, wisps := update s.wisps s.minted (some w) }

def modifyWisp (root : Nat) (f : OrderWisp → OrderWisp) : OrderState :=
  { s with wisps := update s.wisps root ((s.wisps root).map f) }

def prepareFails : OrderState :=
  match s.dispatches d with
  | some (.preparing _) => s.leave d
  | _ => s

/-- A graph apply creates the whole wisp. After a transient failure there is one
retry, and then the beads are created one by one. -/
def apply (answer : CallAnswer) (transient rootOnly : Bool) (steps : Nat) : OrderState :=
  match s.dispatches d with
  | some (.preparing applies) =>
    if 2 ≤ applies then s
    else
      let wisp : OrderWisp := { rootOnly, steps := List.replicate steps true }
      let written := if answer.writes then s.addWisp wisp else s
      match answer with
      | .done => written.move d (.labelling s.minted)
      | _ => if transient then written.move d (.preparing (applies + 1)) else written.leave d
  | _ => s

def createRoot (answer : CallAnswer) (rootOnly : Bool) : OrderState :=
  match s.dispatches d with
  | some (.preparing applies) =>
    if applies = 1 then s
    else
      let written := if answer.writes then s.addWisp { rootOnly } else s
      match answer with
      | .done => written.move d (.creating s.minted)
      | _ => written.leave d
  | _ => s

def createStep (answer : CallAnswer) : OrderState :=
  match s.dispatches d with
  | some (.creating root) =>
    let written :=
      if answer.writes then s.modifyWisp root fun w => { w with steps := w.steps ++ [true] } else s
    if answer = .done then written else written.leave d
  | _ => s

/-- Edges, assignees and activation: writes that neither open nor close a step. -/
def wire (answer : CallAnswer) : OrderState :=
  match s.dispatches d with
  | some (.creating _) => if answer = .done then s else s.leave d
  | _ => s

def instantiated : OrderState :=
  match s.dispatches d with
  | some (.creating root) => s.move d (.labelling root)
  | _ => s

/-- The root gets the order's label in a write of its own. The dispatch closes
its tracking bead whether the write succeeds or not. -/
def label (answer : CallAnswer) : OrderState :=
  match s.dispatches d with
  | some (.labelling root) =>
    let written := if answer.writes then s.modifyWisp root fun w => { w with labelled := true } else s
    written.leave d
  | _ => s

def closeMark : OrderState :=
  { s with tracking := update s.tracking d .closed }

def closeTracking (answer : CallAnswer) : OrderState :=
  match s.dispatches d with
  | some (.closing attempts) =>
    let written := if answer.writes then s.closeMark d else s
    if answer = .done || attempts ≤ 1 then
      { written with dispatches := update s.dispatches d none }
    else written.move d (.closing (attempts - 1))
  | _ => s

def closeStep (root step : Nat) : OrderState :=
  s.modifyWisp root fun w => { w with steps := w.steps.set step false }

/-- A root-only wisp is finished by closing its root; the root of a workflow is
closed when none of its steps is open. -/
def closeRoot (root : Nat) : OrderState :=
  s.modifyWisp root fun w =>
    if w.rootOnly || (w.labelled && !w.live) then { w with rootOpen := false } else w

def crash : OrderState :=
  { s with dispatches := fun _ => none, tick := .idle, booting := true }

/-- The sweep of a restarted controller closes a tracking bead that was left
open, except the markers of trigger environments. -/
def sweepClose : OrderState :=
  if s.booting && s.tracking d == .inFlight then s.closeMark d else s

def next : OrderEvent → OrderState
  | .index answer => s.index answer
  | .notDue => { s with tick := .idle }
  | .triggerEnvFails answer => s.triggerEnvFails answer
  | .readStep answer => s.readStep answer
  | .launch answer => s.launch answer
  | .prepareFails d => s.prepareFails d
  | .apply d answer transient rootOnly steps => s.apply d answer transient rootOnly steps
  | .createRoot d answer rootOnly => s.createRoot d answer rootOnly
  | .createStep d answer => s.createStep d answer
  | .wire d answer => s.wire d answer
  | .instantiated d => s.instantiated d
  | .label d answer => s.label d answer
  | .closeTracking d answer => s.closeTracking d answer
  | .closeStep root step => s.closeStep root step
  | .closeRoot root => s.closeRoot root
  | .crash => s.crash
  | .sweepClose d => s.sweepClose d
  | .boot => { s with booting := false }

def Instantiates : OrderEvent → Prop
  | .apply d answer _ _ _ =>
    answer.writes = true ∧ ∃ applies, s.dispatches d = some (.preparing applies) ∧ applies < 2
  | .createRoot d answer _ =>
    answer.writes = true ∧ ∃ applies, s.dispatches d = some (.preparing applies) ∧ applies ≠ 1
  | _ => False

end OrderState

/-- A wisp is instantiated only when no earlier wisp of the order is live. -/
def SingleFlight (events : List OrderEvent) : Prop :=
  Along OrderState.next
    (fun s e => s.Instantiates e → ∀ root w, s.wisps root = some w → w.live = false) {} events

end GasCity
