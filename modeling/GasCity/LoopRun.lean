import GasCity.Interleave
import GasCity.LoopCreate
import GasCity.LoopRecovery

namespace GasCity

/-- The entry points of a loop that has been created. A script is what the condition of the gate or
of the trigger comes to. -/
inductive LoopCall where
  | wispClosed (wispID : String) (script : GateResult)
  | trigger (script : GateResult)
  | iterate
  | approve (username : String)
  | stop (username : String) (script : GateResult)
  | reconcile (script : GateResult)

/-- A call that is cut off after so many writes, or an agent that closes its wisp. -/
inductive LoopEvent where
  | call (call : LoopCall) (writes : Nat)
  | agentCloses (wispID : String)

namespace LoopStore

def delivered (s : LoopStore) : LoopCall → Bool
  | .wispClosed wispID _ => (s.wisps.find wispID).all fun w => decide (w.status = .closed)
  | _ => true

variable (ids : IDSupply)

variable (s : LoopStore)

def handler : LoopCall → Call LoopStore (Option HandlerAction)
  | .wispClosed wispID script => do
    let result ← HandleWispClosed (store ids) s.rootID wispID script
    return some result.action
  | .trigger script => do
    let result ← HandleTrigger (store ids) s.rootID script
    return some result.action
  | .iterate => do
    let result ← IterateHandler (store ids) s.rootID
    return some result.action
  | .approve username => do
    let result ← ApproveHandler (store ids) s.rootID username
    return some result.action
  | .stop username script => do
    let result ← StopHandler (store ids) s.rootID username script
    return some result.action
  | .reconcile script => do
    let _ ← reconcileBead (store ids) s.rootID script
    return none

def during (c : LoopCall) (n : Nat) : LoopStore :=
  (s.handler ids c).cut (exec ids) n s

def writes (c : LoopCall) : List StoreOp := (s.handler ids c).ops (exec ids) s

def happen : LoopEvent → LoopStore
  | .call c n => if s.delivered c then s.during ids c n else s
  | .agentCloses id => if (s.wisps.find id).any (fun w => w.live) then s.closeWisp id else s

def started (rootID : String) (params : CreateParams) (n : Nat) : LoopStore :=
  (CreateHandler params).cut (exec ids) n (blank rootID)

end LoopStore

end GasCity
