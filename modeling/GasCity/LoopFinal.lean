import GasCity.CallRules
import GasCity.LoopRun
import GasCity.LoopTable

namespace GasCity.LoopStore

open KeyedList Program

/-- What is left to write of a loop that has ended. -/
def Finishing (root : String) : StoreOp → Prop
  | .closeBead id _ => id = root
  | .setMetadata _ (.terminalActor _) => True
  | _ => False

/-- The end of a loop stays: its state and reason, and its wisps but for their status. -/
structure Stays (s t : LoopStore) : Prop where
  rootID : t.rootID = s.rootID
  state : t.metadata.state = s.metadata.state
  reason : t.metadata.terminalReason = s.metadata.terminalReason
  wisps : t.wisps.rows.map (fun w => { w with status := .isOpen }) =
    s.wisps.rows.map fun w => { w with status := .isOpen }

variable {s t : LoopStore}

theorem Stays.refl (s : LoopStore) : s.Stays s := ⟨rfl, rfl, rfl, rfl⟩

theorem Stays.trans {u : LoopStore} (first : s.Stays t) (next : t.Stays u) : s.Stays u :=
  ⟨next.rootID.trans first.rootID, next.state.trans first.state, next.reason.trans first.reason,
    next.wisps.trans first.wisps⟩

variable (ids : IDSupply)

theorem Stays.write {op : StoreOp} (finishing : Finishing t.rootID op) :
    t.Stays (exec ids op t).2 := by
  unfold Finishing at finishing
  split at finishing
  next id reason =>
    subst finishing
    simp only [exec, find_rootID]
    split <;> exact ⟨rfl, rfl, rfl, rfl⟩
  next =>
    simp only [exec]
    split <;> exact ⟨rfl, rfl, rfl, rfl⟩
  next => exact finishing.elim

/-- Every entry point looks at the state first; the reconciler alone has something to complete. -/
theorem handler_finishing (ended : s.metadata.state = .terminated) (c : LoopCall) :
    (s.handler ids c).Holds (exec ids) (fun _ op => Finishing s.rootID op) (fun _ _ => True)
      (fun _ _ => True) s := by
  cases c
  case reconcile =>
    refine Holds.bind (Q := fun _ _ => True) (holds_onError.mpr ?_) fun _ _ _ => trivial
    refine Holds.bind (Q := fun _ _ => True) (metadata_then (fun _ => trivial) fun _ => ?_)
      fun _ _ _ => trivial
    rw [ended]
    refine Only.holds (B := Finishing s.rootID) ?_ s
    refine only_query.bind fun info => Only.ite (fun _ => only_ret _) fun _ => ?_
    exact (only_onlyIf fun _ => only_must (by exact trivial)).bind
      fun _ => only_then (by exact rfl) (only_ret _)
  all_goals
    refine Holds.bind (Q := fun _ _ => True) (metadata_then (fun _ => trivial) fun _ => ?_)
      fun _ _ _ => trivial
  case wispClosed =>
    rw [if_pos ended]
    refine Only.holds (B := Finishing s.rootID) ?_ s
    exact (only_attempt (by exact rfl)).bind fun _ => only_ret _
  case trigger | iterate =>
    rw [if_pos (by simp [ended])]
    trivial
  case approve | stop =>
    refine holds_else trivial fun _ => ?_
    rw [if_pos (by simp [ended])]
    trivial

theorem stays_happen (ended : s.metadata.state = .terminated) (e : LoopEvent) :
    s.Stays (s.happen ids e) := by
  cases e with
  | call c n =>
    simp only [happen]
    split
    next =>
      refine (handler_finishing ids ended c).keeps (I := s.Stays) (fun t op finishing stays => ?_)
        (.refl s) n
      exact stays.trans (.write ids (by rwa [stays.rootID]))
    next => exact .refl s
  | agentCloses id =>
    simp only [happen]
    split
    next =>
      refine ⟨rfl, rfl, rfl, (List.map_map ..).trans (List.map_congr_left fun w _ => ?_)⟩
      simp only [Function.comp, closeOne]
      split <;> rfl
    next => exact .refl s

/-- A loop that has ended stays so, whatever is called or cut off and whoever closes a wisp: its
reason stands, and no wisp is poured, published or dropped. -/
theorem terminated_is_final (ended : s.metadata.state = .terminated) (events : List LoopEvent) :
    s.Stays (events.foldl (happen ids) s) := by
  have run : s.Stays (events.foldl (happen ids) s) ∧
      (events.foldl (happen ids) s).metadata.state = .terminated := by
    refine List.foldlRecOn (motive := fun t => s.Stays t ∧ t.metadata.state = .terminated) events
      (happen ids) ⟨.refl s, ended⟩ fun t kept e _ => ?_
    have next := stays_happen ids kept.2 e
    exact ⟨kept.1.trans next, next.state.trans kept.2⟩
  exact run.1

/-- A loop that an operator has approved after its first iteration. -/
def approvedLoop : LoopStore :=
  [.agentCloses "rw", .call (.wispClosed "rw" {}) 99, .call (.approve "op") 99].foldl (happen .glued)
    (started .glued "r" { formula := "f", target := "agent", maxIterations := 3 } 99)

theorem terminated_is_final_approved :
    approvedLoop.metadata.terminalReason = some .approved ∧ approvedLoop.wisps.rows.length = 1 ∧
      approvedLoop.Stays
        ([.call .iterate 1, .call (.reconcile {}) 9].foldl (happen .glued) approvedLoop) :=
  ⟨by decide +kernel, by decide +kernel, terminated_is_final _ (by decide +kernel) _⟩

end GasCity.LoopStore
