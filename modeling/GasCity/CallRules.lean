import GasCity.LoopManual

namespace GasCity

variable {α σ : Type} {B : StoreOp → Prop} {S : ConvergenceStore σ} {doing root : String}
  {op : StoreOp}

theorem only_ret (a : α) : (.ret a : Call σ α).Only B := trivial

theorem only_fail (e : HandlerError) : (.fail e : Call σ α).Only B := trivial

theorem only_orFail {reply : Except StoreError α} :
    (orFail doing reply : Call σ α).Only B := by
  cases reply <;> exact trivial

theorem only_orThrow {reply : Except HandlerError α} :
    (orThrow doing reply : Call σ α).Only B := by
  cases reply <;> exact trivial

theorem only_must (allowed : B op) : (must doing op : Call σ Unit).Only B :=
  ⟨allowed, fun _ => only_orFail⟩

theorem only_then {f : Unit → Call σ α} (allowed : B op) (rest : (f ()).Only B) :
    (must doing op >>= f).Only B :=
  (only_must allowed).bind fun _ => rest

theorem only_mustGet (allowed : B op) : (mustGet doing op : Call σ String).Only B :=
  ⟨allowed, fun _ => only_orFail⟩

theorem only_attempt (allowed : B op) : (attempt op : Call σ Unit).Only B :=
  ⟨allowed, fun _ => trivial⟩

theorem only_query {q : σ → Except StoreError α} : (query doing q : Call σ α).Only B :=
  fun _ => only_orFail

theorem only_look {q : σ → α} : (look q : Call σ α).Only B := fun _ => trivial

theorem only_inspect {q : σ → Except HandlerError α} : (inspect q : Call σ α).Only B := by
  unfold inspect
  intro s
  dsimp only
  split <;> exact trivial

theorem only_onlyIf {c : Prop} [Decidable c] {p : Call σ Unit} (inner : c → p.Only B) :
    (onlyIf c p).Only B := Program.Only.ite inner fun _ => trivial

theorem only_pourOrFind {key : WispKey} (allowed : B op) : (pourOrFind S op key).Only B := by
  refine ⟨allowed, fun reply => ?_⟩
  cases reply with
  | ok id => exact trivial
  | error e => exact only_look

variable {ws : List (MetaWrite × String)}

theorem only_applyWrites (allowed : ∀ w ∈ ws, B (.setMetadata root w.1)) :
    (applyWrites root ws : Call σ Unit).Only B := by
  induction ws with
  | nil => exact trivial
  | cons w ws ih =>
    refine (only_must (allowed w List.mem_cons_self)).bind fun _ => ?_
    exact ih fun v mem => allowed v (List.mem_cons_of_mem w mem)

theorem only_commit {pre : Call σ Unit} {marker : String → MetaWrite} {value : String}
    (allowed : ∀ w ∈ ws, B (.setMetadata root w.1)) (before : pre.Only B)
    (mark : B (.setMetadata root (marker value))) :
    (commit root ws pre marker value doing : Call σ Unit).Only B :=
  (only_applyWrites allowed).bind fun _ => before.bind fun _ => only_onlyIf fun _ => only_must mark

section FailFast

variable {e : StoreError}

theorem failFast_orFail {reply : Except StoreError α} :
    (orFail doing reply : Call σ α).FailFast (.error e) := by
  cases reply <;> exact trivial

theorem failFast_must : (must doing op : Call σ Unit).FailFast (.error e) :=
  ⟨⟨_, rfl⟩, fun _ => failFast_orFail⟩

theorem failFast_mustGet : (mustGet doing op : Call σ String).FailFast (.error e) :=
  ⟨⟨_, rfl⟩, fun _ => failFast_orFail⟩

theorem failFast_applyWrites {ws : List (MetaWrite × String)} :
    (applyWrites root ws : Call σ Unit).FailFast (.error e) := by
  induction ws with
  | nil => exact trivial
  | cons w ws ih => exact failFast_must.bind fun _ => ih

end FailFast

end GasCity
