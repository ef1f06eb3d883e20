import GasCity.LoopSettled

namespace GasCity

open Program

/-- How a creation goes: it is cut off after so many writes, or one write fails. -/
inductive LoopStart where
  | cut (writes : Nat)
  | failing (e : StoreError) (write : Nat)

def MetaWrite.configures : MetaWrite → Bool
  | .state v => v != .terminated
  | .terminalReason _ | .activeWisp _ => false
  | _ => true

namespace LoopStore

variable {α : Type} {s t u : LoopStore} {w x a : Wisp} {script : GateResult} {ids : IDSupply}
  {op : StoreOp} {id r : String} {params : CreateParams}

section Start

variable (ids : IDSupply) (rootID : String) (params : CreateParams)

def creation : LoopStart → Option (Except HandlerError CreateResult) × LoopStore
  | .cut n => (none, started ids rootID params n)
  | .failing e k =>
    let ended := (CreateHandler params).runFailing (exec ids) (.error e) k (blank rootID)
    (some ended.1, ended.2)

/-- The creation is not cut off before the write that names the first wisp, and neither this write
nor the one after it fails. -/
def SafeStart (start : LoopStart) : Prop :=
  match start with
  | .cut n => ∀ r v, ((CreateHandler params).ops (exec ids) (blank rootID))[n]? ≠
      some (.setMetadata r (.activeWisp v))
  | .failing _ k => ∀ r m, ((CreateHandler params).ops (exec ids) (blank rootID))[k]? =
      some (.setMetadata r m) → (∀ v, m ≠ .activeWisp v) ∧ m ≠ .iteration 1

end Start

structure Unpoured (r : String) (t : LoopStore) : Prop where
  root : t.rootID = r
  created : t.created = true
  running : t.metadata.state ≠ .terminated
  endless : t.metadata.terminalReason = none
  unnamed : t.metadata.activeWisp = ""
  none : t.wisps.rows = []

theorem Unpoured.phase (unpoured : Unpoured r t) : t.Phase :=
  .fresh unpoured.running unpoured.endless unpoured.unnamed unpoured.none

theorem Unpoured.quiet (unpoured : Unpoured r t) : t.Quiet :=
  (allProcessed_of_nil unpoured.none).quiet

theorem Unpoured.note {m : MetaWrite} (unpoured : Unpoured r t)
    (configures : m.configures = true) : Unpoured r (t.note m) := by
  obtain ⟨root, created, running, endless, unnamed, none⟩ := unpoured
  cases m with
  | state v =>
    have goes_on : v ≠ .terminated := by simpa [MetaWrite.configures] using configures
    exact ⟨root, created, goes_on, endless, unnamed, none⟩
  | terminalReason | activeWisp => cases configures
  | _ => exact ⟨root, created, running, endless, unnamed, none⟩

inductive Creating (r : String) (t : LoopStore) : StoreOp → Prop
  | before {op : StoreOp} : Unpoured r t → Creating r t op
  | name (v : String) : Creating r t (.setMetadata r (.activeWisp v))
  | count : t.Phase → Creating r t (.setMetadata r (.iteration 1))

theorem phases_applyWrites {ws : List (MetaWrite × String)} {E : HandlerError → LoopStore → Prop}
    (configures : ∀ w ∈ ws, w.1.configures = true) (unpoured : Unpoured r t) :
    (applyWrites r ws).Holds (exec ids) (Creating r) (fun _ u => Unpoured r u) E t := by
  induction ws generalizing t with
  | nil => exact unpoured
  | cons w ws ih =>
    refine set_then unpoured.root unpoured.created (.before unpoured) ?_
    exact ih (fun v mem => configures v (List.mem_cons_of_mem w mem))
      (unpoured.note (configures w List.mem_cons_self))

theorem Unpoured.begins (active : Unpoured r t) (ids : IDSupply) (state : t.metadata.state = .active) :
    ((t.pour ids 1 true).2.note (.activeWisp (t.pour ids 1 true).1)).Phase := by
  refine (allProcessed_of_nil active.none).begun (numbered_of_nil active.none active.unnamed)
    ?_ (.inl rfl) rfl rfl rfl active.endless ?_ rfl
  · rw [closedCount_of_nil active.none]
  · show (t.pour ids 1 true).2.metadata.state = .active
    rw [(pour_spec ids t 1 true).metadata]
    exact state

theorem phases_populate {tc : TriggerConfig} (unpoured : Unpoured r t) :
    (populate r params tc).Holds (exec ids) (Creating r) (fun _ u => u.Phase)
      (fun _ _ => False) t := by
  have writes : ∀ w ∈ params.metaWrites, w.1.configures = true := by
    unfold CreateParams.metaWrites
    split <;> simp [MetaWrite.configures]
  have vars : ∀ w ∈ params.varWrites, w.1.configures = true := by
    intro w mem
    obtain ⟨kv, _, rfl⟩ := List.mem_map.mp mem
    rfl
  have set : ∀ {m : MetaWrite} {doing : String} {v : LoopStore}, m.configures = true →
      Unpoured r v → (must doing (.setMetadata r m) : Call LoopStore Unit).Holds (exec ids)
        (Creating r) (fun _ u => u = v.note m ∧ Unpoured r u) (fun _ _ => False) v :=
    fun configures here =>
      holds_set here.root here.created (.before here) ⟨rfl, here.note configures⟩
  refine Holds.bind (set rfl unpoured) ?_
  rintro _ t ⟨_, unpoured⟩
  refine Holds.bind (phases_applyWrites writes unpoured) fun _ t unpoured => ?_
  refine Holds.bind (phases_applyWrites vars unpoured) fun _ t unpoured => ?_
  refine holds_ite.mpr ⟨fun _ => ?_, fun _ => ?_⟩
  · refine Holds.bind (set rfl unpoured) ?_
    rintro _ t ⟨_, unpoured⟩
    exact Holds.bind (set rfl unpoured) fun _ _ done => done.2.phase
  · refine Holds.bind (set rfl unpoured) ?_
    rintro _ v ⟨stated, active⟩
    have state : v.metadata.state = .active := by
      rw [stated]
      rfl
    refine holds_bind.mpr (holds_mustGet (exec_pourWisp active.root active.created) (.before active) ?_)
    have poured := pour_spec ids v 1 true
    have root := poured.rootID.trans active.root
    have created := poured.created.trans active.created
    refine set_then root created (.name _) ?_
    have phase := active.begins ids state
    refine set_then root created (.count phase) ?_
    exact phase.neutral rfl

theorem failFast_populate {tc : TriggerConfig} {e : StoreError} :
    (populate r params tc : Call LoopStore CreateResult).FailFast (.error e) := by
  refine failFast_must.bind fun _ => failFast_applyWrites.bind fun _ => ?_
  refine failFast_applyWrites.bind fun _ => FailFast.ite ?_ ?_
  · exact failFast_must.bind fun _ => failFast_must.bind fun _ => trivial
  · refine failFast_must.bind fun _ => failFast_mustGet.bind fun _ => ?_
    exact failFast_must.bind fun _ => failFast_must.bind fun _ => trivial

structure Unused (u : LoopStore) : Prop where
  phase : u.Phase
  quiet : u.Quiet
  numbered : u.Numbered

theorem closeRootBead_unused {cause : HandlerError} (unpoured : Unpoured r t) :
    ((closeRootBead r params cause : Call LoopStore CreateResult).run (exec ids) t).2.Unused := by
  have ended : (closeRootBead r params cause : Call LoopStore CreateResult).Holds (exec ids)
      (fun _ _ => True) (fun _ u => u.Unused) (fun _ u => u.Unused) t := by
    refine holds_bind.mpr (holds_attempt_set unpoured.root unpoured.created trivial ?_)
    have closes : exec ids (.closeBead t.rootID params.closeReason) (t.note (.state .terminated)) =
        (.ok "", (t.note (.state .terminated)).closeRoot) :=
      exec_closeRoot (s := t.note (.state .terminated)) rfl unpoured.created
    refine holds_bind.mpr ⟨trivial, ?_⟩
    rw [← unpoured.root, closes]
    exact ⟨.ended rfl unpoured.quiet, unpoured.quiet,
      numbered_of_nil unpoured.none unpoured.unnamed⟩
  exact ended.run (R := Unused)

/-- A creation whose failed write names no wisp and comes before the pour. -/
def FailsUnused (op : StoreOp) (_ : Except HandlerError CreateResult) (u : LoopStore) : Prop :=
  (∀ r m, op = .setMetadata r m → (∀ v, m ≠ .activeWisp v) ∧ m ≠ .iteration 1) → u.Unused

theorem Creating.failsUnused {cause : HandlerError} (creating : Creating r t op) :
    FailsUnused op
      ((closeRootBead r params cause : Call LoopStore CreateResult).run (exec ids) t).1
      ((closeRootBead r params cause : Call LoopStore CreateResult).run (exec ids) t).2 := by
  intro safe
  cases creating with
  | before unpoured => exact closeRootBead_unused unpoured
  | name v => exact absurd rfl ((safe _ _ rfl).1 v)
  | count phase => exact absurd rfl (safe _ _ rfl).2

theorem unused_blank (rootID : String) : (blank rootID).Unused :=
  ⟨.fresh (by simp [blank]) rfl rfl rfl, (allProcessed_of_nil rfl).quiet, numbered_of_nil rfl rfl⟩

theorem unpoured_created (ids : IDSupply) (rootID title : String) :
    Unpoured rootID (exec ids (.createConvergenceBead title) (blank rootID)).2 :=
  ⟨rfl, rfl, fun ended => LoopState.noConfusion ended, rfl, rfl, rfl⟩

theorem phases_CreateHandler (ids : IDSupply) (rootID : String) (params : CreateParams) :
    (CreateHandler params).Holds (exec ids)
      (fun t op => t.Phase ∨ ∃ r v, op = .setMetadata r (.activeWisp v))
      (fun _ u => u.Phase) (fun _ u => u.Unused) (blank rootID) := by
  have unused := unused_blank rootID
  refine holds_ite.mpr ⟨fun _ => unused, fun _ => ?_⟩
  refine holds_ite.mpr ⟨fun _ => unused, fun _ => ?_⟩
  refine holds_ite.mpr ⟨fun _ => unused, fun _ => ?_⟩
  split
  next => exact unused
  next => exact unused
  next tc _ _ =>
    refine holds_bind.mpr ⟨.inl unused.phase, holds_onError.mpr ?_⟩
    refine (phases_populate (unpoured_created ids rootID _)).mono ?_ (fun _ _ h => h)
      (fun _ _ no => absurd no id)
    intro t op creating
    cases creating with
    | before unpoured => exact .inl unpoured.phase
    | name v => exact .inr ⟨_, v, rfl⟩
    | count phase => exact .inl phase

theorem failing_CreateHandler (ids : IDSupply) (rootID : String) (params : CreateParams)
    (e : StoreError) :
    (CreateHandler params).HoldsFailing (exec ids) (.error e) FailsUnused (blank rootID) := by
  unfold CreateHandler
  split
  next => exact trivial
  next =>
  split
  next => exact trivial
  next =>
  split
  next => exact trivial
  next =>
  split
  next => exact trivial
  next => exact trivial
  next tc _ _ =>
    refine ⟨fun _ => unused_blank rootID, ?_⟩
    exact failFast_populate.holdsFailing (phases_populate (unpoured_created ids rootID _))
      fun t op cause creating => creating.failsUnused

/-- The loop is between its transitions, with its wisps numbered. -/
structure Sound (s : LoopStore) : Prop where
  phase : s.Phase
  numbered : s.Numbered

theorem run_CreateHandler_numbered (ids : IDSupply) (rootID : String) (params : CreateParams) :
    ((CreateHandler params).run (exec ids) (blank rootID)).2.Numbered := by
  have walk : (CreateHandler params).Holds (exec ids) Founding (fun _ _ => True)
      (fun _ _ => True) (blank rootID) := founds_CreateHandler rootID params
  have kept := walk.preserving (I := Numbered)
    (fun t op founding numbered => numbered.found_step founding (exec_effect op t))
    (numbered_of_nil rfl rfl)
  exact (kept.mono (fun _ _ h => h) (fun _ _ both => both.2) (fun _ _ both => both.2)).run

theorem creation_sound (ids : IDSupply) (rootID : String) (params : CreateParams)
    (start : LoopStart) (safe : SafeStart ids rootID params start) :
    (creation ids rootID params start).2.Sound ∧
      ∀ e, (creation ids rootID params start).1 = some (.error e) →
        (creation ids rootID params start).2.Quiet := by
  have walk := phases_CreateHandler ids rootID params
  have ends : ((CreateHandler params).run (exec ids) (blank rootID)).2.Phase ∧
      ∀ e, ((CreateHandler params).run (exec ids) (blank rootID)).1 = .error e →
        ((CreateHandler params).run (exec ids) (blank rootID)).2.Quiet := by
    rcases walk.ends with ⟨a, answer, phase⟩ | ⟨e, _, unused⟩
    · refine ⟨phase, fun e failed => ?_⟩
      rw [answer] at failed
      cases failed
    · exact ⟨unused.phase, fun _ _ => unused.quiet⟩
  cases start with
  | cut n =>
    have numbered : (started ids rootID params n).Numbered := started_numbered rootID params n
    refine ⟨⟨?_, numbered⟩, fun e failed => absurd failed (by simp [creation])⟩
    rcases walk.cut n with ⟨op, here, phase | ⟨r, v, same⟩⟩ | ⟨_, past⟩
    · exact phase
    · rw [same] at here
      exact absurd here (safe r v)
    · show ((CreateHandler params).cut (exec ids) n (blank rootID)).Phase
      rw [past]
      exact ends.1
  | failing e k =>
    rcases (failing_CreateHandler ids rootID params e).run k with ⟨op, here, fails⟩ | same
    · have unused := fails fun r m same => safe r m (same ▸ here)
      exact ⟨⟨unused.phase, unused.numbered⟩, fun _ _ => unused.quiet⟩
    · have numbered := run_CreateHandler_numbered ids rootID params
      unfold creation
      simp only [same]
      exact ⟨⟨ends.1, numbered⟩, fun e failed => ends.2 e (Option.some.inj failed)⟩

def Intact (ids : IDSupply) (s : LoopStore) : LoopEvent → Prop
  | .call c n => ∀ op, (s.writes ids c)[n]? = some op → ¬ Exposed c op
  | .agentCloses _ => True

theorem Phase.careful (phase : s.Phase) {c : LoopCall} {n : Nat} : s.Careful ids (.call c n) :=
  fun _ due _ => (phase.working_of_unprocessed due).2.2.unburned

end LoopStore

def LoopCall.Settles : LoopCall → HandlerAction → Prop
  | .approve _, _ | .stop _ _, _ => True
  | .wispClosed _ _, action => action = .approved ∨ action = .noConvergence
  | _, _ => False

namespace LoopStore

variable {s : LoopStore} {ids : IDSupply}

theorem passes_handler (sound : s.Sound) (ids : IDSupply) {c : LoopCall}
    (delivered : s.delivered c = true) :
    (s.handler ids c).Holds (exec ids) (fun t op => Exposed c op ∨ t.Phase)
      (fun a u => u.Phase ∧ ∀ action, a = some action → c.Settles action → u.Quiet)
      (fun _ u => u.Phase) s := by
  obtain ⟨phase, numbered⟩ := sound
  cases c with
  | wispClosed id script =>
    refine Holds.bind (phases_HandleWispClosed phase ?_) ?_
    · intro w found
      simpa [LoopStore.delivered, found] using delivered
    · rintro res u ⟨phase', quiet⟩
      refine ⟨phase', fun action same settles => quiet ?_⟩
      rw [Option.some.inj same]
      exact settles
  | trigger script =>
    exact Holds.bind (passes_HandleTrigger phase numbered) fun _ _ done =>
      ⟨done, fun _ _ settles => absurd settles id⟩
  | iterate =>
    exact Holds.bind (passes_IterateHandler phase numbered) fun _ _ done =>
      ⟨done, fun _ _ settles => absurd settles id⟩
  | approve username =>
    exact Holds.bind (passes_ApproveHandler username phase) fun _ _ done =>
      ⟨done.1, fun _ _ _ => done.2⟩
  | stop username script =>
    exact Holds.bind (passes_StopHandler username phase) fun _ _ done =>
      ⟨done.1, fun _ _ _ => done.2⟩
  | reconcile script =>
    exact Holds.bind (passes_reconcileBead phase) fun _ _ done =>
      ⟨done, fun _ _ settles => absurd settles id⟩

theorem Sound.happen (s : LoopStore) (e : LoopEvent) (sound : s.Sound) (intact : s.Intact ids e) :
    (s.happen ids e).Sound := by
  cases e with
  | call c n =>
    simp only [LoopStore.happen]
    split
    next delivered =>
      have advanced : Advanced 0 s := ⟨sound.numbered, Nat.zero_le _⟩
      refine ⟨?_, (advanced.during sound.phase.careful delivered).numbered⟩
      have walk := passes_handler sound ids delivered
      rcases walk.cut n with ⟨op, here, exposed | phase⟩ | ⟨_, past⟩
      · exact absurd exposed (intact op here)
      · exact phase
      · show ((s.handler ids c).cut (exec ids) n s).Phase
        rw [past]
        rcases walk.ends with ⟨_, _, done⟩ | ⟨_, _, phase⟩
        · exact done.1
        · exact phase
    next => exact sound
  | agentCloses id =>
    simp only [LoopStore.happen]
    split
    next live =>
      refine ⟨sound.phase.closeWisp ?_, (sound.numbered.mapWisps (closeOne id) (closeOne_id id)
        (closeOne_iteration id) (closeOne_closed id)).1⟩
      rintro a working x mem ahead rfl
      have found : s.wisps.find x.id = some x := KeyedList.find_key_of_mem mem
      rw [found] at live
      exact absurd live (by simp [ahead.hidden])
    next => exact sound

/-- A loop whose creation and whose calls are not cut off where they are exposed: nothing runs when
a creation fails, and nothing runs when a call settles the loop. -/
theorem settled_leaves_no_wisp (ids : IDSupply) (rootID : String) (params : CreateParams)
    (start : LoopStart) (events : List LoopEvent) (safe : SafeStart ids rootID params start)
    (intact : Along (happen ids) (Intact ids) (creation ids rootID params start).2 events) :
    (∀ e, (creation ids rootID params start).1 = some (.error e) →
      (creation ids rootID params start).2.Quiet) ∧
    let s := events.foldl (happen ids) (creation ids rootID params start).2
    ∀ c action, s.delivered c = true →
      ((s.handler ids c).run (exec ids) s).1 = .ok (some action) → c.Settles action →
        ((s.handler ids c).run (exec ids) s).2.Quiet := by
  obtain ⟨first, failed⟩ := creation_sound ids rootID params start safe
  refine ⟨failed, ?_⟩
  intro s c action delivered answer settles
  have sound : s.Sound := intact.invariant (fun s e sound here => Sound.happen s e sound here) first
  rcases (passes_handler sound ids delivered).ends with ⟨a, here, _, quiet⟩ | ⟨e, here, _⟩
  · exact quiet action (Except.ok.inj (here.symm.trans answer)) settles
  · exact absurd (here.symm.trans answer) (by simp)

def unattendedLoop : CreateParams := { formula := "f", target := "agent", maxIterations := 3 }

def triggeredLoop : CreateParams :=
  { formula := "f", target := "agent", maxIterations := 3, trigger := .valid .event,
    triggerCondition := "due.sh" }

def manualHeld : LoopStore :=
  [.agentCloses "rw", .call (.wispClosed "rw" {}) 99].foldl (happen .glued)
    (creation .glued "r" unattendedLoop (.cut 99)).2

theorem approved_leaves_no_wisp :
    ((manualHeld.handler .glued (.approve "op")).run (exec .glued) manualHeld).2.Quiet := by
  have uncut : ((CreateHandler unattendedLoop).ops (exec .glued) (blank "r"))[99]? = none := by
    decide +kernel
  have whole : (([.agentCloses "rw"].foldl (happen .glued)
      (creation .glued "r" unattendedLoop (.cut 99)).2).writes .glued (.wispClosed "rw" {}))[99]? =
        none := by decide +kernel
  refine (settled_leaves_no_wisp .glued "r" unattendedLoop (.cut 99)
    [.agentCloses "rw", .call (.wispClosed "rw" {}) 99] ?_ ⟨trivial, ?_, trivial⟩).2
    (.approve "op") .approved rfl rfl trivial
  · intro r v
    rw [uncut]
    simp
  · intro op here
    exact absurd (whole.symm.trans here) (by simp)

def statusesAfter (s : LoopStore) (c : LoopCall) : Option (Option HandlerAction) × List BeadStatus :=
  let ended := (s.handler .glued c).run (exec .glued) s
  (ended.1.toOption, ended.2.wisps.rows.map fun x => x.status)

/-- A wisp keeps running when the write that names it fails in a creation, when an iteration is cut
off after its pour and then approved, and when a triggered one is and then stopped. -/
theorem settled_leaves_wisp :
    ((creation .glued "r" unattendedLoop (.failing (.failure "disk full") 16)).1.map
        fun res => res.toOption.isNone) = some true ∧
      ((creation .glued "r" unattendedLoop (.failing (.failure "disk full") 16)).2.wisps.rows.map
        fun x => x.status) = [.isOpen] ∧
    statusesAfter (manualHeld.happen .glued (.call .iterate 1)) (.approve "op") =
      (some (some .approved), [.closed, .isOpen]) ∧
    statusesAfter ((creation .glued "r" triggeredLoop (.cut 99)).2.happen .glued
        (.call (.trigger { outcome := some .pass }) 1)) (.stop "op" {}) =
      (some (some .stopped), [.isOpen]) := by
  decide +kernel

end LoopStore

end GasCity
