import GasCity.LoopNumbered

namespace GasCity.LoopStore

open Program

variable {α : Type} {s t u : LoopStore} {w x : Wisp} {script : GateResult} {ids : IDSupply}
  {op : StoreOp} {r : String} {params : CreateParams}

inductive Founding (t : LoopStore) : StoreOp → Prop
  | create (title : String) : t.wisps.rows = [] → Founding t (.createConvergenceBead title)
  | orderly {op : StoreOp} : Orderly t op → Founding t op

theorem numbered_of_nil (none : s.wisps.rows = []) (unnamed : s.metadata.activeWisp = "") :
    s.Numbered := by
  have missing : ∀ j, s.wisps.find j = Option.none := by
    intro j
    show s.wisps.rows.find? _ = Option.none
    rw [none]
    rfl
  have absent : ∀ n, s.wispAt n = Option.none := by
    intro n
    show s.wisps.rows.find? _ = Option.none
    rw [none]
    rfl
  refine ⟨⟨0, fun n => ?_⟩, ?_, ?_, .inl unnamed⟩
  · rw [absent]
    simp only [Option.isSome_none, Bool.false_eq_true, false_iff]
    omega
  · intro x mem
    rw [none] at mem
    exact absurd mem List.not_mem_nil
  · intro x found
    rw [missing] at found
    cases found

theorem Numbered.found_step (numbered : t.Numbered) (founding : Founding t op)
    (effect : Effect ids t op u) : u.Numbered := by
  cases founding with
  | orderly orderly => exact (numbered.step orderly effect).1
  | create title none =>
    cases effect with
    | refused => exact numbered
    | create => exact numbered_of_nil none rfl

theorem founds_of_keeps {p : Call LoopStore α} (keeps : Keeps ids p s) :
    p.Holds (exec ids) Founding (fun _ _ => True) (fun _ _ => True) s :=
  keeps.mono (fun _ _ orderly => .orderly orderly) (fun _ _ h => h) (fun _ _ h => h)

theorem keeps_populate {tc : TriggerConfig} (created : s.created = true) :
    Keeps ids (populate s.rootID params tc) s := by
  have writes : ∀ w ∈ params.metaWrites, Harmless s.rootID (.setMetadata s.rootID w.1) := by
    unfold CreateParams.metaWrites
    split <;> simp [Harmless]
  have vars : ∀ w ∈ params.varWrites, Harmless s.rootID (.setMetadata s.rootID w.1) := by
    intro w mem
    obtain ⟨kv, _, rfl⟩ := List.mem_map.mp mem
    exact trivial
  refine keeps_then rfl (only_must trivial) fun _ t kept => ?_
  refine keeps_then kept.rootID (only_applyWrites writes) fun _ u more => ?_
  have kept := kept.trans more
  refine keeps_then kept.rootID (only_applyWrites vars) fun _ t more => ?_
  have kept := kept.trans more
  refine holds_ite.mpr ⟨fun _ => ?_, fun _ => ?_⟩
  · refine keeps_only kept.rootID ?_
    exact only_then trivial (only_then trivial (only_ret _))
  · refine keeps_then kept.rootID (only_must trivial) fun _ v more => ?_
    have kept := kept.trans more
    refine holds_bind.mpr
      (holds_mustGet (exec_pourWisp kept.rootID (kept.created.trans created)) ?_ ?_)
    · rw [← kept.rootID]
      exact .pour _ _ _ (.inr (.inr rfl))
    · have poured := pour_spec ids v 1 true
      obtain ⟨x, found, _⟩ := poured.find
      have root := poured.rootID.trans kept.rootID
      have other := id_ne_rootID found
      rw [root] at other
      refine keeps_only root ?_
      exact (harmless_name other).bind fun _ => only_then trivial (only_ret _)

theorem founds_CreateHandler (rootID : String) (params : CreateParams) :
    (CreateHandler params).Holds (exec ids) Founding (fun _ _ => True) (fun _ _ => True)
      (blank rootID) := by
  refine holds_else trivial fun _ => ?_
  refine holds_else trivial fun _ => ?_
  refine holds_else trivial fun _ => ?_
  split
  next => exact trivial
  next => exact trivial
  next tc _ _ =>
    refine holds_bind.mpr ⟨.create _ rfl, holds_onError.mpr ?_⟩
    refine (founds_of_keeps (keeps_populate rfl)).mono (fun _ _ h => h) (fun _ _ h => h) ?_
    intro e t _
    refine founds_of_keeps (keeps_only rfl ?_)
    exact (only_attempt trivial).bind fun _ => (only_attempt trivial).bind fun _ => only_fail e

theorem started_numbered (rootID : String) (params : CreateParams) (n : Nat) :
    (started ids rootID params n).Numbered :=
  (founds_CreateHandler rootID params).keeps
    (fun t op founding numbered => numbered.found_step founding (exec_effect op t))
    (numbered_of_nil rfl rfl) n

theorem Numbered.handler (numbered : s.Numbered) {c : LoopCall} {n : Nat}
    (careful : s.Careful ids (.call c n)) (delivered : s.delivered c = true) :
    Keeps ids (s.handler ids c) s := by
  cases c with
  | wispClosed id script =>
    refine Holds.bind (keeps_HandleWispClosed ?_ ?_) fun _ _ _ => trivial
    · intro w found
      simpa [LoopStore.delivered, found] using delivered
    · exact fun w name due => careful w due name
  | trigger script => exact Holds.bind keeps_HandleTrigger fun _ _ _ => trivial
  | iterate => exact Holds.bind keeps_IterateHandler fun _ _ _ => trivial
  | approve username =>
    exact Holds.bind (keeps_ApproveHandler username) fun _ _ _ => trivial
  | stop username script =>
    exact Holds.bind (keeps_StopHandler username numbered careful) fun _ _ _ => trivial
  | reconcile script =>
    exact Holds.bind (keeps_reconcileBead numbered careful) fun _ _ _ => trivial

/-- The numbering, and the processed iteration has not fallen behind. -/
structure Advanced (l : Nat) (s : LoopStore) : Prop where
  numbered : s.Numbered
  last : l ≤ s.lastIteration

theorem Advanced.step {l : Nat} (advanced : Advanced l t) (orderly : Orderly t op)
    (effect : Effect ids t op u) : Advanced l u := by
  obtain ⟨numbered, later⟩ := advanced.numbered.step orderly effect
  exact ⟨numbered, advanced.last.trans later⟩

theorem Advanced.during {l : Nat} (advanced : Advanced l s) {c : LoopCall} {n : Nat}
    (careful : s.Careful ids (.call c n)) (delivered : s.delivered c = true) :
    Advanced l (s.during ids c n) :=
  (advanced.numbered.handler careful delivered).keeps
    (fun t op orderly kept => kept.step orderly (exec_effect op t)) advanced n

theorem Advanced.happen {l : Nat} (s : LoopStore) (e : LoopEvent) (advanced : Advanced l s)
    (careful : s.Careful ids e) : Advanced l (s.happen ids e) := by
  cases e with
  | call c n =>
    simp only [LoopStore.happen]
    split
    next delivered => exact advanced.during careful delivered
    next => exact advanced
  | agentCloses id =>
    simp only [LoopStore.happen]
    split
    next =>
      obtain ⟨numbered, last⟩ := advanced.numbered.mapWisps (closeOne id) (closeOne_id id)
        (closeOne_iteration id) (closeOne_closed id)
      exact ⟨numbered, advanced.last.trans (Nat.le_of_eq last.symm)⟩
    next => exact advanced

theorem Numbered.iterations (numbered : s.Numbered) :
    ∃ k, (s.wisps.rows.map (fun x => x.iteration)).Perm (List.range' 1 k) ∧
      ∀ x ∈ s.wisps.rows, x.status ≠ .closed → x.iteration = k := by
  obtain ⟨k, dense⟩ := numbered.dense
  refine ⟨k, ?_, fun x mem running => numbered.running_last dense mem running⟩
  refine (List.perm_ext_iff_of_nodup s.distinct List.nodup_range').mpr fun n => ?_
  have there : n ∈ s.wisps.rows.map (fun x => x.iteration) ↔ (s.wispAt n).isSome := by
    rw [List.mem_map, Option.isSome_iff_exists]
    constructor
    · rintro ⟨x, mem, rfl⟩
      exact ⟨x, wispAt_of_mem mem⟩
    · rintro ⟨x, found⟩
      exact ⟨x, wispAt_eq_some_iff.mp found⟩
  rw [there, dense n, List.mem_range'_1]
  omega

/-- Along every careful run the wisps are numbered `1..k` and only wisp `k` may run, the processed
iteration never decreases, and no call that can come next burns a wisp that has been published. -/
theorem run_numbered (ids : IDSupply) (rootID : String) (params : CreateParams) (n : Nat)
    (before after : List LoopEvent)
    (careful : Along (happen ids) (Careful ids) (started ids rootID params n) (before ++ after)) :
    let s := before.foldl (happen ids) (started ids rootID params n)
    let t := after.foldl (happen ids) s
    (∃ k, (t.wisps.rows.map (fun x => x.iteration)).Perm (List.range' 1 k) ∧
      ∀ x ∈ t.wisps.rows, x.status ≠ .closed → x.iteration = k) ∧
    s.lastIteration ≤ t.lastIteration ∧
    ∀ c j id x, Careful ids t (.call c j) → t.delivered c = true →
      (t.writes ids c)[j]? = some (.deleteBead id) →
      (t.during ids c j).wisps.find id = some x → x.live = false := by
  intro s t
  obtain ⟨first, rest⟩ := careful.append
  have numbered : s.Numbered :=
    (first.invariant (fun s e => Advanced.happen (l := 0) s e)
      ⟨started_numbered rootID params n, Nat.zero_le _⟩).numbered
  have advanced : Advanced s.lastIteration t :=
    rest.invariant (fun s e => Advanced.happen s e) ⟨numbered, Nat.le_refl _⟩
  refine ⟨advanced.numbered.iterations, advanced.last, ?_⟩
  intro c j id x careful' delivered here found
  rcases (advanced.numbered.handler careful' delivered).cut j with ⟨op, there, orderly⟩ | ⟨past, _⟩
  · have same : op = .deleteBead id := Option.some.inj (there.symm.trans here)
    have held : (t.during ids c j).wisps.find id = some x := found
    unfold LoopStore.during at held
    cases orderly with
    | burn y found' running unpublished =>
      cases StoreOp.deleteBead.inj same
      rw [found'] at held
      cases Option.some.inj held
      exact unpublished
    | _ => cases same
  · exact absurd (past.symm.trans here) (by simp)

/-- A gate with a condition script whose timeout is left to the operator. -/
def checkedLoop : CreateParams :=
  { formula := "f", target := "agent", maxIterations := 3, gateMode := .valid .condition,
    gateCondition := "check.sh", gateTimeoutAction := .valid .manual }

def timedOut : GateResult := { outcome := some .timeout }

def checkedClosed : LoopStore :=
  [.agentCloses "rw"].foldl (happen .glued) (started .glued "r" checkedLoop 99)

theorem checkedClosed_careful :
    checkedClosed.Careful .glued (.call (.wispClosed "rw" timedOut) 99) := by
  intro w due name _ x at_next
  have only : checkedClosed.wisps.find "rw" =
      some { id := "rw", status := .closed, iteration := 1, live := true } := by decide +kernel
  have found := due.found
  rw [show w.id = "rw" from name, only] at found
  rw [← Option.some.inj found] at at_next
  exact absurd at_next (by rw [show checkedClosed.wispAt 2 = none by decide +kernel]; simp)

theorem timedOut_run_numbered :
    checkedClosed.lastIteration ≤
        (checkedClosed.happen .glued (.call (.wispClosed "rw" timedOut) 99)).lastIteration ∧
      ∃ k, ((checkedClosed.happen .glued (.call (.wispClosed "rw" timedOut) 99)).wisps.rows.map
        (fun x => x.iteration)).Perm (List.range' 1 k) := by
  have numbered := run_numbered .glued "r" checkedLoop 99 [.agentCloses "rw"]
    [.call (.wispClosed "rw" timedOut) 99] ⟨trivial, checkedClosed_careful, trivial⟩
  obtain ⟨⟨k, iterations, _⟩, last, _⟩ := numbered
  exact ⟨last, k, iterations⟩

/-- The hold is cut off after its first write, the reconciler pours and activates the second wisp,
and the second report of the first wisp burns it. -/
theorem stale_report_burns_published :
    let s := [.call (.wispClosed "rw" timedOut) 13, .call (.reconcile timedOut) 9].foldl
      (happen .glued) checkedClosed
    (s.writes .glued (.wispClosed "rw" timedOut))[2]? = some (.deleteBead "rrwrww") ∧
      (s.during .glued (.wispClosed "rw" timedOut) 2).wisps.find "rrwrww" =
        some { id := "rrwrww", iteration := 2, live := true } := by
  decide +kernel

end GasCity.LoopStore
