import GasCity.CallRules
import GasCity.LoopCrash
import GasCity.LoopNumbering
import GasCity.LoopRun

namespace GasCity.LoopStore

open KeyedList Program Option

variable {α : Type} {s t u : LoopStore} {w x : Wisp} {script : GateResult} {ids : IDSupply}
  {op : StoreOp} {id : String}

/-- Processing a closed wisp never burns one that is closed or published. -/
def Unburned (s : LoopStore) (w : Wisp) (script : GateResult) : Prop :=
  (s.planFor w script).Burns →
    ∀ x, s.wispAt (w.iteration + 1) = some x → x.status ≠ .closed ∧ x.live = false

theorem MetaWrite.prepares_plain {m : MetaWrite} (prepares : m.prepares = true) :
    m.plain = true := by
  cases m with
  | activeWisp | lastProcessedWisp => cases prepares
  | _ => rfl

theorem PrepOp.orderly (due : s.Unprocessed w) (unburned : s.Unburned w script)
    (prep : Prep s w script t) (prepOp : PrepOp s w script t op) : Orderly t op := by
  have next : t.Successor (w.iteration + 1) :=
    .inr (.inl ⟨w, mem_of_find (prep.found due), due.closed, rfl⟩)
  cases prepOp with
  | note m prepares => exact .note _ m (MetaWrite.prepares_plain prepares)
  | pourAhead args below =>
    rw [← prep.rootID]
    exact .pourAhead _ _ args next
  | pourNow args plan =>
    rw [← prep.rootID]
    exact .pour _ _ args next
  | burn x found burns =>
    have fit : x.status ≠ .closed ∧ x.live = false := by
      rcases prep.successor x found with old | fresh
      · exact unburned burns x old
      · refine ⟨by simp [fresh.isOpen], ?_⟩
        by_contra live
        rw [(fresh.now (by simpa using live)).1] at burns
        exact burns
    exact .burn x (find_of_wispAt found) fit.1 fit.2
  | hold | await => exact .name _ _ (.inl rfl)
  | finish q => exact .note _ _ rfl
  | next x found plan => exact .activate x.id

theorem Prep.orderly_mark (prep : Prep s w script t) (due : s.Unprocessed w)
    (wisps : u.wisps = t.wisps) (last : u.metadata.lastProcessedWisp = t.metadata.lastProcessedWisp) :
    Orderly u (.setMetadata id (.lastProcessedWisp w.id)) := by
  have later := (prep.unprocessed due).later
  have same : u.lastIteration = t.lastIteration := lastIteration_of_find (by rw [wisps, last])
  refine .mark id w.id w ?_ due.closed (by omega)
  rw [wisps]
  exact prep.found due

theorem Stage.orderly (due : s.Unprocessed w) (unburned : s.Unburned w script)
    (stage : Stage s w script t op) : Orderly t op := by
  cases stage with
  | prepare prep prepOp => exact prepOp.orderly due unburned prep
  | holdReason | holdState | finishActor | finishState | awaitState | nextPending =>
    exact .note _ _ rfl
  | holdMark r ready plan => exact ready.orderly_mark due rfl rfl
  | finishClose q ready plan => exact .close _ _
  | finishMark q ready plan => exact ready.orderly_mark due rfl rfl
  | awaitMark ready plan => exact ready.orderly_mark due rfl rfl
  | @nextActive t x prep at_next plan =>
    have other : x.id ≠ t.rootID := id_ne_rootID (find_of_wispAt at_next)
    exact .name _ _ (.inr other)
  | @nextMark t x prep at_next plan =>
    have later := (prep.unprocessed due).later
    have same : (nextNamed t x).lastIteration = t.lastIteration := lastIteration_publish t x.id
    have found : (nextNamed t x).wisps.find w.id = some (publishOne x.id w) := by
      show (t.publish x.id).wisps.find w.id = _
      rw [find_publish, prep.found due]
      rfl
    have closed : (publishOne x.id w).status = .closed := by
      unfold publishOne
      split <;> exact due.closed
    refine .mark _ _ _ found closed ?_
    rw [publishOne_iteration]
    omega

abbrev Keeps (ids : IDSupply) (p : Call LoopStore α) (s : LoopStore) : Prop :=
  p.Holds (exec ids) Orderly (fun _ _ => True) (fun _ _ => True) s

/-- A report about a wisp that is processed or gone changes nothing, but for the root of an ended
loop, which is closed once more. -/
theorem holds_idle_report (delivered : ∀ w, s.wisps.find id = some w → w.status = .closed)
    (idle : ¬ ∃ w, w.id = id ∧ s.Unprocessed w) :
    (HandleWispClosed (store ids) s.rootID id script).Holds (exec ids)
      (fun t op => t = s ∧ s.metadata.state = .terminated ∧
        op = .closeBead s.rootID .handlerCleanup)
      (fun res u => res.action = .skipped ∧
        (u = s ∨ s.metadata.state = .terminated ∧ u = s.closeRoot))
      (fun _ u => u = s) s := by
  refine metadata_then (fun _ => rfl) fun created => ?_
  refine holds_ite.mpr ⟨fun ended => ?_, fun running => ?_⟩
  · refine holds_bind.mpr ⟨⟨rfl, ended, rfl⟩, ?_⟩
    rw [exec_closeRoot rfl created]
    exact ⟨rfl, .inr ⟨ended, rfl⟩⟩
  · refine query_then (fun _ => rfl) fun info read => ?_
    split
    next => exact rfl
    next n key =>
      refine holds_bind.mpr (holds_look.mpr ?_)
      refine holds_ite.mpr ⟨fun _ => ⟨rfl, .inl rfl⟩, fun later => ?_⟩
      exfalso
      apply idle
      have answer : s.GetBead id = .ok info := read
      cases found : s.wisps.find id with
      | none =>
        by_cases root : id = s.rootID
        · rw [root, GetBead_root created] at answer
          cases Except.ok.inj answer
          cases key
        · rw [GetBead_of_none found root] at answer
          cases answer
      | some w =>
        rw [GetBead_of_find found] at answer
        cases Except.ok.inj answer
        have iteration : w.iteration = n := some.inj key
        rw [lastProcessedIteration_eq ids created] at later
        have name := key_of_find found
        refine ⟨w, name, created, running, ?_, delivered w found, by omega⟩
        rw [name]
        exact found

theorem keeps_HandleWispClosed (delivered : ∀ w, s.wisps.find id = some w → w.status = .closed)
    (unburned : ∀ w, w.id = id → s.Unprocessed w → s.Unburned w script) :
    Keeps ids (HandleWispClosed (store ids) s.rootID id script) s := by
  by_cases waiting : ∃ w, w.id = id ∧ s.Unprocessed w
  · obtain ⟨w, rfl, due⟩ := waiting
    exact (holds_HandleWispClosed due).mono (fun _ _ stage => stage.orderly due (unburned w rfl due))
      (fun _ _ _ => trivial) (fun _ _ _ => trivial)
  · refine (holds_idle_report delivered waiting).mono ?_ (fun _ _ _ => trivial)
      (fun _ _ _ => trivial)
    rintro _ _ ⟨_, _, rfl⟩
    exact .close _ _

theorem recoverCurrentActiveWisp_eq_some {last : String} {info : BeadInfo}
    (told : recoverCurrentActiveWisp (store ids) s.rootID last s = .ok (some info)) :
    ∃ x ∈ s.wisps.rows, info = x.info s.rootID := by
  unfold recoverCurrentActiveWisp at told
  have children : (store ids).Children s s.rootID = .ok (s.wisps.rows.map (Wisp.info s.rootID)) :=
    Children_root s
  rw [children] at told
  cases after : iterationAfter (store ids) last s with
  | error e =>
    rw [after] at told
    cases told
  | ok next =>
    rw [after] at told
    cases next with
    | none =>
      have stats := statsOf_childStats s.rootID s.wisps.rows
      have best : s.stats.highestOpen.or s.stats.highestClosed = some info := Except.ok.inj told
      rcases or_eq_some_iff.mp best with running | ⟨_, closed⟩
      · obtain ⟨x, mem, _, rfl, _⟩ := stats.running.present info running
        exact ⟨x, mem, rfl⟩
      · obtain ⟨x, mem, _, rfl, _⟩ := stats.closed.present info closed
        exact ⟨x, mem, rfl⟩
    | some n =>
      have key : (store ids).FindByIdempotencyKey s (IdempotencyKey s.rootID n) =
          .ok ((s.wispAt n).map (fun w => w.id)) := FindByIdempotencyKey_root s n
      simp only [Except.mapError, bind, Except.bind, key] at told
      cases found : s.wispAt n with
      | none =>
        rw [found] at told
        cases told
      | some x =>
        have answer : (store ids).GetBead s x.id = .ok (x.info s.rootID) :=
          GetBead_of_find (find_of_wispAt found)
        rw [found] at told
        simp only [map_some, answer] at told
        exact ⟨x, (wispAt_eq_some_iff.mp found).1, (some.inj (Except.ok.inj told)).symm⟩

theorem currentActiveWisp_eq_some {purpose active last : String} {a : ActiveWisp}
    (known : active = "" ∨ active ≠ s.rootID)
    (told : currentActiveWisp (store ids) purpose s.rootID active last s = .ok (some a)) :
    ∃ x, s.wisps.find a.id = some x ∧ a.status = x.status := by
  unfold currentActiveWisp at told
  split at told
  next => cases told
  next set =>
    have other : active ≠ s.rootID := known.resolve_left set
    cases found : s.wisps.find active with
    | some x =>
      have answer : (store ids).GetBead s active = .ok (x.info s.rootID) := GetBead_of_find found
      rw [answer] at told
      cases some.inj (Except.ok.inj told)
      exact ⟨x, found, rfl⟩
    | none =>
      have answer : (store ids).GetBead s active = .error (.notFound active) :=
        GetBead_of_none found other
      rw [answer] at told
      cases stand_in : recoverCurrentActiveWisp (store ids) s.rootID last s with
      | error e =>
        simp only [stand_in, Except.map] at told
        cases told
      | ok best =>
        simp only [stand_in, Except.map] at told
        cases best with
        | none => cases told
        | some info =>
          obtain ⟨x, mem, rfl⟩ := recoverCurrentActiveWisp_eq_some stand_in
          cases some.inj (Except.ok.inj told)
          exact ⟨x, find_key_of_mem mem, rfl⟩

section Harmless

/-- A write that keeps the numbering of a loop wherever it is made, for the id of its root. -/
def Harmless (r : String) : StoreOp → Prop
  | .setMetadata _ (.activeWisp v) => v = "" ∨ v ≠ r
  | .setMetadata _ (.lastProcessedWisp _) => False
  | .setMetadata _ _ | .closeBead _ _ | .activateWisp _ => True
  | _ => False

variable {r : String} {p : Call LoopStore α}

theorem Harmless.orderly (harmless : Harmless r op) (root : t.rootID = r) :
    Orderly t op := by
  subst root
  cases op with
  | setMetadata j m =>
    cases m with
    | activeWisp v => exact .name j v harmless
    | lastProcessedWisp v => exact absurd harmless id
    | _ => exact .note j _ rfl
  | closeBead id reason => exact .close id reason
  | activateWisp id => exact .activate id
  | _ => exact absurd harmless id

structure Kept (s t : LoopStore) : Prop where
  rootID : t.rootID = s.rootID
  created : t.created = s.created
  last : t.metadata.lastProcessedWisp = s.metadata.lastProcessedWisp
  wisps : ∀ j x, s.wisps.find j = some x → ∃ y, t.wisps.find j = some y ∧
    y.iteration = x.iteration ∧ (x.status = .closed → y.status = .closed)
  missing : ∀ j, s.wisps.find j = none → t.wisps.find j = none

theorem Kept.refl (s : LoopStore) : Kept s s :=
  ⟨rfl, rfl, rfl, fun _ x found => ⟨x, found, rfl, fun closed => closed⟩, fun _ missing => missing⟩

theorem Kept.trans (first : Kept s t) (second : Kept t u) : Kept s u := by
  refine ⟨second.rootID.trans first.rootID, second.created.trans first.created,
    second.last.trans first.last, ?_, fun j missing => second.missing j (first.missing j missing)⟩
  intro j x found
  obtain ⟨y, there, iteration, closed⟩ := first.wisps j x found
  obtain ⟨z, there', iteration', closed'⟩ := second.wisps j y there
  exact ⟨z, there', iteration'.trans iteration, fun was => closed' (closed was)⟩

theorem Kept.lastIteration (kept : Kept s t) : t.lastIteration = s.lastIteration := by
  unfold LoopStore.lastIteration
  rw [kept.last]
  cases found : s.wisps.find s.metadata.lastProcessedWisp with
  | none => rw [kept.missing _ found]
  | some x =>
    obtain ⟨y, there, iteration, _⟩ := kept.wisps _ x found
    rw [there]
    exact iteration

theorem Kept.mapWisps (kept : Kept s t) (f : Wisp → Wisp) (id : ∀ w, (f w).id = w.id)
    (iteration : ∀ w, (f w).iteration = w.iteration)
    (closed : ∀ w, w.status = .closed → (f w).status = .closed) :
    Kept s (t.mapWisps f id iteration) := by
  have at_id : ∀ j, (t.mapWisps f id iteration).wisps.find j = (t.wisps.find j).map f :=
    find_mapRows t.wisps f id
  refine { kept with wisps := ?_, missing := ?_ }
  · intro j x found
    obtain ⟨y, there, same, stays⟩ := kept.wisps j x found
    refine ⟨f y, by rw [at_id, there]; rfl, (iteration y).trans same, fun was => ?_⟩
    exact closed y (stays was)
  · intro j missing
    rw [at_id, kept.missing j missing]
    rfl

theorem Kept.step (kept : Kept s t) (harmless : Harmless r op) (effect : Effect ids t op u) : Kept s u := by
  cases effect with
  | refused => exact kept
  | closeRoot => exact { kept with }
  | closeWisp w => exact kept.mapWisps _ _ _ (closeOne_closed w.id)
  | publish w =>
    exact kept.mapWisps _ _ _ fun v closed => (publishOne_status w.id v).trans closed
  | note m =>
    refine ⟨kept.rootID, kept.created, ?_, kept.wisps, kept.missing⟩
    cases m with
    | lastProcessedWisp v => exact absurd harmless id
    | _ => exact kept.last
  | drop | pour | pourAhead | create => exact absurd harmless id

theorem keeps_of_only (root : s.rootID = r) (only : p.Only (Harmless r)) :
    p.Holds (exec ids) Orderly (fun _ t => Kept s t) (fun _ t => Kept s t) s := by
  have all : p.Holds (exec ids) (fun _ op => Harmless r op) (fun _ _ => True)
    (fun _ _ => True) s := only.holds s
  have kept := all.preserving (I := Kept s)
    (fun t op harmless kept => kept.step harmless (exec_effect op t)) (Kept.refl s)
  exact kept.mono (fun t op both => both.1.orderly (both.2.rootID.trans root))
    (fun _ _ both => both.2) (fun _ _ both => both.2)

theorem keeps_then {β : Type} {f : α → Call LoopStore β} (root : s.rootID = r)
    (only : p.Only (Harmless r)) (rest : ∀ a t, Kept s t → Keeps ids (f a) t) : Keeps ids (p >>= f) s :=
  Holds.bind ((keeps_of_only root only).mono (fun _ _ h => h) (fun _ _ h => h)
    (fun _ _ _ => trivial)) rest

theorem keeps_only (root : s.rootID = r) (only : p.Only (Harmless r)) : Keeps ids p s :=
  (keeps_of_only root only).mono (fun _ _ h => h) (fun _ _ _ => trivial) (fun _ _ _ => trivial)

end Harmless

section Operator

theorem harmless_name {r v doing : String} (other : v ≠ r) :
    (must doing (.setMetadata r (.activeWisp v)) : Call LoopStore Unit).Only (Harmless r) :=
  only_must (.inr other)

theorem keeps_IterateHandler : Keeps ids (IterateHandler (store ids) s.rootID) s := by
  refine metadata_then (fun _ => trivial) fun created => ?_
  refine holds_else trivial fun _ => ?_
  refine answer_then (deriveIterationCount_eq s) ?_
  refine holds_else trivial fun _ => ?_
  refine holds_bind.mpr (holds_poured (exec_pourWisp rfl created) (.pour _ _ _ (.inl rfl)) ?_)
  have poured := pour_spec ids s (s.closedCount + 1) true
  obtain ⟨x, found, _⟩ := poured.find
  have other := id_ne_rootID found
  rw [poured.rootID] at other
  refine holds_bind.mpr (holds_ret.mpr (keeps_only poured.rootID ?_))
  refine (only_onlyIf fun _ => only_onlyIf fun _ => ?_).bind fun _ => ?_
  · exact only_then trivial (only_must trivial)
  · refine only_then trivial (only_then trivial ?_)
    exact (harmless_name other).bind fun _ => only_ret _

theorem keeps_commit {ws : List (MetaWrite × String)} {pre : Call LoopStore Unit}
    {value doing r : String} (root : s.rootID = r) (created : s.created = true)
    (writes : ∀ w ∈ ws, Harmless r (.setMetadata r w.1)) (before : pre.Only (Harmless r))
    (mark : ∀ t, Kept s t → Orderly t (.setMetadata r (.lastProcessedWisp value))) :
    Keeps ids (commit r ws pre .lastProcessedWisp value doing) s := by
  refine keeps_then root (only_applyWrites writes) fun _ t kept => ?_
  refine keeps_then (kept.rootID.trans root) before fun _ u kept' => ?_
  have all := kept.trans kept'
  refine holds_onlyIf.mpr ⟨fun _ => ?_, fun _ => trivial⟩
  exact holds_set (all.rootID.trans root) (all.created.trans created) (mark u all) trivial

theorem keeps_ApproveHandler (username : String) :
    Keeps ids (ApproveHandler (store ids) s.rootID username) s := by
  refine metadata_then (fun _ => trivial) fun created => ?_
  refine holds_else trivial fun _ => ?_
  refine holds_else trivial fun _ => ?_
  refine answer_then (deriveIterationCount_eq s) ?_
  refine Holds.bind (keeps_commit rfl created ?_ (only_must trivial) ?_) fun _ _ _ => trivial
  · simp [Harmless]
  · intro t kept
    rw [← kept.last]
    exact .remark _

theorem keeps_HandleTrigger : Keeps ids (HandleTrigger (store ids) s.rootID script) s := by
  refine metadata_then (fun _ => trivial) fun created => ?_
  refine holds_else trivial fun _ => ?_
  refine throw_then (fun _ => trivial) fun tc _ => ?_
  refine holds_else trivial fun _ => ?_
  refine throw_then (fun _ => trivial) fun cfg _ => ?_
  refine answer_then (deriveIterationCount_eq s) ?_
  refine holds_else trivial fun _ => ?_
  refine holds_else trivial fun _ => ?_
  refine holds_bind.mpr (holds_poured (exec_pourWisp rfl created) (.pour _ _ _ (.inl rfl)) ?_)
  have poured := pour_spec ids s (s.closedCount + 1) true
  obtain ⟨x, found, _⟩ := poured.find
  have other := id_ne_rootID found
  rw [poured.rootID] at other
  refine holds_bind.mpr (holds_ret.mpr (keeps_only poured.rootID ?_))
  refine only_then trivial (only_then trivial ?_)
  exact (harmless_name other).bind fun _ => only_then trivial (only_ret _)

theorem Numbered.forced (numbered : s.Numbered) (found : s.wisps.find x.id = some x)
    (running : x.status ≠ .closed) (kept : Kept (s.closeWisp x.id) t) :
    Orderly t (.setMetadata id (.lastProcessedWisp x.id)) := by
  have closed : (s.closeWisp x.id).wisps.find x.id = some (closeOne x.id x) := by
    rw [find_closeWisp, found]
    rfl
  obtain ⟨y, there, iteration, stays⟩ := kept.wisps x.id _ closed
  have status : (closeOne x.id x).status = .closed := by simp [closeOne]
  refine .mark id x.id y there (stays status) ?_
  have last : t.lastIteration = s.lastIteration := by
    rw [kept.lastIteration]
    exact (numbered.mapWisps _ _ _ (closeOne_closed x.id)).2
  rw [last, iteration, closeOne_iteration]
  obtain ⟨k, dense⟩ := numbered.dense
  rw [numbered.running_last dense (mem_of_find found) running]
  unfold LoopStore.lastIteration
  cases at_last : s.wisps.find s.metadata.lastProcessedWisp with
  | none => exact Nat.zero_le k
  | some z => exact dense.mem_le (mem_of_find at_last)

theorem keeps_stopDrained {username active : String} (numbered : s.Numbered)
    (created : s.created = true) (known : active = "" ∨ active ≠ s.rootID) :
    Keeps ids (stopDrained (store ids) s.rootID username active s.metadata.lastProcessedWisp) s := by
  refine inspect_then (fun _ => trivial) fun told answer => ?_
  refine Holds.bind (Q := fun forced t => t.rootID = s.rootID ∧ t.created = true ∧
    ∀ u, Kept t u → Orderly u (.setMetadata s.rootID
      (.lastProcessedWisp (forced.getD s.metadata.lastProcessedWisp)))) ?_ ?_
  · have unforced : ∀ u, Kept s u → Orderly u (.setMetadata s.rootID
        (.lastProcessedWisp s.metadata.lastProcessedWisp)) := by
      intro u kept
      rw [← kept.last]
      exact .remark _
    cases told with
    | none => exact ⟨rfl, created, unforced⟩
    | some a =>
      obtain ⟨x, found, status⟩ := currentActiveWisp_eq_some known answer
      have name := key_of_find found
      refine holds_ite.mpr ⟨fun _ => ⟨rfl, created, unforced⟩, fun running => ?_⟩
      refine holds_bind.mpr (holds_must (exec_closeWisp found) (.close _ _) ?_)
      rw [status] at running
      refine ⟨rfl, created, fun u kept => ?_⟩
      rw [← name] at found kept ⊢
      exact numbered.forced found running kept
  · rintro forced t ⟨root, created', mark⟩
    refine query_then (fun _ => trivial) fun count _ => ?_
    refine keeps_then root (only_must trivial) fun _ u kept => ?_
    refine keeps_then (kept.rootID.trans root) (only_must trivial) fun _ v kept' => ?_
    have all := kept.trans kept'
    refine Holds.bind (keeps_commit (all.rootID.trans root) (all.created.trans created') ?_
      (only_must trivial) fun z kept'' => mark z (all.trans kept'')) fun _ _ _ => trivial
    simp [Harmless]

end Operator

end GasCity.LoopStore
