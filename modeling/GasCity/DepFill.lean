import GasCity.DepCalls

namespace GasCity

open CachingStore Threads MemStore

namespace DepCall

variable {β : Type} {k : DepBacking β} {moment : Time × Bool} {s : CachingStore × β} {call : DepCall}
  {id : String}

theorem lookup_depWriteCommit {c : CachingStore} {w : DepWrite} {fresh : Bead} (deps : List Dep)
    (now : Time) (own : fresh.id = w.issueID) (id : String) :
    (c.depWriteCommit w (some (fresh, deps)) now).1.deps.lookup id =
      if id = w.issueID then some deps else c.deps.lookup id := by
  have noted : (c.noteLocalMutationLocked [w.issueID] now).deps = c.deps := rfl
  obtain ⟨rows, _⟩ := (c.noteLocalMutationLocked [w.issueID] now).absorbFreshLocked_spec fresh now
    (writeOpts .depsExplicit deps)
  have installed := congrArg RowState.deps (rows id)
  rw [apply_ite RowState.deps, own, row_deps, row_deps] at installed
  show (clearReadyProjectionLocked _ _).1.deps.lookup id = _
  rw [(clearReadyProjectionLocked_same _ _).deps]
  exact installed

def Agrees (k : DepBacking β) (s : CachingStore × β) (id : String) : Prop :=
  ∀ deps, s.1.deps.lookup id = some deps → deps.Perm (k.DepList s.2 id)

theorem agrees_of_installed {c' : CachingStore} {own : String} {deps : List Dep}
    (installed : ∀ j, c'.deps.lookup j = if j = own then some deps else s.1.deps.lookup j)
    (fresh : deps.Perm (k.DepList s.2 own)) (before : id ≠ own → Agrees k s id) :
    Agrees k (c', s.2) id := by
  intro found lookup
  rw [installed] at lookup
  split at lookup
  next same =>
    obtain rfl := Option.some.inj lookup
    rw [same]
    exact fresh
  next other => exact before other found lookup

theorem next_ownRow (own : call.ownRow) : (call.next k moment s).2.ownRow := by
  cases call with
  | written w =>
    rw [next]
    split
    next => trivial
    next =>
      split
      next found => exact k.id_of_get found
      next => trivial
  | refreshed w fresh =>
    rw [next]
    split <;> exact own
  | list id | listMissed id | write w =>
    rw [next]
    split <;> trivial
  | listRead id deps | ready w read | done => trivial

/-- What the call is about to install is what the backing lists. -/
def installsFresh (k : DepBacking β) (b : β) : DepCall → Prop
  | .listRead id edges => edges.Perm (k.DepList b id)
  | .ready w (some (_, edges)) => edges.Perm (k.DepList b w.issueID)
  | .ready _ none => False
  | _ => True

theorem next_owes (own : call.ownRow) (fresh : call.installsFresh k s.2) (owes : call.owes id) :
    (call.next k moment s).2.owes id ∨ Agrees k (call.next k moment s).1 id := by
  cases call with
  | written w =>
    rw [next]
    split
    next => exact .inl owes
    next =>
      split <;> exact .inl owes
  | refreshed w row =>
    rw [next]
    split <;> exact .inl owes
  | ready w read =>
    cases read with
    | none => exact absurd fresh not_false
    | some read =>
      have mine : w.issueID = id := owes
      exact .inr (agrees_of_installed (lookup_depWriteCommit read.2 moment.1 own) fresh
        fun other => absurd mine.symm other)
  | list | listMissed | listRead | write | done => exact absurd owes not_false

theorem next_agrees (own : call.ownRow) (fresh : call.installsFresh k s.2)
    (before : Agrees k s id) :
    (call.next k moment s).2.owes id ∨ Agrees k (call.next k moment s).1 id := by
  cases call with
  | write w =>
    rw [next]
    split
    next => exact .inr before
    next =>
      by_cases mine : w.issueID = id
      · exact .inl mine
      · refine .inr ?_
        intro deps found
        rw [k.depList_write fun same => mine same.symm]
        exact before deps found
  | listRead id' deps =>
    refine .inr (agrees_of_installed ?_ fresh fun _ => before)
    intro j
    exact FinMap.lookup_insert_ite s.1.deps id' j deps
  | ready w read =>
    cases read with
    | none => exact absurd fresh not_false
    | some read =>
      exact .inr (agrees_of_installed (lookup_depWriteCommit read.2 moment.1 own) fresh
        fun _ => before)
  | list id' | listMissed id' | written w | refreshed w row =>
    refine .inr ?_
    rw [next]
    repeat' split
    all_goals exact before
  | done => exact .inr before

theorem next_installsFresh (answered : match call with
      | .written w => moment.2 = false ∧ (k.Get s.2 w.issueID).isSome
      | .refreshed _ _ => moment.2 = false
      | _ => True) :
    (call.next k moment s).2.installsFresh k (call.next k moment s).1.2 := by
  cases call with
  | written w =>
    obtain ⟨row, found⟩ := Option.isSome_iff_exists.mp answered.2
    rw [next, if_neg (by simp [answered.1]), found]
    trivial
  | refreshed w row =>
    rw [next, if_neg (by simpa using answered)]
    exact List.Perm.refl _
  | listMissed id =>
    rw [next]
    split
    next => trivial
    next => exact List.Perm.refl _
  | list | write =>
    rw [next]
    split <;> trivial
  | listRead | ready | done => trivial

/-- Another call's set stays fresh unless this call writes the edges of its bead. -/
theorem installsFresh_next {other : DepCall}
    (uncrossed : ∀ w, call = .write w → moment.2 = false → ¬ other.holds w.issueID)
    (fresh : other.installsFresh k s.2) : other.installsFresh k (call.next k moment s).1.2 := by
  cases call with
  | write w =>
    rw [next]
    split
    next => exact fresh
    next through =>
      have apart := uncrossed w rfl (by simpa using through)
      cases other with
      | listRead id deps =>
        show deps.Perm (k.DepList (k.write w s.2) id)
        rw [k.depList_write apart]
        exact fresh
      | ready w' read =>
        cases read with
        | none => exact fresh
        | some read =>
          show read.2.Perm (k.DepList (k.write w s.2) w'.issueID)
          rw [k.depList_write apart]
          exact fresh
      | _ => trivial
  | list | listMissed | listRead | written | refreshed | ready | done =>
    rw [next]
    repeat' split
    all_goals exact fresh

end DepCall

open DepCall

section Runs

variable {ι β : Type} [DecidableEq ι] {k : DepBacking β}

/-- A write of a bead's edges commits while no call is between reading them and installing them, and
the backing answers the refresh after a write. -/
def Uncrossed (k : DepBacking β) (s : Threads ι (CachingStore × β) DepCall)
    (e : ι × Time × Bool) : Prop :=
  match s.calls e.1 with
  | .write w => e.2.2 = false → ∀ t, ¬ (s.calls t).holds w.issueID
  | .written w => e.2.2 = false ∧ (k.Get s.shared.2 w.issueID).isSome
  | .refreshed _ _ => e.2.2 = false
  | _ => True

/-- Every bead's cached edges are the backing's, or a call owes their install. -/
structure Settling (k : DepBacking β) (s : Threads ι (CachingStore × β) DepCall) : Prop where
  rows : ∀ t, (s.calls t).ownRow
  fresh : ∀ t, (s.calls t).installsFresh k s.shared.2
  agree : ∀ id, (∃ t, (s.calls t).owes id) ∨ Agrees k s.shared id

theorem Settling.step {s : Threads ι (CachingStore × β) DepCall} {e : ι × Time × Bool}
    (settling : Settling k s) (uncrossed : Uncrossed k s e) :
    Settling k (s.step (next k) e) := by
  have fresh := settling.fresh e.1
  unfold Uncrossed at uncrossed
  refine ⟨?_, ?_, ?_⟩
  · intro t
    exact step_calls (p := ownRow) (next_ownRow (settling.rows e.1))
      fun _ => settling.rows t
  · intro t
    refine step_calls (p := installsFresh k _) (next_installsFresh ?_) fun _ =>
      installsFresh_next (fun w is through => ?_) (settling.fresh t)
    · cases h : s.calls e.1 <;> simp only [h] at uncrossed ⊢ <;> exact uncrossed
    · rw [is] at uncrossed
      exact uncrossed through t
  · intro id
    have moved : ((s.calls e.1).next k e.2 s.shared).2.owes id ∨
        Agrees k ((s.calls e.1).next k e.2 s.shared).1 id →
        (∃ t, ((s.step (next k) e).calls t).owes id) ∨ Agrees k (s.step (next k) e).shared id := by
      intro h
      rcases h with owes | agrees
      · refine .inl ⟨e.1, ?_⟩
        rw [step_calls_self]
        exact owes
      · exact .inr agrees
    rcases settling.agree id with ⟨t, owes⟩ | agrees
    · by_cases same : t = e.1
      · subst same
        exact moved (next_owes (settling.rows e.1) fresh owes)
      · refine .inl ⟨t, ?_⟩
        rw [step_calls_of_ne same]
        exact owes
    · exact moved (next_agrees (settling.rows e.1) fresh agrees)

/-- Over every schedule of dependency reads and writes in which no write of a bead's edges crosses
another call, the cached edges are the backing's once the calls have returned. -/
theorem dep_fill_loses_no_write (s : Threads ι (CachingStore × β) DepCall)
    (idle : ∀ t, (s.calls t).idle) (agree : ∀ id, Agrees k s.shared id)
    (schedule : List (ι × Time × Bool))
    (uncrossed : Along (step (next k)) (Uncrossed k) s schedule)
    (returned : ∀ t, (s.run (next k) schedule).calls t = .done) (id : String) :
    Agrees k (s.run (next k) schedule).shared id := by
  have start : Settling k s := by
    refine ⟨?_, ?_, fun id => .inr (agree id)⟩
    all_goals
      intro t
      have quiet := idle t
      cases h : s.calls t <;> rw [h] at quiet <;> trivial
  have settled : Settling k (s.run (next k) schedule) :=
    uncrossed.invariant (fun _ _ settling => settling.step) start
  rcases settled.agree id with ⟨t, owes⟩ | agrees
  · rw [returned t] at owes
    exact absurd owes not_false
  · exact agrees

end Runs

/-- A live cache that has not read the edges of its one bead, with a read and a write of them about
to start. -/
def unreadEdges : Threads Bool (CachingStore × MemStore) DepCall where
  shared :=
    ({ beads := KeyedList.empty.set { id := "gc-1", status := "open" }
       depsComplete := true
       state := .cacheLive },
     { beads := KeyedList.empty.set { id := "gc-1", status := "open" } })
  calls reader := if reader then .list "gc-1" else .write (.add "gc-1" "gc-2" "blocks")

theorem unreadEdges_idle (t : Bool) : (unreadEdges.calls t).idle := by
  cases t <;> trivial

theorem unreadEdges_agree (id : String) : Agrees depBacking unreadEdges.shared id := by
  intro deps found
  simp [unreadEdges] at found

theorem write_then_read_agrees :
    Agrees depBacking (unreadEdges.run (next depBacking)
      [(false, 1, false), (false, 2, false), (false, 3, false), (false, 4, false),
        (true, 5, false)]).shared "gc-1" := by
  refine dep_fill_loses_no_write unreadEdges unreadEdges_idle unreadEdges_agree _ ?_ ?_ "gc-1"
  · refine ⟨fun _ t => ?_, ⟨rfl, rfl⟩, rfl, trivial, trivial, trivial⟩
    cases t <;> exact not_false
  · intro t
    cases t <;> rfl

/-- A read that misses, and reads the backing before a write commits, installs the old edges over
the write's. -/
theorem stale_read_is_installed :
    ¬ ∀ (s : Threads Bool (CachingStore × MemStore) DepCall) (schedule : List (Bool × Time × Bool))
        (id : String), s.shared.1.state = .cacheLive → s.shared.1.depsComplete = true →
        (∀ t, (s.calls t).idle) → (∀ id, Agrees depBacking s.shared id) →
        (∀ e ∈ schedule, e.2.2 = false) →
        (∀ t, (s.run (next depBacking) schedule).calls t = .done) →
        Agrees depBacking (s.run (next depBacking) schedule).shared id := by
  intro loses
  have agrees := loses unreadEdges
    [(true, 1, false), (true, 2, false), (false, 3, false), (false, 4, false), (false, 5, false),
      (false, 6, false), (true, 7, false)] "gc-1" rfl rfl unreadEdges_idle unreadEdges_agree
    (by decide) (by intro t; cases t <;> rfl)
  exact absurd (agrees [] rfl).length_eq (by decide)

end GasCity
