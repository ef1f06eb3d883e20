import GasCity.LoopManual

namespace GasCity.LoopStore

open KeyedList Program

variable {s : LoopStore} {id : String} {n : Nat} {w : Wisp}

abbrev wispAt (s : LoopStore) (n : Nat) : Option Wisp := s.byIteration.find n

theorem wispAt_eq_some_iff : s.wispAt n = some w ↔ w ∈ s.wisps.rows ∧ w.iteration = n :=
  find_eq_some_iff

theorem find_of_wispAt (found : s.wispAt n = some w) : s.wisps.find w.id = some w :=
  find_key_of_mem (wispAt_eq_some_iff.mp found).1

theorem wispAt_of_find (found : s.wisps.find id = some w) : s.wispAt w.iteration = some w :=
  wispAt_eq_some_iff.mpr ⟨mem_of_find found, rfl⟩

theorem find_iff_wispAt :
    s.wisps.find id = some w ↔ s.wispAt w.iteration = some w ∧ w.id = id := by
  constructor
  · intro found
    exact ⟨wispAt_of_find found, key_of_find found⟩
  · rintro ⟨found, rfl⟩
    exact find_of_wispAt found

theorem find_empty_id (s : LoopStore) : s.wisps.find "" = none := by
  cases found : s.wisps.find "" with
  | none => rfl
  | some w =>
    exact absurd (key_of_find found) (s.named w (mem_of_find found)).1

theorem find_rootID (s : LoopStore) : s.wisps.find s.rootID = none := by
  cases found : s.wisps.find s.rootID with
  | none => rfl
  | some w =>
    exact absurd (key_of_find found) (s.named w (mem_of_find found)).2

theorem id_ne_rootID (found : s.wisps.find id = some w) : id ≠ s.rootID := by
  rintro rfl
  rw [find_rootID] at found
  cases found

theorem id_ne_empty (found : s.wisps.find id = some w) : id ≠ "" := by
  rintro rfl
  rw [find_empty_id] at found
  cases found

theorem wispAt_of_wisps {t : LoopStore} (same : t.wisps = s.wisps) (n : Nat) :
    t.wispAt n = s.wispAt n := by
  show t.wisps.rows.find? (fun w => decide (w.iteration = n)) =
    s.wisps.rows.find? (fun w => decide (w.iteration = n))
  rw [same]

section Updates

theorem wispAt_publish (s : LoopStore) (id : String) (n : Nat) :
    (s.publish id).wispAt n = (s.wispAt n).map (publishOne id) :=
  find_mapRows s.byIteration (publishOne id) (publishOne_iteration id) n

theorem find_closeWisp (s : LoopStore) (id j : String) :
    (s.closeWisp id).wisps.find j = (s.wisps.find j).map (closeOne id) :=
  find_mapRows s.wisps (closeOne id) (closeOne_id id) j

theorem find_publish (s : LoopStore) (id j : String) :
    (s.publish id).wisps.find j = (s.wisps.find j).map (publishOne id) :=
  find_mapRows s.wisps (publishOne id) (publishOne_id id) j

theorem wispAt_drop (s : LoopStore) (id : String) (n : Nat) :
    (s.drop id).wispAt n = (s.wispAt n).filter (fun w => decide (w.id ≠ id)) := by
  apply Option.ext
  intro w
  have kept : w ∈ (s.drop id).wisps.rows ↔ w ∈ s.wisps.rows ∧ decide (w.id ≠ id) = true :=
    List.mem_filter
  rw [wispAt_eq_some_iff, kept, Option.filter_eq_some_iff, wispAt_eq_some_iff]
  constructor
  · rintro ⟨⟨mem, other⟩, it⟩
    exact ⟨⟨mem, it⟩, other⟩
  · rintro ⟨⟨mem, it⟩, other⟩
    exact ⟨⟨mem, other⟩, it⟩

theorem wispAt_drop_of_ne (found : s.wisps.find id = some w) (other : n ≠ w.iteration) :
    (s.drop id).wispAt n = s.wispAt n := by
  rw [wispAt_drop]
  cases at_n : s.wispAt n with
  | none => rfl
  | some v =>
    have differs : v.id ≠ id := by
      intro same
      have this : s.wisps.find id = some v := by
        rw [← same]
        exact find_of_wispAt at_n
      rw [found] at this
      have it := (wispAt_eq_some_iff.mp at_n).2
      rw [← Option.some.inj this] at it
      exact other it.symm
    simp [Option.filter, differs]

theorem wispAt_drop_self {n : Nat} (found : s.wispAt n = some w) : (s.drop w.id).wispAt n = none := by
  rw [wispAt_drop, found]
  simp [Option.filter]

variable (ids : IDSupply)

theorem wispAt_grow (live : Bool) (free : s.wispAt n = none) (i : Nat) :
    (s.grow ids n live free).wispAt i =
      if i = n then some { id := s.freshID ids, iteration := n, live := live } else s.wispAt i :=
  find_push s.byIteration _ (find_eq_none_iff.mp free) i

/-- What a pour leaves: the wisp of its iteration, which was there or is a new open one. -/
structure Poured (s : LoopStore) (n : Nat) (live : Bool) (id : String) (t : LoopStore) : Prop where
  rootID : t.rootID = s.rootID
  created : t.created = s.created
  status : t.status = s.status
  metadata : t.metadata = s.metadata
  others : ∀ i, i ≠ n → t.wispAt i = s.wispAt i
  there : ∃ w, t.wispAt n = some w ∧ w.id = id ∧
    (t = s ∨ s.wispAt n = none ∧ w.status = .isOpen ∧ w.live = live ∧ id ∉ mentioned s.metadata)

theorem pour_spec (s : LoopStore) (n : Nat) (live : Bool) :
    Poured s n live (s.pour ids n live).1 (s.pour ids n live).2 := by
  unfold pour
  split
  next w found =>
    exact ⟨rfl, rfl, rfl, rfl, fun i _ => rfl, w, found, rfl, .inl rfl⟩
  next free =>
    refine ⟨rfl, rfl, rfl, rfl, ?_, { id := s.freshID ids, iteration := n, live := live }, ?_, rfl,
      .inr ⟨free, rfl, rfl, s.freshID_not_mentioned ids⟩⟩
    · intro i other
      rw [wispAt_grow, if_neg other]
    · rw [wispAt_grow, if_pos rfl]

theorem Poured.find {live : Bool} {t : LoopStore} (poured : Poured s n live id t) :
    ∃ w, t.wisps.find id = some w ∧ w.iteration = n := by
  obtain ⟨w, found, rfl, _⟩ := poured.there
  exact ⟨w, find_of_wispAt found, (wispAt_eq_some_iff.mp found).2⟩

theorem Poured.find_mentioned {live : Bool} {t : LoopStore} {j : String}
    (poured : Poured s n live id t) (mem : j ∈ mentioned s.metadata) :
    t.wisps.find j = s.wisps.find j := by
  obtain ⟨w, found, rfl, rfl | ⟨free, _, _, unmentioned⟩⟩ := poured.there
  · rfl
  · apply Option.ext
    intro z
    rw [find_iff_wispAt, find_iff_wispAt]
    by_cases next : z.iteration = n
    · rw [next, found, free]
      constructor
      · rintro ⟨same, rfl⟩
        cases Option.some.inj same
        exact absurd mem unmentioned
      · rintro ⟨same, _⟩
        cases same
    · rw [poured.others z.iteration next]

end Updates

section Execution

variable {ids : IDSupply} {r : String}

theorem exec_setMetadata (created : s.created = true) (w : MetaWrite) :
    exec ids (.setMetadata s.rootID w) s = (.ok "", s.note w) := by
  simp [exec, created]

theorem exec_closeRoot {reason : CloseReason} (root : s.rootID = r) (created : s.created = true) :
    exec ids (.closeBead r reason) s = (.ok "", s.closeRoot) := by
  simp [exec, created, root]

theorem exec_closeWisp {reason : CloseReason} (found : s.wisps.find id = some w) :
    exec ids (.closeBead id reason) s = (.ok "", s.closeWisp id) := by
  simp [exec, id_ne_rootID found, found]

theorem exec_deleteBead (found : s.wisps.find id = some w) :
    exec ids (.deleteBead id) s = (.ok "", s.drop id) := by
  simp [exec, found]

theorem exec_activateWisp (found : s.wisps.find id = some w) :
    exec ids (.activateWisp id) s = (.ok "", s.publish id) := by
  simp [exec, found]

theorem exec_pourWisp {args : PourArgs} (root : s.rootID = r) (created : s.created = true) :
    exec ids (.pourWisp r (IdempotencyKey r n) args) s =
      (.ok (s.pour ids n true).1, (s.pour ids n true).2) := by
  simp [exec, pourUnder, IdempotencyKey, keyIteration, created, root]

theorem exec_pourSpeculativeWisp {args : PourArgs} (root : s.rootID = r) (created : s.created = true) :
    exec ids (.pourSpeculativeWisp r (IdempotencyKey r n) args) s =
      (.ok (s.pour ids n false).1, (s.pour ids n false).2) := by
  simp [exec, pourUnder, IdempotencyKey, keyIteration, created, root]

inductive Effect (ids : IDSupply) (s : LoopStore) : StoreOp → LoopStore → Prop
  | refused (op : StoreOp) : Effect ids s op s
  | note (m : MetaWrite) : Effect ids s (.setMetadata s.rootID m) (s.note m)
  | closeRoot (reason : CloseReason) : Effect ids s (.closeBead s.rootID reason) s.closeRoot
  | closeWisp (w : Wisp) (reason : CloseReason) : s.wisps.find w.id = some w →
      Effect ids s (.closeBead w.id reason) (s.closeWisp w.id)
  | drop (w : Wisp) : s.wisps.find w.id = some w → Effect ids s (.deleteBead w.id) (s.drop w.id)
  | publish (w : Wisp) : s.wisps.find w.id = some w →
      Effect ids s (.activateWisp w.id) (s.publish w.id)
  | pour (n : Nat) (args : PourArgs) :
      Effect ids s (.pourWisp s.rootID (IdempotencyKey s.rootID n) args) (s.pour ids n true).2
  | pourAhead (n : Nat) (args : PourArgs) :
      Effect ids s (.pourSpeculativeWisp s.rootID (IdempotencyKey s.rootID n) args)
        (s.pour ids n false).2
  | create (title : String) : Effect ids s (.createConvergenceBead title)
      { s with created := true, status := .inProgress, metadata := {} }

theorem Effect.rootID {op : StoreOp} {t : LoopStore} (effect : Effect ids s op t) :
    t.rootID = s.rootID := by
  cases effect with
  | pour n => exact (pour_spec ids s n true).rootID
  | pourAhead n => exact (pour_spec ids s n false).rootID
  | _ => rfl

theorem keyIteration_eq_some {key : WispKey} (known : s.keyIteration key = some n) :
    key = IdempotencyKey s.rootID n := by
  cases key with
  | other text => cases known
  | wisp bead iteration =>
    simp only [keyIteration] at known
    split at known
    next same =>
      rw [same, known]
      rfl
    next => cases known

theorem exec_effect (op : StoreOp) (s : LoopStore) : Effect ids s op (exec ids op s).2 := by
  cases op with
  | setMetadata id m =>
    simp only [exec]
    split
    next known =>
      rw [known.2]
      exact .note m
    next => exact .refused _
  | closeBead id reason =>
    simp only [exec]
    split
    next known =>
      rw [known.2]
      exact .closeRoot reason
    next =>
      split
      next known =>
        obtain ⟨w, found⟩ := Option.isSome_iff_exists.mp known
        obtain rfl := key_of_find found
        exact .closeWisp w reason found
      next => exact .refused _
  | deleteBead id | activateWisp id =>
    simp only [exec]
    split
    next known =>
      obtain ⟨w, found⟩ := Option.isSome_iff_exists.mp known
      obtain rfl := key_of_find found
      first | exact .drop w found | exact .publish w found
    next => exact .refused _
  | pourWisp parentID key args | pourSpeculativeWisp parentID key args =>
    simp only [exec, pourUnder]
    split
    next n known =>
      rw [keyIteration_eq_some known]
      split
      next parent =>
        rw [parent.2]
        first | exact .pour n args | exact .pourAhead n args
      next => exact .refused _
    next => exact .refused _
  | createConvergenceBead title => exact .create title

theorem GetMetadata_root (created : s.created = true) : s.GetMetadata s.rootID = .ok s.metadata := by
  simp [GetMetadata, created]

theorem GetBead_store : (store ids).GetBead s id = s.GetBead id := rfl

theorem GetBead_root (created : s.created = true) : s.GetBead s.rootID = .ok s.rootInfo := by
  simp [GetBead, created]

theorem GetBead_of_find (found : s.wisps.find id = some w) :
    s.GetBead id = .ok (w.info s.rootID) := by
  simp [GetBead, id_ne_rootID found, found]

theorem GetBead_of_none (missing : s.wisps.find id = none) (other : id ≠ s.rootID) :
    s.GetBead id = .error (.notFound id) := by
  simp [GetBead, other, missing]

theorem Children_root (s : LoopStore) :
    s.Children s.rootID = .ok (s.wisps.rows.map (Wisp.info s.rootID)) := by
  simp [Children]

theorem Children_of_ne (other : id ≠ s.rootID) : s.Children id = .ok [] := by
  simp [Children, other]

theorem FindByIdempotencyKey_root (s : LoopStore) (n : Nat) :
    s.FindByIdempotencyKey (IdempotencyKey s.rootID n) = .ok ((s.wispAt n).map (fun w => w.id)) := by
  simp [FindByIdempotencyKey, IdempotencyKey, keyIteration]

end Execution

def lastIteration (s : LoopStore) : Nat :=
  ((s.wisps.find s.metadata.lastProcessedWisp).map (fun w => w.iteration)).getD 0

theorem lastProcessedIteration_eq (ids : IDSupply) (created : s.created = true) :
    lastProcessedIteration (store ids) s.metadata s = s.lastIteration := by
  unfold lastProcessedIteration lastIteration
  by_cases unset : s.metadata.lastProcessedWisp = ""
  · simp [unset, find_empty_id]
  · rw [if_neg unset]
    rw [GetBead_store]
    cases found : s.wisps.find s.metadata.lastProcessedWisp with
    | some w =>
      rw [GetBead_of_find found]
      rfl
    | none =>
      by_cases root : s.metadata.lastProcessedWisp = s.rootID
      · rw [root, GetBead_root created]
        rfl
      · rw [GetBead_of_none found root]
        rfl

section Fields

variable (s : LoopStore) (m : MetaWrite)

@[simp] theorem metadata_publish : (s.publish id).metadata = s.metadata := rfl

end Fields

section Rules

variable {ids : IDSupply} {P : LoopStore → StoreOp → Prop} {E : HandlerError → LoopStore → Prop}
  {r doing : String}

theorem holds_set {Q : Unit → LoopStore → Prop} {m : MetaWrite} (root : s.rootID = r)
    (created : s.created = true) (here : P s (.setMetadata r m))
    (rest : Q () (s.note m)) :
    (must doing (.setMetadata r m) : Call LoopStore Unit).Holds (exec ids) P Q E s := by
  subst root
  unfold must
  rw [holds_write, exec_setMetadata created]
  exact ⟨here, rest⟩

theorem holds_attempt_set {Q : Unit → LoopStore → Prop} {m : MetaWrite} (root : s.rootID = r)
    (created : s.created = true) (here : P s (.setMetadata r m))
    (rest : Q () (s.note m)) :
    (attempt (.setMetadata r m) : Call LoopStore Unit).Holds (exec ids) P Q E s := by
  subst root
  unfold attempt
  rw [holds_write, exec_setMetadata created]
  exact ⟨here, rest⟩

variable {t : LoopStore} {op : StoreOp} {answer : String}

theorem holds_must {Q : Unit → LoopStore → Prop} (ran : exec ids op s = (.ok answer, t)) (here : P s op)
    (rest : Q () t) : (must doing op : Call LoopStore Unit).Holds (exec ids) P Q E s := by
  unfold must
  rw [holds_write, ran]
  exact ⟨here, rest⟩

theorem holds_mustGet {Q : String → LoopStore → Prop} (ran : exec ids op s = (.ok answer, t))
    (here : P s op) (rest : Q answer t) :
    (mustGet doing op : Call LoopStore String).Holds (exec ids) P Q E s := by
  unfold mustGet
  rw [holds_write, ran]
  exact ⟨here, rest⟩

theorem holds_poured {Q : Except StoreError String → LoopStore → Prop} {key : WispKey}
    (ran : exec ids op s = (.ok answer, t)) (here : P s op) (rest : Q (.ok answer) t) :
    (pourOrFind (store ids) op key).Holds (exec ids) P Q E s := by
  unfold pourOrFind
  rw [holds_write, ran]
  exact ⟨here, rest⟩

variable {α : Type} {Q : α → LoopStore → Prop}

theorem holds_query {q : LoopStore → Except StoreError α} {a : α} (answer : q s = .ok a)
    (rest : Q a s) : (query doing q : Call LoopStore α).Holds (exec ids) P Q E s := by
  unfold query
  rw [holds_read, answer]
  exact rest

theorem set_then {f : Unit → Call LoopStore α} {m : MetaWrite} (root : s.rootID = r)
    (created : s.created = true) (here : P s (.setMetadata r m))
    (rest : (f ()).Holds (exec ids) P Q E (s.note m)) :
    (must doing (.setMetadata r m) >>= f).Holds (exec ids) P Q E s :=
  holds_bind.mpr (holds_set root created here rest)

theorem answer_then {β : Type} {q : LoopStore → Except StoreError β} {b : β} {f : β → Call LoopStore α}
    (answer : q s = .ok b) (rest : (f b).Holds (exec ids) P Q E s) :
    (query doing q >>= f).Holds (exec ids) P Q E s :=
  holds_bind.mpr (holds_query answer rest)

theorem query_then {β : Type} {q : LoopStore → Except StoreError β} {f : β → Call LoopStore α}
    (failed : ∀ e, E e s) (rest : ∀ b, q s = .ok b → (f b).Holds (exec ids) P Q E s) :
    (query doing q >>= f).Holds (exec ids) P Q E s := by
  refine holds_bind.mpr ?_
  unfold query
  rw [holds_read]
  cases answer : q s with
  | ok b => exact rest b answer
  | error e => exact failed _

theorem inspect_then {β : Type} {q : LoopStore → Except HandlerError β} {f : β → Call LoopStore α}
    (failed : ∀ e, E e s) (rest : ∀ b, q s = .ok b → (f b).Holds (exec ids) P Q E s) :
    (inspect q >>= f).Holds (exec ids) P Q E s := by
  refine holds_bind.mpr ?_
  unfold inspect
  rw [holds_read]
  cases answer : q s with
  | ok b => exact rest b answer
  | error e => exact failed e

theorem throw_then {β : Type} {reply : Except HandlerError β} {f : β → Call LoopStore α}
    (failed : ∀ e, E e s) (rest : ∀ b, reply = .ok b → (f b).Holds (exec ids) P Q E s) :
    (orThrow doing reply >>= f).Holds (exec ids) P Q E s := by
  cases reply with
  | ok b => exact rest b rfl
  | error e => exact failed _

theorem GetMetadata_eq_ok {md : LoopMeta} (read : s.GetMetadata s.rootID = .ok md) :
    s.created = true ∧ md = s.metadata := by
  unfold GetMetadata at read
  split at read
  next known => exact ⟨known.1, (Except.ok.inj read).symm⟩
  next => cases read

theorem metadata_then {f : LoopMeta → Call LoopStore α} (failed : ∀ e, E e s)
    (rest : s.created = true → (f s.metadata).Holds (exec ids) P Q E s) :
    (query doing ((store ids).GetMetadata · s.rootID) >>= f).Holds (exec ids) P Q E s := by
  refine query_then failed fun md read => ?_
  obtain ⟨created, rfl⟩ := GetMetadata_eq_ok read
  exact rest created

theorem holds_look {q : LoopStore → α} :
    (look q : Call LoopStore α).Holds (exec ids) P Q E s ↔ Q (q s) s := Iff.rfl

theorem holds_onlyIf {c : Prop} [Decidable c] {p : Call LoopStore Unit}
    {Q : Unit → LoopStore → Prop} :
    (onlyIf c p).Holds (exec ids) P Q E s ↔
      (c → p.Holds (exec ids) P Q E s) ∧ (¬ c → Q () s) := by
  unfold onlyIf
  rw [holds_ite, holds_ret]

end Rules

end GasCity.LoopStore
