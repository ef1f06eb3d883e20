import Mathlib.Data.List.Induction
import GasCity.AwakeSet

namespace GasCity.Awake

open Function List

section Writes

variable {α : Type} {m : String → Option α} {ws ws' : List (String × α)} {n : String}

theorem writeAll_append : writeAll m (ws ++ ws') = writeAll (writeAll m ws) ws' := by
  unfold writeAll
  rw [foldl_append]

theorem writeAll_other (other : ∀ w ∈ ws, w.1 ≠ n) : writeAll m ws n = m n := by
  induction ws generalizing m with
  | nil => rfl
  | cons w ws ih =>
    show writeAll (update m w.1 (some w.2)) ws n = m n
    rw [ih fun w' mem => other w' (mem_cons_of_mem w mem), update_of_ne]
    exact (other w mem_cons_self).symm

theorem writeAll_or (m : String → Option α) (ws : List (String × α)) (n : String) :
    writeAll m ws n = (writeAll (fun _ => none) ws n).or (m n) := by
  induction ws generalizing m with
  | nil => rfl
  | cons w ws ih =>
    show writeAll (update m w.1 (some w.2)) ws n =
      (writeAll (update (fun _ => none) w.1 (some w.2)) ws n).or (m n)
    rw [ih, ih (update (fun _ => none) w.1 (some w.2)), Option.or_assoc]
    by_cases here : n = w.1
    · rw [here, update_self, update_self]
      rfl
    · rw [update_of_ne here, update_of_ne here]
      rfl

theorem writeAll_eq_some_iff {a : α} : writeAll (fun _ => none) ws n = some a ↔
    ∃ earlier later, ws = earlier ++ (n, a) :: later ∧ ∀ w ∈ later, w.1 ≠ n := by
  constructor
  · intro written
    induction ws using List.reverseRecOn with
    | nil => cases written
    | append_singleton ws w ih =>
      rw [writeAll_append] at written
      change update (writeAll _ ws) w.1 (some w.2) n = some a at written
      by_cases here : n = w.1
      · rw [here, update_self] at written
        cases written
        exact ⟨ws, [], by rw [here], fun _ none => absurd none not_mem_nil⟩
      · rw [update_of_ne here] at written
        obtain ⟨earlier, later, rfl, others⟩ := ih written
        refine ⟨earlier, later ++ [w], by simp, fun w' mem => ?_⟩
        rcases mem_append.mp mem with mem | mem
        · exact others w' mem
        · rw [mem_singleton.mp mem]
          exact Ne.symm here
  · rintro ⟨earlier, later, rfl, others⟩
    rw [writeAll_append]
    show writeAll (update _ n (some a)) later n = some a
    rw [writeAll_other others, update_self]

theorem writeAll_mem {a : α} (apart : (ws.map Prod.fst).Nodup) (mem : (n, a) ∈ ws) :
    writeAll m ws n = some a := by
  induction ws generalizing m with
  | nil => cases mem
  | cons w ws ih =>
    rw [map_cons, nodup_cons] at apart
    show writeAll (update m w.1 (some w.2)) ws n = some a
    rcases mem_cons.mp mem with rfl | later
    · rw [writeAll_other, update_self]
      intro w' mem' same
      exact apart.1 (mem_map.mpr ⟨w', mem', same⟩)
    · exact ih apart.2 later

end Writes

section Index

theorem index_byName (agents : List AwakeAgent) (ix : AgentIndex) (n : String) :
    (agents.foldl AgentIndex.add ix).byName n =
      writeAll ix.byName (agents.map fun a => (a.qualifiedName, a)) n := by
  induction agents generalizing ix with
  | nil => rfl
  | cons a agents ih =>
    have step : (ix.add a).byName = update ix.byName a.qualifiedName (some a) := by
      unfold AgentIndex.add
      dsimp only
      split
      · rfl
      · split <;> rfl
    rw [foldl_cons, ih, step]
    rfl

variable {input : AwakeInput} {a : AwakeAgent}

def BasesApart (input : AwakeInput) : Prop :=
  (input.agents.map fun a => awakeAgentBaseName a.qualifiedName).Nodup

theorem names_nodup (apart : BasesApart input) : (input.agents.map AwakeAgent.qualifiedName).Nodup := by
  refine List.Nodup.of_map awakeAgentBaseName ?_
  rw [map_map]
  exact apart

theorem byName_of_mem (apart : BasesApart input) (mem : a ∈ input.agents) :
    (index input).byName a.qualifiedName = some a := by
  unfold index
  rw [index_byName]
  refine writeAll_mem ?_ (mem_map_of_mem mem)
  rw [map_map]
  exact names_nodup apart

theorem lookupAgent_of_mem (apart : BasesApart input) (mem : a ∈ input.agents) :
    lookupAgent input a.qualifiedName = some a := by
  unfold lookupAgent AgentIndex.lookupAgent
  rw [byName_of_mem apart mem]

end Index

variable (input : AwakeInput)

def OfSuspended (b : AwakeSessionBead) : Prop :=
  ∃ a ∈ input.agents, a.suspended = true ∧ a.qualifiedName = b.template

def demandReasons : List WakeReason :=
  [.namedAlways, .namedDemand, .routedDemand, .workQuery, .scaledDemand, .scaledCreating, .assignedWork,
    .minActive, .explicitWake, .pin]

/-- No session of a suspended agent is awake for configuration or demand. -/
def SuspendedKeptDown : Prop :=
  ∀ b ∈ input.sessionBeads, OfSuspended input b → ∀ decision,
    computeAwakeSet input b.sessionName = some decision →
      ¬ (decision.shouldWake = true ∧ decision.reason ∈ demandReasons)

/-- The named session asks for the session of a bead. Its identity names no suspended agent and, if it
asks on demand, its template none either. The name it asks under is that of its bead or its identity. -/
def AsksFor (ns : AwakeNamedSession) (b : AwakeSessionBead) (reason : WakeReason) : Prop :=
  isSuspended (lookupAgent input ns.identity) = false ∧
    (match ns.mode with
    | .always => reason = .namedAlways
    | .onDemand => onDemandReason input ns = some reason ∧
        isSuspended ((index input).byName ns.template) = false
    | .other _ => False) ∧
    if resolveNamedSessionBeadName input.sessionBeads ns = "" then ns.identity = b.sessionName
    else resolveNamedSessionBeadName input.sessionBeads ns = b.sessionName ∧ b.dependencyOnly = false ∧
      (ns.mode = .onDemand → b.drained = false ∧ b.state ≠ .closed)

/-- The last of the named sessions that ask for the session of a bead does so for this reason. -/
def LastAsked (b : AwakeSessionBead) (reason : WakeReason) : Prop :=
  ∃ earlier ns later, input.namedSessions = earlier ++ ns :: later ∧ AsksFor input ns b reason ∧
    ∀ ns' ∈ later, ∀ reason', ¬ AsksFor input ns' b reason'

/-- What the named sessions alone ask for under the name of a session. -/
def namedWake (b : AwakeSessionBead) : Option WakeReason :=
  writeAll (fun _ => none) (namedWrites input) b.sessionName

structure StillWakes (input : AwakeInput) (b : AwakeSessionBead) (reason : WakeReason) : Prop where
  notManual : ¬ (b.manualSession = true ∧ b.state ≠ .closed ∧ b.drained = false)
  notReset : b.continuationResetPending = false ∨ b.restartRequested = true ∨ b.waitHold = true
  notWaiting : b.waitHold = false ∨ b.pendingCreate = true ∨ b.explicitWake = true
  notReady : input.readyWaitSet b.id = false
  notWanted : b.waitHold = true ∨
    (input.pendingSessions b.sessionName = false ∧ input.attachedSessions b.sessionName = false)
  notIdle : reason = .namedAlways → idleTooLong input b = false
  notBlocked : before input.now b.heldUntil = false ∧ before input.now b.quarantinedUntil = false

section Suspended

variable {input : AwakeInput} {b b' : AwakeSessionBead}

def NamesApart (input : AwakeInput) : Prop := (input.sessionBeads.map AwakeSessionBead.sessionName).Nodup

theorem eq_of_name (apart : NamesApart input) (mem : b ∈ input.sessionBeads)
    (mem' : b' ∈ input.sessionBeads) (same : b'.sessionName = b.sessionName) : b' = b :=
  inj_on_of_nodup_map apart mem' mem same

theorem fillSlots_subset {count : Int} :
    ∀ {beads : List AwakeSessionBead} {filled : Int}, b ∈ (fillSlots input count beads filled).1 → b ∈ beads
  | [], _, mem => mem
  | a :: rest, filled, mem => by
    unfold fillSlots at mem
    split at mem
    · exact absurd mem not_mem_nil
    · split at mem
      · exact mem_cons_of_mem a (fillSlots_subset mem)
      · rcases mem_cons.mp mem with rfl | later
        · exact mem_cons_self
        · exact mem_cons_of_mem a (fillSlots_subset later)

variable {beads : List AwakeSessionBead} {template : String} {w : String × WakeReason}

theorem mem_collectActiveBeads {now : Int} (mem : b ∈ collectActiveBeads beads template now) :
    b ∈ beads ∧ b.template = template := by
  unfold collectActiveBeads at mem
  rw [mem_insertionSort, mem_filter] at mem
  simp only [Bool.and_eq_true, decide_eq_true_eq] at mem
  exact ⟨mem.1, mem.2.1.1.1.1.1.1.1⟩

theorem mem_collectCreatingBeads (mem : b ∈ collectCreatingBeads beads template) :
    b ∈ beads ∧ b.template = template := by
  unfold collectCreatingBeads at mem
  rw [mem_filter] at mem
  simp only [Bool.and_eq_true, decide_eq_true_eq] at mem
  exact ⟨mem.1, mem.2.1.1.1.1.1.1⟩

theorem mem_scaledWrites (mem : w ∈ scaledWrites input) :
    (w.2 = .scaledDemand ∨ w.2 = .scaledCreating) ∧ ∃ b ∈ input.sessionBeads,
      w.1 = b.sessionName ∧ isAwakeable (lookupAgent input b.template) = true := by
  obtain ⟨entry, _, inside⟩ := mem_flatMap.mp mem
  simp only [scaledTemplateWrites, mem_ite_nil_left, Bool.not_eq_true', Bool.not_eq_false] at inside
  obtain ⟨-, awakeable, inside⟩ := inside
  rcases mem_append.mp inside with active | creating
  · obtain ⟨b, chosen, rfl⟩ := mem_map.mp active
    obtain ⟨known, template⟩ := mem_collectActiveBeads (fillSlots_subset chosen)
    exact ⟨.inl rfl, b, known, rfl, template ▸ awakeable⟩
  · obtain ⟨b, chosen, rfl⟩ := mem_map.mp creating
    obtain ⟨known, template⟩ := mem_collectCreatingBeads (fillSlots_subset chosen)
    exact ⟨.inr rfl, b, known, rfl, template ▸ awakeable⟩

theorem mem_workSetWrites (mem : w ∈ workSetWrites input) :
    w.2 = .workQuery ∧ ∃ b ∈ input.sessionBeads,
      w.1 = b.sessionName ∧ isAwakeable (lookupAgent input b.template) = true := by
  obtain ⟨entry, _, written⟩ := mem_filterMap.mp mem
  simp only [workSetWrite, Option.ite_none_left_eq_some, Bool.not_eq_true', Bool.not_eq_false] at written
  obtain ⟨-, -, awakeable, -, written⟩ := written
  split at written
  next b rest collected =>
    cases written
    obtain ⟨known, template⟩ := mem_collectActiveBeads (collected ▸ mem_cons_self)
    exact ⟨rfl, b, known, rfl, template ▸ awakeable⟩
  next =>
    split at written
    next b rest collected =>
      cases written
      obtain ⟨known, template⟩ := mem_collectCreatingBeads (collected ▸ mem_cons_self)
      exact ⟨rfl, b, known, rfl, template ▸ awakeable⟩
    next => cases written

theorem mem_manualWrites (mem : w ∈ manualWrites input) :
    w.2 = .manual ∧ ∃ b ∈ input.sessionBeads, w.1 = b.sessionName ∧ b.manualSession = true ∧
      b.state ≠ .closed ∧ b.drained = false := by
  obtain ⟨b, inside, rfl⟩ := mem_map.mp mem
  obtain ⟨known, passes⟩ := mem_filter.mp inside
  simp only [Bool.and_eq_true, decide_eq_true_eq, ne_eq, Bool.not_eq_true'] at passes
  exact ⟨rfl, b, known, rfl, passes.1.1.1, passes.1.1.2, passes.1.2⟩

theorem reviveMinActive_other {enough : Int} {n : String} :
    ∀ {beads : List AwakeSessionBead} {covered : Int} {desired : Desired},
      (∀ b ∈ beads, b.sessionName ≠ n) → reviveMinActive input enough beads covered desired n = desired n
  | [], _, _, _ => rfl
  | a :: rest, covered, desired, other => by
    have later : ∀ b ∈ rest, b.sessionName ≠ n := fun b mem => other b (mem_cons_of_mem a mem)
    unfold reviveMinActive
    split
    · rfl
    · split
      · exact reviveMinActive_other later
      · split
        · exact reviveMinActive_other later
        · rw [reviveMinActive_other later, update_of_ne]
          exact (other a mem_cons_self).symm

theorem mem_cityStopPoolBeads (mem : b ∈ cityStopPoolBeads beads template) : b ∈ beads ∧ b.template = template := by
  unfold cityStopPoolBeads isMinActivePoolBead at mem
  rw [mem_insertionSort, mem_filter] at mem
  simp only [Bool.and_eq_true, decide_eq_true_eq] at mem
  exact ⟨mem.1, mem.2.1.1.1.1.1.1.1.1⟩

/-- A reset takes the place of every reason but a first launch or an explicit wake. -/
def resetOver (b : AwakeSessionBead) (desired : Option WakeReason) : Option WakeReason :=
  if b.continuationResetPending = false ∨ b.restartRequested = true ∨ b.waitHold = true then desired
  else if desired = some .pendingCreate ∨ desired = some .explicitWake then desired
  else some .resetPending

theorem resetOver_eq_some {desired : Option WakeReason} {reason : WakeReason}
    (other : reason ≠ .resetPending) :
    resetOver b desired = some reason ↔ desired = some reason ∧
      ((b.continuationResetPending = false ∨ b.restartRequested = true ∨ b.waitHold = true) ∨
        reason = .pendingCreate ∨ reason = .explicitWake) := by
  unfold resetOver
  split
  next kept => simp [kept]
  next reset =>
    split
    next first =>
      refine ⟨fun shown => ⟨shown, .inr ?_⟩, fun both => both.1⟩
      rw [shown] at first
      exact first.imp Option.some.inj Option.some.inj
    next later =>
      refine ⟨fun shown => absurd (Option.some.inj shown).symm other, fun both => ?_⟩
      rcases both.2 with kept | rfl | rfl
      · exact absurd kept reset
      · exact absurd (.inl both.1) later
      · exact absurd (.inr both.1) later

theorem resetStep_self (desired : Desired) (b : AwakeSessionBead) :
    resetStep desired b b.sessionName = resetOver b (desired b.sessionName) := by
  unfold resetStep resetOver
  simp only [Bool.not_eq_true']
  split
  · rfl
  · split
    · rfl
    · rw [update_self]

theorem resetStep_other {desired : Desired} {n : String} (other : b.sessionName ≠ n) :
    resetStep desired b n = desired n := by
  unfold resetStep
  split
  · rfl
  · split
    · rfl
    · rw [update_of_ne other.symm]

theorem resets_other {n : String} :
    ∀ {beads : List AwakeSessionBead} {desired : Desired}, (∀ b ∈ beads, b.sessionName ≠ n) →
      beads.foldl resetStep desired n = desired n
  | [], _, _ => rfl
  | a :: rest, desired, other => by
    rw [foldl_cons, resets_other fun b mem => other b (mem_cons_of_mem a mem),
      resetStep_other (other a mem_cons_self)]

theorem resets_self : ∀ {beads : List AwakeSessionBead} {desired : Desired},
      (beads.map AwakeSessionBead.sessionName).Nodup → b ∈ beads →
      beads.foldl resetStep desired b.sessionName = resetOver b (desired b.sessionName)
  | a :: rest, desired, apart, mem => by
    rw [map_cons, nodup_cons] at apart
    rw [foldl_cons]
    rcases mem_cons.mp mem with rfl | later
    · rw [resets_other, resetStep_self]
      intro b' mem' same
      exact apart.1 (mem_map.mpr ⟨b', mem', same⟩)
    · rw [resets_self apart.2 later, resetStep_other]
      intro same
      exact apart.1 (mem_map.mpr ⟨b, later, same.symm⟩)

theorem namedWrite_iff (names : NamesApart input) (mem : b ∈ input.sessionBeads) {ns : AwakeNamedSession}
    {reason : WakeReason} :
    namedWrite input ns = some (b.sessionName, reason) ↔ AsksFor input ns b reason := by
  have found : findBeadBySessionName input.sessionBeads b.sessionName = some b := by
    cases is : findBeadBySessionName input.sessionBeads b.sessionName with
    | none => simpa using find?_eq_none.mp is b mem
    | some b' =>
      rw [eq_of_name names mem (mem_of_find?_eq_some is) (by simpa using find?_some is)]
  unfold namedWrite AsksFor
  generalize resolveNamedSessionBeadName input.sessionBeads ns = sn
  cases ns.mode with
  | other => simp
  | always =>
    by_cases here : sn = b.sessionName
    · simp only [here, found]
      grind
    · cases findBeadBySessionName input.sessionBeads sn <;> grind
  | onDemand =>
    by_cases here : sn = b.sessionName
    · simp only [here, found]
      grind
    · cases findBeadBySessionName input.sessionBeads sn <;> grind

theorem namedWake_iff (names : NamesApart input) (mem : b ∈ input.sessionBeads) {reason : WakeReason} :
    namedWake input b = some reason ↔ LastAsked input b reason := by
  constructor
  · intro wake
    obtain ⟨earlier, later, is, others⟩ := writeAll_eq_some_iff.mp wake
    obtain ⟨first, rest, split, -, is⟩ := filterMap_eq_append_iff.mp is
    obtain ⟨silent, ns, last, rfl, -, asks, rfl⟩ := filterMap_eq_cons_iff.mp is
    refine ⟨first ++ silent, ns, last, by rw [split, append_assoc], (namedWrite_iff names mem).mp asks, ?_⟩
    intro ns' there reason' asks'
    exact others _ (mem_filterMap.mpr ⟨ns', there, (namedWrite_iff names mem).mpr asks'⟩) rfl
  · rintro ⟨earlier, ns, later, is, asks, others⟩
    refine writeAll_eq_some_iff.mpr ⟨earlier.filterMap (namedWrite input),
      later.filterMap (namedWrite input), ?_, ?_⟩
    · rw [namedWrites, is, filterMap_append, filterMap_cons_some ((namedWrite_iff names mem).mpr asks)]
    · rintro ⟨n, reason'⟩ written rfl
      obtain ⟨ns', there, writes⟩ := mem_filterMap.mp written
      exact others ns' there reason' ((namedWrite_iff names mem).mp writes)

theorem LastAsked.reason {reason : WakeReason} (asked : LastAsked input b reason) :
    reason = .namedAlways ∨ reason = .namedDemand ∨ reason = .routedDemand ∨ reason = .workQuery := by
  obtain ⟨-, ns, -, -, ⟨-, asks, -⟩, -⟩ := asked
  unfold onDemandReason at asks
  grind

theorem computeAwakeSet_of_mem (names : NamesApart input) (mem : b ∈ input.sessionBeads) :
    computeAwakeSet input b.sessionName = some (decideBead input (desiredSet input)
      (writeAll (fun _ => none) (anchorWrites input)) b) := by
  refine writeAll_mem ?_ (mem_map.mpr ⟨b, mem, rfl⟩)
  rw [map_map]
  exact names

def Wakes (decision : AwakeDecision) (reason : WakeReason) : Prop :=
  decision.shouldWake = true ∧ decision.reason = reason

section Stages

variable {decision : AwakeDecision} {desired : Desired} {reason : WakeReason}

theorem wakes_blockDecision : Wakes (blockDecision input b decision) reason ↔
    Wakes decision reason ∧ before input.now b.heldUntil = false ∧
      before input.now b.quarantinedUntil = false := by
  unfold blockDecision Wakes
  split
  next quarantined => simp [quarantined]
  next free =>
    split
    next held => simp [held]
    next open_ => simp [free, open_]

theorem wakes_idleDecision : Wakes (idleDecision input desired b decision) reason ↔
    Wakes decision reason ∧
      (sparesIdle (desired b.sessionName) = false → idleTooLong input b = false) := by
  unfold idleDecision Wakes
  split
  next sleeps =>
    have unspared : sparesIdle (desired b.sessionName) = false := by simpa using sleeps.2.1
    simp [sleeps, unspared]
  next stays =>
    refine ⟨fun wakes => ⟨wakes, fun spared => ?_⟩, fun both => both.1⟩
    by_contra tooLong
    exact stays ⟨wakes.1, by rw [spared]; rfl, by simpa using tooLong⟩

theorem pinDecision_down (down : isAwakeable (lookupAgent input b.template) = false) :
    pinDecision input b decision = decision := by
  unfold pinDecision
  simp [down]

theorem wakes_runningDecision (other : reason ≠ .onDemandRunning) :
    Wakes (runningDecision input b decision) reason ↔ Wakes decision reason := by
  unfold runningDecision Wakes
  split
  next asleep =>
    have off : decision.shouldWake = false := by simpa using asleep.1
    simp [off, other.symm]
  next => exact Iff.rfl

theorem wakes_overrideDecision
    (other : reason ≠ .waitReady ∧ reason ≠ .pending ∧ reason ≠ .attached) :
    Wakes (overrideDecision input b decision) reason ↔
      Wakes decision reason ∧ input.readyWaitSet b.id = false ∧ (b.waitHold = true ∨
        (input.pendingSessions b.sessionName = false ∧ input.attachedSessions b.sessionName = false)) := by
  unfold overrideDecision Wakes
  split
  next ready => simp [ready, other.1.symm]
  next notReady =>
    split
    next pending =>
      have free : b.waitHold = false := by simpa using pending.2
      simp [pending, free, other.2.1.symm]
    next notPending =>
      split
      next attached =>
        have free : b.waitHold = false := by simpa using attached.2
        simp [attached, free, other.2.2.symm]
      next notAttached =>
        have quiet : b.waitHold = true ∨ (input.pendingSessions b.sessionName = false ∧
            input.attachedSessions b.sessionName = false) := by
          cases hold : b.waitHold with
          | true => exact .inl rfl
          | false =>
            simp only [hold, Bool.not_false, and_true, Bool.not_eq_true] at notPending notAttached
            exact .inr ⟨notPending, notAttached⟩
        simp [notReady, quiet]

theorem wakes_demandDecision (asleep : decision.shouldWake = false) :
    Wakes (demandDecision desired b decision) reason ↔ desired b.sessionName = some reason ∧
      (b.waitHold = false ∨ b.pendingCreate = true ∨ b.explicitWake = true) := by
  unfold demandDecision Wakes
  cases desired b.sessionName with
  | none => simp [asleep]
  | some asked =>
    simp only [Bool.not_eq_true', Option.some.injEq]
    split
    next free => simp [free]
    next waits => simp [waits, asleep]

theorem assignedDecision_asleep (anchors : String → Option String) :
    (assignedDecision anchors b).shouldWake = false := by
  unfold assignedDecision
  split <;> rfl

/-- With its agent suspended, a session wakes with a demand reason exactly when it is the one demand asks
with and no other rule decides. -/
theorem wakes_decideBead (anchors : String → Option String)
    (down : isAwakeable (lookupAgent input b.template) = false) (demanded : reason ∈ demandReasons) :
    Wakes (decideBead input desired anchors b) reason ↔
      desired b.sessionName = some reason ∧
      (b.waitHold = false ∨ b.pendingCreate = true ∨ b.explicitWake = true) ∧
      input.readyWaitSet b.id = false ∧ (b.waitHold = true ∨
        (input.pendingSessions b.sessionName = false ∧ input.attachedSessions b.sessionName = false)) ∧
      (sparesIdle (desired b.sessionName) = false → idleTooLong input b = false) ∧
      before input.now b.heldUntil = false ∧ before input.now b.quarantinedUntil = false := by
  have apart : reason ≠ .onDemandRunning ∧ reason ≠ .waitReady ∧ reason ≠ .pending ∧
      reason ≠ .attached := by
    refine ⟨?_, ?_, ?_, ?_⟩ <;> rintro rfl <;> simp [demandReasons] at demanded
  unfold decideBead
  rw [wakes_blockDecision, wakes_idleDecision, pinDecision_down down, wakes_runningDecision apart.1,
    wakes_overrideDecision apart.2, wakes_demandDecision (assignedDecision_asleep anchors)]
  simp only [and_assoc]

end Stages

variable (suspended : OfSuspended input b) (bases : BasesApart input)

include suspended bases

theorem OfSuspended.byName :
    ∃ a, (index input).byName b.template = some a ∧ a.suspended = true := by
  obtain ⟨a, mem, down, name⟩ := suspended
  rw [← name]
  exact ⟨a, byName_of_mem bases mem, down⟩

theorem OfSuspended.lookup : ∃ a, lookupAgent input b.template = some a ∧ a.suspended = true := by
  obtain ⟨a, mem, down, name⟩ := suspended
  rw [← name]
  exact ⟨a, lookupAgent_of_mem bases mem, down⟩

theorem OfSuspended.not_awakeable : isAwakeable (lookupAgent input b.template) = false := by
  obtain ⟨a, found, down⟩ := suspended.lookup bases
  rw [found]
  simp [isAwakeable, down]

variable (names : NamesApart input) (mem : b ∈ input.sessionBeads)

include names mem

theorem OfSuspended.unwritten {ws : List (String × WakeReason)}
    (writes : ∀ w ∈ ws, ∃ b' ∈ input.sessionBeads, w.1 = b'.sessionName ∧
      isAwakeable (lookupAgent input b'.template) = true) : ∀ w ∈ ws, w.1 ≠ b.sessionName := by
  rintro w inside same
  obtain ⟨b', mem', name, awakeable⟩ := writes w inside
  rw [eq_of_name names mem mem' (name.symm.trans same), suspended.not_awakeable bases] at awakeable
  cases awakeable

/-- What the passes ask for a session of a suspended agent: what the named sessions ask for, unless it
is a manual one. -/
theorem OfSuspended.demand :
    writeAll (fun _ => none) (demandWrites input) b.sessionName =
      (if b.manualSession = true ∧ b.state ≠ .closed ∧ b.drained = false then some .manual else none).or
        ((namedWake input b).or (if b.pendingCreate then some .pendingCreate else none)) := by
  obtain ⟨a, found, down⟩ := suspended.byName bases
  have explicit : ∀ w ∈ explicitWakeWrites input, w.1 ≠ b.sessionName := by
    rintro w inside same
    obtain ⟨b', chosen, rfl⟩ := mem_map.mp inside
    obtain ⟨known, passes⟩ := mem_filter.mp chosen
    rw [eq_of_name names mem known same, found] at passes
    simp [isAwakeable, down] at passes
  have assigned : ∀ w ∈ assignedWorkWrites input, w.1 ≠ b.sessionName := by
    rintro w inside same
    obtain ⟨w', anchored, rfl⟩ := mem_map.mp inside
    obtain ⟨b', known, written⟩ := mem_filterMap.mp anchored
    unfold anchorWrite at written
    split at written
    · cases written
    · split at written
      · cases written
      · next awake =>
        obtain ⟨anchor, _, rfl⟩ := Option.map_eq_some_iff.mp written
        obtain ⟨a', found', down'⟩ := suspended.lookup bases
        rw [eq_of_name names mem known same, found'] at awake
        simp [isSuspended, down'] at awake
  have manual : writeAll (fun _ => none) (manualWrites input) b.sessionName =
      if b.manualSession = true ∧ b.state ≠ .closed ∧ b.drained = false then some .manual else none := by
    split
    next isManual =>
      refine writeAll_mem ?_ (mem_map.mpr ⟨b, mem_filter.mpr ⟨mem, ?_⟩, rfl⟩)
      · unfold manualWrites
        rw [map_map]
        exact names.sublist (filter_sublist.map _)
      · simp [isManual, found]
    next other =>
      refine writeAll_other fun w inside same => other ?_
      obtain ⟨_, b', known, name, isManual⟩ := mem_manualWrites inside
      rw [eq_of_name names mem known (name.symm.trans same)] at isManual
      exact isManual
  have pending : writeAll (fun _ => none) (pendingCreateWrites input) b.sessionName =
      if b.pendingCreate then some .pendingCreate else none := by
    split
    next isPending =>
      refine writeAll_mem ?_ (mem_map.mpr ⟨b, mem_filter.mpr ⟨mem, isPending⟩, rfl⟩)
      unfold pendingCreateWrites
      rw [map_map]
      exact names.sublist (filter_sublist.map _)
    next other =>
      refine writeAll_other fun w inside same => other ?_
      obtain ⟨b', chosen, rfl⟩ := mem_map.mp inside
      obtain ⟨known, isPending⟩ := mem_filter.mp chosen
      rw [← eq_of_name names mem known same]
      exact isPending
  unfold demandWrites
  rw [writeAll_append, writeAll_other assigned, writeAll_append, writeAll_or _ (manualWrites input),
    manual, writeAll_append, writeAll_other (suspended.unwritten bases names mem fun _ h => (mem_workSetWrites h).2),
    writeAll_append, writeAll_other (suspended.unwritten bases names mem fun _ h => (mem_scaledWrites h).2),
    writeAll_append, writeAll_or _ (namedWrites input), writeAll_append, writeAll_other explicit, pending]
  rfl

theorem OfSuspended.warm :
    ∀ {agents : List AwakeAgent} {desired : Desired}, (∀ a ∈ agents, a ∈ input.agents) →
      agents.foldl (minActiveStep input) desired b.sessionName = desired b.sessionName
  | [], _, _ => rfl
  | a :: rest, desired, inside => by
    rw [foldl_cons, OfSuspended.warm fun a' mem' => inside a' (mem_cons_of_mem a mem')]
    unfold minActiveStep
    split
    next => rfl
    next active =>
      refine reviveMinActive_other fun b' chosen same => ?_
      obtain ⟨known, template⟩ := mem_cityStopPoolBeads chosen
      rw [eq_of_name names mem known same] at template
      obtain ⟨a', found, down⟩ := suspended.lookup bases
      rw [template, lookupAgent_of_mem bases (inside a mem_cons_self)] at found
      cases found
      exact active (.inl down)

theorem OfSuspended.desired :
    desiredSet input b.sessionName = resetOver b
      ((if b.manualSession = true ∧ b.state ≠ .closed ∧ b.drained = false then some .manual else none).or
        ((namedWake input b).or (if b.pendingCreate then some .pendingCreate else none))) := by
  unfold desiredSet
  rw [resets_self names mem, suspended.warm bases names mem fun _ h => h,
    suspended.demand bases names mem]

/-- The reason a session of a suspended agent is desired with is a demand reason exactly when a named
session asks for it and it is neither a manual session nor one to be reset. -/
theorem OfSuspended.desired_demand {reason : WakeReason} (demanded : reason ∈ demandReasons) :
    desiredSet input b.sessionName = some reason ↔ namedWake input b = some reason ∧
      ¬ (b.manualSession = true ∧ b.state ≠ .closed ∧ b.drained = false) ∧
      (b.continuationResetPending = false ∨ b.restartRequested = true ∨ b.waitHold = true) := by
  have apart : reason ≠ .resetPending ∧ reason ≠ .manual ∧ reason ≠ .pendingCreate := by
    refine ⟨?_, ?_, ?_⟩ <;> rintro rfl <;> simp [demandReasons] at demanded
  have asked : (if b.manualSession = true ∧ b.state ≠ .closed ∧ b.drained = false then
        some WakeReason.manual else none).or
        ((namedWake input b).or (if b.pendingCreate then some .pendingCreate else none)) = some reason ↔
      namedWake input b = some reason ∧
        ¬ (b.manualSession = true ∧ b.state ≠ .closed ∧ b.drained = false) := by
    split
    next manual => simp [manual, apart.2.1.symm]
    next other =>
      cases namedWake input b with
      | some named => simp [other]
      | none =>
        cases b.pendingCreate with
        | true => simp [apart.2.2.symm]
        | false => simp
  rw [suspended.desired bases names mem, resetOver_eq_some apart.1, asked]
  refine ⟨fun both => ⟨both.1.1, both.1.2, ?_⟩, fun all => ⟨⟨all.1, all.2.1⟩, .inl all.2.2⟩⟩
  have named := ((namedWake_iff names mem).mp both.1.1).reason
  rcases both.2 with kept | rfl | rfl
  · exact kept
  · exact absurd rfl apart.2.2
  · simp at named

omit suspended bases names mem

/-- A session of a suspended agent stays down unless a named session asks for it whose own identity is
not suspended. -/
theorem suspendedKeptDown_iff (bases : BasesApart input) (names : NamesApart input) :
    SuspendedKeptDown input ↔ ∀ b ∈ input.sessionBeads, OfSuspended input b → ∀ reason,
      LastAsked input b reason → ¬ StillWakes input b reason := by
  refine ⟨fun keptDown b mem suspended reason asked still => ?_,
    fun quiet b mem suspended decision decided wakes => ?_⟩
  · have demanded : reason ∈ demandReasons := by
      rcases asked.reason with rfl | rfl | rfl | rfl <;> simp [demandReasons]
    have desired := (suspended.desired_demand bases names mem demanded).mpr
      ⟨(namedWake_iff names mem).mpr asked, still.notManual, still.notReset⟩
    have spares : sparesIdle (desiredSet input b.sessionName) = false →
        idleTooLong input b = false := by
      rw [desired]
      intro spared
      refine still.notIdle ?_
      rcases asked.reason with rfl | rfl | rfl | rfl
      · rfl
      all_goals cases spared
    have awake := (wakes_decideBead (writeAll (fun _ => none) (anchorWrites input))
      (suspended.not_awakeable bases) demanded).mpr
      ⟨desired, still.notWaiting, still.notReady, still.notWanted, spares, still.notBlocked⟩
    refine keptDown b mem suspended _ (computeAwakeSet_of_mem names mem) ⟨awake.1, ?_⟩
    rw [awake.2]
    exact demanded
  · rw [computeAwakeSet_of_mem names mem] at decided
    cases decided
    obtain ⟨desired, notWaiting, notReady, notWanted, spares, notBlocked⟩ :=
      (wakes_decideBead _ (suspended.not_awakeable bases) wakes.2).mp ⟨wakes.1, rfl⟩
    obtain ⟨wake, notManual, notReset⟩ :=
      (suspended.desired_demand bases names mem wakes.2).mp desired
    refine quiet b mem suspended _ ((namedWake_iff names mem).mp wake)
      ⟨notManual, notReset, notWaiting, notReady, notWanted, fun always => spares ?_, notBlocked⟩
    rw [desired, always]
    rfl

end Suspended

def suspendedSession : AwakeSessionBead where
  id := "s-1"
  sessionName := "boss"
  template := "worker"
  state := .asleep
  namedIdentity := "boss"

/-- A city with one suspended agent and one session of it that a named session of another identity
always wants. -/
def suspendedCity : AwakeInput where
  agents := [{ qualifiedName := "worker", suspended := true }]
  namedSessions := [{ identity := "boss", template := "worker", mode := .always }]
  sessionBeads := [suspendedSession]

def suspendedOnDemandCity : AwakeInput :=
  { suspendedCity with
    namedSessions := [{ identity := "boss", template := "worker", mode := .onDemand }]
    namedSessionDemand := fun identity => identity = "boss" }

/-- The agent of an always-running named session is looked up by the identity of the session. -/
theorem not_suspendedKeptDown : BasesApart suspendedCity ∧ NamesApart suspendedCity ∧
    ¬ SuspendedKeptDown suspendedCity := by
  refine ⟨by unfold BasesApart; decide, by unfold NamesApart; decide, fun keptDown => ?_⟩
  refine keptDown _ mem_cons_self ⟨_, mem_cons_self, rfl, rfl⟩
    { shouldWake := true, reason := .namedAlways } ?_ ⟨rfl, by decide⟩
  decide +kernel

theorem suspendedKeptDown_onDemand : SuspendedKeptDown suspendedOnDemandCity := by
  refine (suspendedKeptDown_iff (by unfold BasesApart; decide) (by unfold NamesApart; decide)).mpr ?_
  rintro b - - reason ⟨earlier, ns, later, is, ⟨-, asks, -⟩, -⟩
  obtain rfl : { identity := "boss", template := "worker", mode := .onDemand } = ns := by
    have mem : ns ∈ suspendedOnDemandCity.namedSessions := is ▸ mem_append_right _ mem_cons_self
    exact (mem_singleton.mp mem).symm
  exact absurd asks.2 (by decide +kernel)

end GasCity.Awake
