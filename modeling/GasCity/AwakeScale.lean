import GasCity.AwakeSuspended

namespace GasCity

open Function KeyedList List

namespace Awake

def resetDue (b : AwakeSessionBead) : Bool :=
  b.continuationResetPending && !b.restartRequested && !b.waitHold

variable (input : AwakeInput)

def idleExpired (b : AwakeSessionBead) : Bool :=
  idleTooLong input b && !sessionHasAssignedWork input.workBeads input.namedSessions b && !resetDue b

variable (template : String)

def isAble (b : AwakeSessionBead) : Bool :=
  isMinActivePoolBead b template && (b.state = .active || isCreatingCandidateState b.state) &&
    !minActiveHardBlocked b input.now && !idleExpired input b

def isAwake (b : AwakeSessionBead) : Bool :=
  (computeAwakeSet input b.sessionName).any AwakeDecision.shouldWake

def holdsSlot (b : AwakeSessionBead) : Bool :=
  b.template = template && b.state ≠ .closed && b.namedIdentity = "" && !b.configuredNamedSession &&
    !b.manualSession && sessionHasAssignedWork input.workBeads input.namedSessions b

def takesSlot (b : AwakeSessionBead) : Bool :=
  isMinActivePoolBead b template &&
    ((b.state = .active && !minActiveHardBlocked b input.now) || isCreatingCandidateState b.state)

/-- No slot of a template goes to a session that is held, quarantined, waiting or idle for too long. -/
def SlotsUsable : Prop :=
  ∀ b ∈ input.sessionBeads, holdsSlot input template b = true ∨ takesSlot input template b = true →
    minActiveHardBlocked b input.now = false ∧ idleExpired input b = false

section Awake

variable {input : AwakeInput} {b : AwakeSessionBead}

theorem isSome_reviveMinActive {enough : Int} {n : String} :
    ∀ {beads : List AwakeSessionBead} {covered : Int} {desired : Desired}, (desired n).isSome = true →
      reviveMinActive input enough beads covered desired n = desired n
  | [], _, _, _ => rfl
  | a :: rest, covered, desired, wanted => by
    unfold reviveMinActive
    split
    · rfl
    · split
      · exact isSome_reviveMinActive wanted
      next unwanted =>
        split
        · exact isSome_reviveMinActive wanted
        · have other : n ≠ a.sessionName := by
            rintro rfl
            exact unwanted wanted
          have same := update_of_ne other (some WakeReason.minActive) desired
          rw [isSome_reviveMinActive (by rw [same]; exact wanted), same]

theorem warm_of_isSome {n : String} :
    ∀ {agents : List AwakeAgent} {desired : Desired}, (desired n).isSome = true →
      agents.foldl (minActiveStep input) desired n = desired n
  | [], _, _ => rfl
  | a :: rest, desired, wanted => by
    have step : minActiveStep input desired a n = desired n := by
      unfold minActiveStep
      split
      · rfl
      · exact isSome_reviveMinActive wanted
    rw [foldl_cons, warm_of_isSome (by rw [step]; exact wanted), step]

theorem desiredSet_of_demand (names : NamesApart input) (mem : b ∈ input.sessionBeads)
    {reason : WakeReason}
    (wanted : writeAll (fun _ => none) (demandWrites input) b.sessionName = some reason) :
    desiredSet input b.sessionName = resetOver b (some reason) := by
  unfold desiredSet
  rw [resets_self names mem, warm_of_isSome (by rw [wanted]; rfl), wanted]

theorem shouldWake_decideBead {desired : Desired} {anchors : String → Option String}
    (wanted : (desired b.sessionName).isSome = true) (free : minActiveHardBlocked b input.now = false)
    (busy : sparesIdle (desired b.sessionName) = true ∨ idleTooLong input b = false) :
    (decideBead input desired anchors b).shouldWake = true := by
  simp only [minActiveHardBlocked, Bool.or_eq_false_iff] at free
  obtain ⟨⟨noWait, notHeld⟩, notQuarantined⟩ := free
  have demand : (demandDecision desired b (assignedDecision anchors b)).shouldWake = true := by
    obtain ⟨reason, asked⟩ := Option.isSome_iff_exists.mp wanted
    unfold demandDecision
    rw [asked]
    simp [noWait]
  have override : ∀ {d : AwakeDecision}, d.shouldWake = true →
      (overrideDecision input b d).shouldWake = true := by
    intro d awake
    unfold overrideDecision
    split
    · rfl
    · split
      · rfl
      · split
        · rfl
        · exact awake
  have running : ∀ {d : AwakeDecision}, d.shouldWake = true →
      (runningDecision input b d).shouldWake = true := by
    intro d awake
    unfold runningDecision
    split
    · rfl
    · exact awake
  have pinned : ∀ {d : AwakeDecision}, d.shouldWake = true →
      (pinDecision input b d).shouldWake = true := by
    intro d awake
    unfold pinDecision
    split
    · rfl
    · exact awake
  have idle : ∀ {d : AwakeDecision}, d.shouldWake = true →
      (idleDecision input desired b d).shouldWake = true := by
    intro d awake
    unfold idleDecision
    rw [if_neg]
    · exact awake
    · rintro ⟨_, unspared, tooLong⟩
      rcases busy with spared | short
      · rw [spared] at unspared
        cases unspared
      · rw [short] at tooLong
        cases tooLong
  unfold decideBead blockDecision
  rw [notHeld, notQuarantined]
  exact idle (pinned (running (override demand)))

/-- A session that work or demand for its template asks for is awake when it is not blocked or idle. -/
theorem isAwake_of_demand (names : NamesApart input) (mem : b ∈ input.sessionBeads)
    {reason : WakeReason}
    (wanted : writeAll (fun _ => none) (demandWrites input) b.sessionName = some reason)
    (late : reason ≠ .pendingCreate ∧ reason ≠ .explicitWake)
    (working : sessionHasAssignedWork input.workBeads input.namedSessions b = true →
      reason = .assignedWork)
    (free : minActiveHardBlocked b input.now = false) (busy : idleExpired input b = false) :
    isAwake input b = true := by
  unfold isAwake
  rw [computeAwakeSet_of_mem names mem]
  have desired := desiredSet_of_demand names mem wanted
  refine shouldWake_decideBead ?_ free ?_
  · rw [desired]
    unfold resetOver
    split
    · rfl
    · split <;> rfl
  · rw [desired]
    cases tooLong : idleTooLong input b with
    | false => exact .inr rfl
    | true =>
      left
      cases reset : resetDue b with
      | true =>
        simp only [resetDue, Bool.and_eq_true, Bool.not_eq_true'] at reset
        unfold resetOver
        rw [if_neg (by simp [reset]), if_neg (by simp [late])]
        rfl
      | false =>
        have worked : sessionHasAssignedWork input.workBeads input.namedSessions b = true := by
          simpa [idleExpired, tooLong, reset] using busy
        rw [working worked]
        unfold resetOver
        split <;> rfl

end Awake

section Slots

variable {input : AwakeInput} {b : AwakeSessionBead} {template : String}

theorem demandWrites_late (input : AwakeInput) :
    demandWrites input = (pendingCreateWrites input ++ explicitWakeWrites input ++ namedWrites input) ++
      (scaledWrites input ++ workSetWrites input ++ manualWrites input ++ assignedWorkWrites input) := by
  unfold demandWrites
  simp only [append_assoc]

theorem writeAll_isSome {α : Type} {m : String → Option α} {ws : List (String × α)} {n : String} {a : α}
    (mem : (n, a) ∈ ws) : ∃ a', writeAll m ws n = some a' ∧ (n, a') ∈ ws := by
  induction ws using List.reverseRecOn with
  | nil => cases mem
  | append_singleton ws w ih =>
    rw [writeAll_append]
    by_cases here : n = w.1
    · exact ⟨w.2, by rw [here]; exact update_self .., by rw [here]; simp⟩
    · have earlier : (n, a) ∈ ws := by
        refine (mem_append.mp mem).resolve_right fun last => here ?_
        rw [← mem_singleton.mp last]
      obtain ⟨a', written, found⟩ := ih earlier
      exact ⟨a', (update_of_ne here ..).trans written, mem_append_left _ found⟩

theorem demand_of_assigned (mem : b ∈ input.sessionBeads) (present : b.state ≠ .closed)
    (active : isAwakeable (lookupAgent input b.template) = true)
    (worked : sessionHasAssignedWork input.workBeads input.namedSessions b = true) :
    writeAll (fun _ => none) (demandWrites input) b.sessionName = some .assignedWork := by
  have unsuspended : isSuspended (lookupAgent input b.template) = false := by
    cases found : lookupAgent input b.template with
    | none => rfl
    | some a => simpa [isAwakeable, isSuspended, found] using active
  have anchored : ∃ anchor, anchorBead input.workBeads input.namedSessions b = some anchor := by
    unfold anchorBead
    cases work : assignedWork input.workBeads input.namedSessions b with
    | nil =>
      rw [sessionHasAssignedWork, work] at worked
      simp at worked
    | cons first rest =>
      dsimp only
      split <;> exact ⟨_, rfl⟩
  obtain ⟨anchor, here⟩ := anchored
  have inside : (b.sessionName, WakeReason.assignedWork) ∈ assignedWorkWrites input := by
    refine mem_map.mpr ⟨(b.sessionName, anchor), mem_filterMap.mpr ⟨b, mem, ?_⟩, rfl⟩
    unfold anchorWrite
    rw [if_neg present, unsuspended, here]
    rfl
  unfold demandWrites
  rw [writeAll_append]
  obtain ⟨reason, written, chosen⟩ := writeAll_isSome inside
  obtain ⟨_, _, same⟩ := mem_map.mp chosen
  rw [written, show reason = .assignedWork from (congrArg Prod.snd same).symm]

theorem late_of_mem {w : String × WakeReason}
    (mem : w ∈ scaledWrites input ++ workSetWrites input ++ manualWrites input ++
      assignedWorkWrites input) : w.2 ≠ .pendingCreate ∧ w.2 ≠ .explicitWake := by
  have reasons : w.2 = .scaledDemand ∨ w.2 = .scaledCreating ∨ w.2 = .workQuery ∨ w.2 = .manual ∨
      w.2 = .assignedWork := by
    rw [mem_append, mem_append, mem_append] at mem
    rcases mem with ((scaled | workSet) | manual) | assigned
    · rcases (mem_scaledWrites scaled).1 with same | same <;> simp [same]
    · simp [(mem_workSetWrites workSet).1]
    · simp [(mem_manualWrites manual).1]
    · obtain ⟨_, _, rfl⟩ := mem_map.mp assigned
      simp
  rcases reasons with same | same | same | same | same <;> rw [same] <;> exact ⟨nofun, nofun⟩

theorem demand_of_late {reason : WakeReason}
    (mem : (b.sessionName, reason) ∈ scaledWrites input ++ workSetWrites input ++ manualWrites input ++
      assignedWorkWrites input) :
    ∃ asked, writeAll (fun _ => none) (demandWrites input) b.sessionName = some asked ∧
      asked ≠ .pendingCreate ∧ asked ≠ .explicitWake := by
  rw [demandWrites_late, writeAll_append]
  obtain ⟨asked, written, inside⟩ := writeAll_isSome mem
  exact ⟨asked, written, late_of_mem inside⟩

def withoutWork (input : AwakeInput) (beads : List AwakeSessionBead) : List AwakeSessionBead :=
  beads.filter fun b => !sessionHasAssignedWork input.workBeads input.namedSessions b

theorem fillSlots_spec (input : AwakeInput) (count : Int) :
    ∀ (beads : List AwakeSessionBead) (filled : Int),
      (fillSlots input count beads filled).1.Sublist (withoutWork input beads) ∧
      (fillSlots input count beads filled).2 = filled + (fillSlots input count beads filled).1.length ∧
      min count (filled + (withoutWork input beads).length) ≤
        filled + (fillSlots input count beads filled).1.length
  | [], filled => by simp [fillSlots, withoutWork]
  | a :: rest, filled => by
    unfold fillSlots
    split
    next full =>
      refine ⟨nil_sublist _, by simp, ?_⟩
      simp only [length_nil]
      omega
    next =>
      split
      next worked =>
        rw [withoutWork, filter_cons_of_neg (by simp [worked])]
        exact fillSlots_spec input count rest filled
      next free =>
        obtain ⟨sub, total, enough⟩ := fillSlots_spec input count rest (filled + 1)
        rw [withoutWork, filter_cons_of_pos (by simpa using free)]
        unfold withoutWork at sub enough
        refine ⟨sub.cons_cons a, ?_, ?_⟩
        · rw [total]
          simp only [length_cons]
          omega
        · simp only [length_cons]
          omega

theorem mem_of_isAble (mem : b ∈ input.sessionBeads) (able : isAble input template b = true) :
    b ∈ collectActiveBeads input.sessionBeads template input.now ∨
      b ∈ collectCreatingBeads input.sessionBeads template := by
  simp only [isAble, isMinActivePoolBead, Bool.and_eq_true, Bool.or_eq_true, decide_eq_true_eq,
    Bool.not_eq_true'] at able
  obtain ⟨⟨⟨pool, state⟩, free⟩, _⟩ := able
  rcases state with active | creating
  · left
    unfold collectActiveBeads
    rw [mem_insertionSort, mem_filter]
    simp [mem, pool, active, free]
  · right
    unfold collectCreatingBeads
    rw [mem_filter]
    simp [mem, pool, creating]

theorem takesSlot_of_active (mem : b ∈ collectActiveBeads input.sessionBeads template input.now) :
    takesSlot input template b = true ∧ b.state = .active := by
  unfold collectActiveBeads at mem
  rw [mem_insertionSort, mem_filter] at mem
  simp only [Bool.and_eq_true, decide_eq_true_eq] at mem
  obtain ⟨_, ⟨⟨⟨⟨⟨⟨here, active⟩, unnamed⟩, unset⟩, auto⟩, undrained⟩, free⟩, unblocked⟩ := mem
  refine ⟨?_, active⟩
  simp [takesSlot, isMinActivePoolBead, here, active, unnamed, unset, auto, undrained, free, unblocked]

theorem takesSlot_of_creating (mem : b ∈ collectCreatingBeads input.sessionBeads template) :
    takesSlot input template b = true ∧ isCreatingCandidateState b.state = true := by
  unfold collectCreatingBeads at mem
  rw [mem_filter] at mem
  simp only [Bool.and_eq_true, decide_eq_true_eq] at mem
  obtain ⟨_, ⟨⟨⟨⟨⟨here, creating⟩, unnamed⟩, unset⟩, auto⟩, undrained⟩, free⟩ := mem
  have present : b.state ≠ .closed := by
    intro closed
    rw [closed] at creating
    cases creating
  refine ⟨?_, creating⟩
  simp [takesSlot, isMinActivePoolBead, here, creating, unnamed, unset, auto, undrained, free, present]

theorem isAble_of_takesSlot (takes : takesSlot input template b = true)
    (free : minActiveHardBlocked b input.now = false) (busy : idleExpired input b = false) :
    isAble input template b = true := by
  simp only [takesSlot, Bool.and_eq_true, Bool.or_eq_true, decide_eq_true_eq] at takes
  obtain ⟨pool, ⟨active, _⟩ | creating⟩ := takes
  · simp [isAble, pool, active, free, busy]
  · simp [isAble, pool, creating, free, busy]

theorem holdsSlot_of_isAble (able : isAble input template b = true)
    (worked : sessionHasAssignedWork input.workBeads input.namedSessions b = true) :
    holdsSlot input template b = true := by
  simp only [isAble, isMinActivePoolBead, Bool.and_eq_true] at able
  obtain ⟨⟨⟨⟨⟨⟨⟨⟨⟨here, unnamed⟩, unset⟩, auto⟩, _⟩, _⟩, present⟩, _⟩, _⟩, _⟩ := able
  simp [holdsSlot, here, unnamed, unset, auto, present, worked]

theorem beads_nodup (names : NamesApart input) : input.sessionBeads.Nodup := List.Nodup.of_map _ names

theorem active_nodup (names : NamesApart input) :
    (collectActiveBeads input.sessionBeads template input.now).Nodup :=
  (perm_insertionSort _ _).nodup_iff.mpr ((beads_nodup names).filter _)

theorem length_le_of_subset {l l' : List AwakeSessionBead} (apart : l.Nodup) (inside : l ⊆ l') :
    l.length ≤ l'.length :=
  (apart.subperm inside).length_le

theorem isAwake_of_holdsSlot (names : NamesApart input) (mem : b ∈ input.sessionBeads)
    (active : isAwakeable (lookupAgent input template) = true)
    (holds : holdsSlot input template b = true) (free : minActiveHardBlocked b input.now = false)
    (busy : idleExpired input b = false) : isAwake input b = true := by
  simp only [holdsSlot, Bool.and_eq_true, decide_eq_true_eq] at holds
  obtain ⟨⟨⟨⟨⟨here, present⟩, _⟩, _⟩, _⟩, worked⟩ := holds
  rw [← here] at active
  exact isAwake_of_demand names mem (demand_of_assigned mem present active worked) ⟨nofun, nofun⟩
    (fun _ => rfl) free busy

section Served

variable {c : Int} (names : NamesApart input) (mem : b ∈ input.sessionBeads)
  (asked : input.scaleCheckCounts.find template = some (template, c)) (positive : 0 < c)
  (active : isAwakeable (lookupAgent input template) = true)
  (free : minActiveHardBlocked b input.now = false) (busy : idleExpired input b = false)
  (idle : sessionHasAssignedWork input.workBeads input.namedSessions b = false)

include names mem asked positive active free busy idle

theorem isAwake_of_slot (chosen : b ∈ (scaledBeads input template c).1 ++ (scaledBeads input template c).2) :
    isAwake input b = true := by
  have written : ∃ reason, (b.sessionName, reason) ∈ scaledTemplateWrites input (template, c) := by
    unfold scaledTemplateWrites
    rw [if_neg (by simpa using positive), if_neg (by simp [active])]
    rcases mem_append.mp chosen with first | second
    · exact ⟨_, mem_append_left _ (mem_map_of_mem first)⟩
    · exact ⟨_, mem_append_right _ (mem_map_of_mem second)⟩
  obtain ⟨reason, inside⟩ := written
  have scaled : (b.sessionName, reason) ∈ scaledWrites input :=
    mem_flatMap.mpr ⟨_, mem_of_find asked, inside⟩
  obtain ⟨wanted, demand, late⟩ := demand_of_late
    (mem_append_left _ (mem_append_left _ (mem_append_left _ scaled)))
  exact isAwake_of_demand names mem demand late (fun worked => by rw [idle] at worked; cases worked)
    free busy

end Served

def slotHolders (input : AwakeInput) (template : String) : List AwakeSessionBead :=
  input.sessionBeads.filter (holdsSlot input template)

theorem mem_withoutWork {beads : List AwakeSessionBead} (mem : b ∈ withoutWork input beads) :
    b ∈ beads ∧ sessionHasAssignedWork input.workBeads input.namedSessions b = false := by
  obtain ⟨inside, free⟩ := mem_filter.mp mem
  exact ⟨inside, by simpa using free⟩

theorem scaledBeads_spec (input : AwakeInput) (template : String) (c : Int) :
    (scaledBeads input template c).1.Sublist
      (withoutWork input (collectActiveBeads input.sessionBeads template input.now)) ∧
    (scaledBeads input template c).2.Sublist
      (withoutWork input (collectCreatingBeads input.sessionBeads template)) ∧
    min c ((slotHolders input template).length +
        (withoutWork input (collectActiveBeads input.sessionBeads template input.now)).length +
        (withoutWork input (collectCreatingBeads input.sessionBeads template)).length) ≤
      (slotHolders input template).length + (scaledBeads input template c).1.length +
        (scaledBeads input template c).2.length := by
  have filled : countAssignedScaleSlots input.workBeads input.namedSessions input.sessionBeads template =
      (slotHolders input template).length := countP_eq_length_filter
  unfold scaledBeads
  dsimp only
  rw [filled]
  obtain ⟨sub₁, total, enough₁⟩ := fillSlots_spec input c
    (collectActiveBeads input.sessionBeads template input.now) (slotHolders input template).length
  obtain ⟨sub₂, _, enough₂⟩ := fillSlots_spec input c
    (collectCreatingBeads input.sessionBeads template)
    (fillSlots input c (collectActiveBeads input.sessionBeads template input.now)
      (slotHolders input template).length).2
  refine ⟨sub₁, sub₂, ?_⟩
  omega

theorem able_le_candidates (names : NamesApart input) (template : String) :
    input.sessionBeads.countP (isAble input template) ≤ (slotHolders input template).length +
      (withoutWork input (collectActiveBeads input.sessionBeads template input.now)).length +
      (withoutWork input (collectCreatingBeads input.sessionBeads template)).length := by
  rw [countP_eq_length_filter, ← length_append, ← length_append]
  refine length_le_of_subset ((beads_nodup names).filter _) fun b inside => ?_
  obtain ⟨mem, able⟩ := mem_filter.mp inside
  rw [append_assoc, mem_append, mem_append]
  cases worked : sessionHasAssignedWork input.workBeads input.namedSessions b with
  | true => exact .inl (mem_filter.mpr ⟨mem, holdsSlot_of_isAble able worked⟩)
  | false =>
    rcases mem_of_isAble mem able with isActive | isCreating
    · exact .inr (.inl (mem_filter.mpr ⟨isActive, by simp [worked]⟩))
    · exact .inr (.inr (mem_filter.mpr ⟨isCreating, by simp [worked]⟩))

theorem slots_nodup (names : NamesApart input) (c : Int) :
    (slotHolders input template ++ (scaledBeads input template c).1 ++
      (scaledBeads input template c).2).Nodup := by
  obtain ⟨sub₁, sub₂, _⟩ := scaledBeads_spec input template c
  have works : ∀ {b}, b ∈ slotHolders input template →
      sessionHasAssignedWork input.workBeads input.namedSessions b = true := by
    intro b holds
    have worked := (mem_filter.mp holds).2
    simp only [holdsSlot, Bool.and_eq_true] at worked
    exact worked.2
  refine nodup_append.mpr ⟨nodup_append.mpr ⟨(beads_nodup names).filter _,
    sub₁.nodup ((active_nodup names).filter _), ?_⟩, sub₂.nodup
      (((beads_nodup names).filter _).filter _), ?_⟩
  · rintro b holds b' isFirst rfl
    have worked := works holds
    rw [(mem_withoutWork (sub₁.subset isFirst)).2] at worked
    cases worked
  · rintro b inside b' isSecond rfl
    rcases mem_append.mp inside with holds | isFirst
    · have worked := works holds
      rw [(mem_withoutWork (sub₂.subset isSecond)).2] at worked
      cases worked
    · have isActive := (takesSlot_of_active (mem_withoutWork (sub₁.subset isFirst)).1).2
      have isCreating := (takesSlot_of_creating (mem_withoutWork (sub₂.subset isSecond)).1).2
      rw [isActive] at isCreating
      cases isCreating

/-- The demand for a template is served by sessions that can serve it, as far as there are any, after the
slots of the sessions with assigned work. -/
theorem scaleDemand_served {c : Int} (names : NamesApart input)
    (asked : input.scaleCheckCounts.find template = some (template, c)) (positive : 0 < c)
    (active : isAwakeable (lookupAgent input template) = true) (usable : SlotsUsable input template) :
    min c (input.sessionBeads.countP (isAble input template)) ≤
      (input.sessionBeads.countP fun b => isAble input template b && isAwake input b) +
        (input.sessionBeads.countP fun b => holdsSlot input template b && !isAble input template b &&
          isAwake input b) := by
  obtain ⟨sub₁, sub₂, enough⟩ := scaledBeads_spec input template c
  have able := able_le_candidates names template
  have slots : (slotHolders input template).length + (scaledBeads input template c).1.length +
      (scaledBeads input template c).2.length ≤
      (input.sessionBeads.countP fun b => isAble input template b && isAwake input b) +
        (input.sessionBeads.countP fun b => holdsSlot input template b && !isAble input template b &&
          isAwake input b) := by
    rw [countP_eq_length_filter, countP_eq_length_filter, ← length_append,
      ← length_append, ← length_append]
    refine length_le_of_subset (slots_nodup names c) fun b inside => ?_
    rw [append_assoc, mem_append] at inside
    rw [mem_append, mem_filter, mem_filter]
    rcases inside with holds | isChosen
    · obtain ⟨mem, holds⟩ := mem_filter.mp holds
      obtain ⟨free, busy⟩ := usable b mem (.inl holds)
      have awake := isAwake_of_holdsSlot names mem active holds free busy
      cases able : isAble input template b with
      | true => exact .inl ⟨mem, by rw [awake]; rfl⟩
      | false => exact .inr ⟨mem, by rw [awake, holds]; rfl⟩
    · have takes : takesSlot input template b = true ∧ b ∈ input.sessionBeads ∧
          sessionHasAssignedWork input.workBeads input.namedSessions b = false := by
        rcases mem_append.mp isChosen with isFirst | isSecond
        · obtain ⟨isActive, idle⟩ := mem_withoutWork (sub₁.subset isFirst)
          exact ⟨(takesSlot_of_active isActive).1, (mem_collectActiveBeads isActive).1, idle⟩
        · obtain ⟨isCreating, idle⟩ := mem_withoutWork (sub₂.subset isSecond)
          exact ⟨(takesSlot_of_creating isCreating).1, (mem_collectCreatingBeads isCreating).1, idle⟩
      obtain ⟨takes, mem, idle⟩ := takes
      obtain ⟨free, busy⟩ := usable b mem (.inr takes)
      have awake := isAwake_of_slot names mem asked positive active free busy idle isChosen
      exact .inl ⟨mem, by rw [isAble_of_takesSlot takes free busy, awake]; rfl⟩
  omega

end Slots

section Cities

/-- One slot for a template with a session asleep that has work and one at hand that has none. -/
def workingSleeper : AwakeInput where
  agents := [{ qualifiedName := "worker" }]
  sessionBeads :=
    [{ id := "s-1", sessionName := "one", template := "worker", state := .asleep },
      { id := "s-2", sessionName := "two", template := "worker", state := .active }]
  workBeads := [{ id := "w-1", assignee := "one", status := .inProgress }]
  scaleCheckCounts := ofRows [("worker", 1)]

/-- The slot of a session that work will wake is not given out again. -/
theorem able_left_asleep : NamesApart workingSleeper ∧
    (workingSleeper.sessionBeads.map AwakeSessionBead.id).Nodup ∧
    workingSleeper.scaleCheckCounts.find "worker" = some ("worker", 1) ∧
    isAwakeable (lookupAgent workingSleeper "worker") = true ∧
    ¬ min 1 (workingSleeper.sessionBeads.countP (isAble workingSleeper "worker")) ≤
      workingSleeper.sessionBeads.countP fun b =>
        isAble workingSleeper "worker" b && isAwake workingSleeper b := by
  refine ⟨by unfold NamesApart; decide, by decide, by decide +kernel, by decide +kernel, ?_⟩
  decide +kernel

theorem scaleDemand_served_workingSleeper :
    min 1 ((workingSleeper.sessionBeads.countP (isAble workingSleeper "worker") : Nat) : Int) ≤
      (workingSleeper.sessionBeads.countP fun b =>
        isAble workingSleeper "worker" b && isAwake workingSleeper b) +
      (workingSleeper.sessionBeads.countP fun b => holdsSlot workingSleeper "worker" b &&
        !isAble workingSleeper "worker" b && isAwake workingSleeper b) := by
  refine scaleDemand_served (by unfold NamesApart; decide) (by decide +kernel) (by decide)
    (by decide +kernel) ?_
  unfold SlotsUsable
  decide +kernel

end Cities

end Awake

end GasCity
