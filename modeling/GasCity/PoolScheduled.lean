import GasCity.PoolSchedule

namespace GasCity

open List

def acceptedRequests (result : List PoolDesiredState) : List SessionRequest :=
  result.flatMap PoolDesiredState.requests

def runsInRig (city : PoolCity) (name : String) (r : SessionRequest) : Bool :=
  city.agents.any fun a => a.qualifiedName == r.template && a.dir == name && name != ""

def AtCap (city : PoolCity) (requests : List SessionRequest) (template : String) : Prop :=
  ∃ level ∈ (newNestedCapLimits city).levels template,
    (newNestedCapLimits city).quotas.full requests level = true

/-- What a schedule promises: no set cap is exceeded and no session is requested
twice; of the requests of assigned work, taken in the cap order, one is left out
only if its session is accepted already or one of its caps is filled by those
accepted before it; all requests of the demand pass are accepted; and a template
that stays below its floor is at one of its caps. -/
structure Scheduled (city : PoolCity) (input : PoolInput) (accepted : List SessionRequest) : Prop where
  agentCap : ∀ a ∈ city.agents, ∀ m, resolvedMaxActiveSessions city a = some m → 0 ≤ m →
    ((accepted.countP (·.template = a.qualifiedName) : Nat) : Int) ≤ m
  rigCap : ∀ rig ∈ city.rigs, ∀ m, rig.maxActiveSessions = some m → 0 ≤ m →
    ((accepted.countP (runsInRig city rig.name) : Nat) : Int) ≤ m
  workspaceCap : ∀ m, city.workspaceMax = some m → 0 ≤ m → (accepted.length : Int) ≤ m
  sessionsOnce : (sessionIDs accepted).Nodup
  requests : ∃ kept floors, accepted.Perm (kept ++ demandRequests city input ++ floors) ∧
    Floors floors ∧ kept.Sublist (capOrder city input) ∧
    ∀ before r after, capOrder city input = before ++ r :: after →
      ∃ earlier, earlier <+: kept ∧ earlier.Sublist before ∧
        (earlier ++ [r] <+: kept ∨
          (r.sessionBeadID ≠ "" ∧ r.sessionBeadID ∈ sessionIDs earlier) ∨
          AtCap city earlier r.template)
  floors : ∀ a ∈ city.agents, a.suspended = false → aliasHeld city input a.qualifiedName = false →
    accepted.countP (·.template = a.qualifiedName) < a.effectiveMinActiveSessions →
    AtCap city accepted a.qualifiedName

section limits

variable {city : PoolCity} {a : PoolAgent} {accepted : List SessionRequest}

theorem find_reverse_of_nodup {α β : Type} [BEq β] [LawfulBEq β] {f : α → β} {xs : List α}
    (distinct : (xs.map f).Nodup) {x : α} (mem : x ∈ xs) :
    xs.reverse.find? (fun y => f y == f x) = some x := by
  cases eq : xs.reverse.find? (fun y => f y == f x) with
  | none =>
    have missing := find?_eq_none.mp eq x (mem_reverse.mpr mem)
    simp at missing
  | some y =>
    have same : f y = f x := by simpa using find?_some eq
    rw [inj_on_of_nodup_map distinct
      (mem_reverse.mp (mem_of_find?_eq_some eq)) mem same]

theorem agentMax_eq (mem : a ∈ city.agents) :
    (newNestedCapLimits city).agentMax a.qualifiedName = (resolvedMaxActiveSessions city a).getD (-1) := by
  unfold newNestedCapLimits
  dsimp only
  rw [find_reverse_of_nodup city.agents_distinct mem]

theorem agentRig_eq (mem : a ∈ city.agents) :
    (newNestedCapLimits city).agentRig a.qualifiedName = a.dir := by
  unfold newNestedCapLimits
  dsimp only
  rw [find_reverse_of_nodup city.agents_distinct mem]

theorem rigMax_eq {rig : PoolRig} (mem : rig ∈ city.rigs) :
    (newNestedCapLimits city).rigMax rig.name = rig.maxActiveSessions.getD (-1) := by
  unfold newNestedCapLimits
  dsimp only
  rw [find_reverse_of_nodup city.rigs_distinct mem]

theorem load_agent (limits : NestedCapLimits) (template : String) :
    limits.quotas.load accepted (.agent template) = accepted.countP (·.template = template) := by
  refine countP_congr fun r _ => ?_
  simp only [decide_eq_true_eq, NestedCapLimits.quotas, mem_levels, CapLevel.agent.injEq, reduceCtorEq,
    and_false, or_false]
  exact eq_comm

theorem load_workspace (limits : NestedCapLimits) :
    limits.quotas.load accepted .workspace = accepted.length :=
  countP_eq_length.mpr fun _ _ => decide_eq_true (mem_levels.mpr (.inr (.inl rfl)))

theorem countP_runsInRig_le (city : PoolCity) (accepted : List SessionRequest) (name : String) :
    accepted.countP (runsInRig city name) ≤
      (newNestedCapLimits city).quotas.load accepted (.rig name) := by
  refine countP_mono_left fun r _ runs => decide_eq_true ?_
  simp only [runsInRig, any_eq_true, Bool.and_eq_true, beq_iff_eq, bne_iff_ne] at runs
  obtain ⟨a, mem, ⟨same, rfl⟩, named⟩ := runs
  have rig := agentRig_eq mem
  rw [same] at rig
  exact mem_levels.mpr (.inr (.inr ⟨rig.symm ▸ named, by rw [rig]⟩))

theorem caps_of_sound (sound : (newNestedCapLimits city).quotas.Sound accepted) :
    (∀ a ∈ city.agents, ∀ m, resolvedMaxActiveSessions city a = some m → 0 ≤ m →
      ((accepted.countP (·.template = a.qualifiedName) : Nat) : Int) ≤ m) ∧
    (∀ rig ∈ city.rigs, ∀ m, rig.maxActiveSessions = some m → 0 ≤ m →
      ((accepted.countP (runsInRig city rig.name) : Nat) : Int) ≤ m) ∧
    (∀ m, city.workspaceMax = some m → 0 ≤ m → (accepted.length : Int) ≤ m) := by
  refine ⟨fun a mem m set nonneg => ?_, fun rig mem m set nonneg => ?_, fun m set nonneg => ?_⟩
  · have cap : m.toNat ∈ (newNestedCapLimits city).quotas.cap (.agent a.qualifiedName) := by
      refine mem_asCap.mpr ?_
      rw [agentMax_eq mem, set, Option.getD_some]
      omega
    have within := sound.within _ _ cap
    rw [load_agent] at within
    omega
  · have cap : m.toNat ∈ (newNestedCapLimits city).quotas.cap (.rig rig.name) := by
      refine mem_asCap.mpr ?_
      rw [rigMax_eq mem, set, Option.getD_some]
      omega
    have within := sound.within _ _ cap
    have runs := countP_runsInRig_le city accepted rig.name
    omega
  · have cap : m.toNat ∈ (newNestedCapLimits city).quotas.cap .workspace := by
      refine mem_asCap.mpr ?_
      change _ = city.workspaceMax.getD (-1)
      rw [set, Option.getD_some]
      omega
    have within := sound.within _ _ cap
    rw [load_workspace] at within
    omega

end limits

theorem acceptedRequests_groupByTemplate (accepted : List SessionRequest) :
    (acceptedRequests (groupByTemplate accepted)).Perm accepted := by
  have keys := perm_insertionSort (· ≤ ·) (accepted.map SessionRequest.template).dedup
  unfold acceptedRequests groupByTemplate
  rw [flatMap_map]
  refine flatMap_filter_perm SessionRequest.template
    (keys.nodup_iff.mpr (nodup_dedup _)) fun r mem => ?_
  exact keys.mem_iff.mpr (mem_dedup.mpr (mem_map_of_mem mem))

variable {city : PoolCity} {input : PoolInput}

theorem keptRequests_split {before after : List SessionRequest} {r : SessionRequest}
    (order : capOrder city input = before ++ r :: after) :
    ∃ earlier, earlier <+: keptRequests city input ∧ earlier.Sublist before ∧
      (earlier ++ [r] <+: keptRequests city input ∨
        (r.sessionBeadID ≠ "" ∧ r.sessionBeadID ∈ sessionIDs earlier) ∨
        AtCap city earlier r.template) := by
  unfold keptRequests
  rw [order]
  refine ⟨(newNestedCapLimits city).quotas.sweep [] before, ?_, Quotas.sublist_sweep _ _, ?_⟩
  · rw [Quotas.sweep_append]
    exact Quotas.prefix_sweep _ _
  · refine (Quotas.sweep_split [] before after r).imp id (Or.imp (fun seen => ?_) id)
    obtain ⟨id, key, q, mem, named⟩ := Quotas.seen_iff.mp seen
    have keyed : id ∈ sessionIDs ((newNestedCapLimits city).quotas.sweep [] before) := by
      rw [← filterMap_key (newNestedCapLimits city)]
      exact mem_filterMap.mpr ⟨q, mem, named⟩
    simp only [NestedCapLimits.quotas, Option.mem_def] at key
    split at key
    · cases key
    next some =>
      cases key
      exact ⟨some, keyed⟩

/-- For sessions with distinct ids, pool scheduling keeps all caps and drops
nothing it promised. -/
theorem computePoolDesiredStates_scheduled (city : PoolCity) (input : PoolInput)
    (priorities : ∀ wb ∈ input.assignedWorkBeads, 0 ≤ wb.priority.getD 0)
    (distinct : (input.sessionInfos.map SessionInfo.id).Nodup) :
    Scheduled city input (acceptedRequests (computePoolDesiredStates city input)) := by
  obtain ⟨taken, kept⟩ := demanded_eq distinct city priorities
  obtain ⟨⟨final, floors, added, isFloor⟩, met⟩ := foldl_fillMin_fills
    (fun a => a.suspended || aliasHeld city input a.qualifiedName) city.agents kept
  generalize accepted : (city.agents.foldl (fun state a =>
    if (a.suspended || aliasHeld city input a.qualifiedName) = true then state
    else fillMin (newNestedCapLimits city) a.qualifiedName a.effectiveMinActiveSessions
      a.effectiveMinActiveSessions state) (demanded city input)) = filled at final added met
  have perm : (acceptedRequests (computePoolDesiredStates city input)).Perm filled.1 := by
    rw [← accepted]
    exact acceptedRequests_groupByTemplate _
  have sound := final.sound.perm perm.symm
  obtain ⟨agentCap, rigCap, workspaceCap⟩ := caps_of_sound sound
  refine ⟨agentCap, rigCap, workspaceCap, ?_, ?_, ?_⟩
  · rw [← filterMap_key (newNestedCapLimits city)]
    exact sound.keys
  · refine ⟨keptRequests city input, floors, ?_, isFloor, Quotas.sublist_sweep _ _,
      fun before r after order => keptRequests_split order⟩
    rw [← taken, ← added]
    exact perm
  · intro a mem used free below
    rcases met a mem (by simp [used, free]) with enough | ⟨level, charged, full⟩
    · rw [load_agent, ← perm.countP_eq] at enough
      omega
    · refine ⟨level, charged, ?_⟩
      obtain ⟨cap, is, le⟩ := Quotas.full_iff.mp full
      exact Quotas.full_iff.mpr ⟨cap, is, by rwa [Quotas.load_perm perm]⟩

/-- A city with one agent of at most two sessions, whose names stand for
themselves. -/
def soloCity : PoolCity where
  agents := [{ name := "worker", maxActiveSessions := some 2 }]
  rigs := []
  names := ⟨SessionInfo.storedTemplate, id, fun name other => name == other, fun _ => false⟩
  agents_distinct := nodup_singleton _
  rigs_distinct := nodup_nil

def creatingSession (id : String) : SessionInfo :=
  { id, template := "worker", poolManaged := true, poolSlot := "1", metadataState := "creating" }

def soloInput (sessions : List SessionInfo) : PoolInput where
  assignedWorkBeads := []
  sessionInfos := sessions
  scaleCheckCounts _ := some 2
  scaleCheckDemand _ := { workBeadIDs := ["w-1", "w-2"] }

/-- A session that is listed twice is requested twice by the demand pass, and
the work bead of the second request is dropped. -/
theorem demandRequests_dropped :
    "w-2" ∈ (demandRequests soloCity (soloInput [creatingSession "gc-1", creatingSession "gc-1"])).map
      SessionRequest.workBeadID ∧
    "w-2" ∉ (acceptedRequests (computePoolDesiredStates soloCity
      (soloInput [creatingSession "gc-1", creatingSession "gc-1"]))).map
        SessionRequest.workBeadID := by
  constructor <;> decide +kernel

theorem computePoolDesiredStates_scheduled_solo :
    Scheduled soloCity (soloInput [creatingSession "gc-1", creatingSession "gc-2"])
      (acceptedRequests (computePoolDesiredStates soloCity
        (soloInput [creatingSession "gc-1", creatingSession "gc-2"]))) :=
  computePoolDesiredStates_scheduled soloCity _ (fun _ mem => absurd mem not_mem_nil)
    (by decide +kernel)

end GasCity
