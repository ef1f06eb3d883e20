import GasCity.PoolCaps

namespace GasCity

open List SessionRequest

def SessionRequest.shape (r : SessionRequest) : String × Int × RequestTier × String :=
  (r.template, r.beadPriority, r.tier, r.sessionBeadID)

def SessionRequest.NewFor (r : SessionRequest) (template : String) : Prop :=
  r.template = template ∧ r.beadPriority = 0 ∧ r.tier = .new

section allocate

variable {demand : ScaleDemand}

theorem shape_withProvenance (r : SessionRequest) (id : String) :
    (withProvenance demand r id).shape = r.shape := rfl

theorem foldl_matchDemand_shapes (concrete : List SessionRequest)
    (state : List (SessionRequest × Bool) × List String) :
    (concrete.foldl (matchDemand demand) state).1.map (·.1.shape) =
      state.1.map (·.1.shape) ++ concrete.map shape := by
  induction concrete generalizing state with
  | nil => simp
  | cons r concrete ih =>
    have step : (matchDemand demand state r).1.map (·.1.shape) =
        state.1.map (·.1.shape) ++ [r.shape] := by
      unfold matchDemand
      dsimp only
      split
      · simp [shape_withProvenance]
      · simp
    rw [foldl_cons, ih, step, map_cons, append_assoc, singleton_append]

theorem rebind_shapes (allocated : List (SessionRequest × Bool)) (remaining : List String) :
    (rebind demand allocated remaining).1.map shape = allocated.map (·.1.shape) := by
  induction allocated generalizing remaining with
  | nil => rfl
  | cons first rest ih =>
    obtain ⟨r, covered⟩ := first
    cases covered with
    | true => exact congrArg (r.shape :: ·) (ih remaining)
    | false =>
      cases remaining with
      | nil => exact congrArg (r.shape :: ·) (ih [])
      | cons id remaining => exact congrArg (r.shape :: ·) (ih remaining)

theorem allocate_shapes (demand : ScaleDemand) (concrete : List SessionRequest) :
    (allocateScaleDemandToConcrete demand concrete).1.map shape =
      concrete.map shape := by
  exact (rebind_shapes _ _).trans (foldl_matchDemand_shapes concrete ([], []))

theorem anonymousRequest_shape (demand : ScaleDemand) (template : String) (id : Option String) :
    (anonymousRequest demand template id).shape = (template, 0, .new, "") := by
  cases id <;> rfl

end allocate

def sessionIDs (requests : List SessionRequest) : List String :=
  (requests.map sessionBeadID).filter (· != "")

theorem filterMap_key (limits : NestedCapLimits) (requests : List SessionRequest) :
    requests.filterMap limits.quotas.key = sessionIDs requests := by
  unfold sessionIDs
  induction requests with
  | nil => rfl
  | cons r requests ih =>
    by_cases free : r.sessionBeadID = "" <;>
    · simp [NestedCapLimits.quotas, free] at ih ⊢
      exact ih

theorem sessionIDs_append (requests more : List SessionRequest) :
    sessionIDs (requests ++ more) = sessionIDs requests ++ sessionIDs more := by
  simp [sessionIDs]

theorem sessionIDs_sublist {requests more : List SessionRequest} (h : requests.Sublist more) :
    (sessionIDs requests).Sublist (sessionIDs more) :=
  (h.map _).filter _

theorem sessionIDs_of_shapes {requests more : List SessionRequest}
    (h : requests.map shape = more.map shape) :
    sessionIDs requests = sessionIDs more := by
  have ids := congrArg (map fun s => s.2.2.2) h
  simp only [map_map] at ids
  exact congrArg (filter (· != "")) ids

section batch

variable {limits : NestedCapLimits} {u : NestedCapUsage} {taken batch : List SessionRequest}
  {template : String}

theorem load_newFor (new : ∀ r ∈ batch, r.NewFor template) (level : CapLevel) :
    limits.quotas.load batch level = if level ∈ limits.levels template then batch.length else 0 := by
  split
  next charged =>
    refine countP_eq_length.mpr fun r mem => decide_eq_true ?_
    rw [← (new r mem).1] at charged
    exact charged
  next free =>
    refine countP_eq_zero.mpr fun r mem => ?_
    rw [decide_eq_true_eq]
    rw [← (new r mem).1] at free
    exact free

theorem capRoom_le (cap : Int) (count : Nat) (remaining : Int) :
    capRoom cap count remaining ≤ remaining := by
  unfold capRoom
  split <;> omega

theorem capRoom_le_cap {cap : Int} (set : 0 ≤ cap) (count : Nat) (remaining : Int) :
    capRoom cap count remaining ≤ cap - count := by
  rw [capRoom, if_pos set]
  exact min_le_right _ _

theorem capNewDemandCount_fits (tracks : u.Tracks limits taken) (sound : limits.quotas.Sound taken)
    (demand : Int) {level : CapLevel} (charged : level ∈ limits.levels template) {cap : Nat}
    (is : cap ∈ limits.quotas.cap level) :
    limits.quotas.load taken level + capNewDemandCount limits u template demand ≤ cap := by
  have within := sound.within level cap is
  unfold capNewDemandCount
  dsimp only
  generalize first : capRoom (limits.agentMax template) (u.agentCount template) demand = byAgent
  generalize second : (if (limits.agentRig template == "") = true then byAgent
    else capRoom (limits.rigMax (limits.agentRig template))
      (u.rigCount (limits.agentRig template)) byAgent) = byRig
  have least := capRoom_le limits.workspaceMax u.workspaceCount byRig
  have mid : byRig ≤ byAgent := by
    rw [← second]
    split
    · exact le_rfl
    · exact capRoom_le _ _ _
  rcases mem_levels.mp charged with rfl | rfl | ⟨named, rfl⟩
  · rw [← tracks.agent] at within ⊢
    have eq : (cap : Int) = limits.agentMax template := mem_asCap.mp is
    have bound := capRoom_le_cap (eq ▸ Int.natCast_nonneg cap) (u.agentCount template) demand
    omega
  · rw [← tracks.workspace] at within ⊢
    have eq : (cap : Int) = limits.workspaceMax := mem_asCap.mp is
    have bound := capRoom_le_cap (eq ▸ Int.natCast_nonneg cap) u.workspaceCount byRig
    omega
  · rw [← tracks.rig _ named] at within ⊢
    have eq : (cap : Int) = limits.rigMax (limits.agentRig template) := mem_asCap.mp is
    have bound := capRoom_le_cap (eq ▸ Int.natCast_nonneg cap)
      (u.rigCount (limits.agentRig template)) byAgent
    rw [if_neg (by simpa using named)] at second
    omega

/-- A batch of new requests of a template that the room allows, for sessions
that are not taken, keeps the caps and the keys. -/
theorem sound_append_batch (tracks : u.Tracks limits taken) (sound : limits.quotas.Sound taken)
    (new : ∀ r ∈ batch, r.NewFor template) (demand : Int)
    (fits : batch.length ≤ capNewDemandCount limits u template demand)
    (distinct : (sessionIDs batch).Nodup)
    (fresh : (sessionIDs taken).Disjoint (sessionIDs batch)) :
    limits.quotas.Sound (taken ++ batch) where
  within level cap is := by
    rw [Quotas.load_append, load_newFor new]
    split
    next charged =>
      have := capNewDemandCount_fits tracks sound demand charged is
      omega
    · exact sound.within level cap is
  keys := by
    have keys := sound.keys
    rw [filterMap_key] at keys
    rw [filterMap_key, sessionIDs_append]
    exact keys.append distinct fresh

end batch

/-- The sessions behind the demand of each template: every session once, and
each for one template only. -/
structure SessionPools (pool : String → List String) : Prop where
  distinct : ∀ template, (pool template).Nodup
  apart : ∀ template template', template ≠ template' → (pool template).Disjoint (pool template')

section pass

variable {city : PoolCity} {input : PoolInput} {protectedLeft : String → List SessionRequest}
  {resumeIDs : List String} {u : NestedCapUsage} {taken : List SessionRequest}

def demandPool (city : PoolCity) (input : PoolInput) (protectedLeft : String → List SessionRequest)
    (resumeIDs : List String) (template : String) : List String :=
  sessionIDs (protectedLeft template ++ inFlightNewRequests city input resumeIDs template)

theorem concreteRequests_newFor {kind : SessionInfo → Bool} {template : String} {r : SessionRequest}
    (h : r ∈ concreteRequests city input resumeIDs kind template) : r.NewFor template := by
  obtain ⟨a, -, mem⟩ := mem_flatMap.mp h
  obtain ⟨i, -, rfl⟩ := mem_map.mp mem
  exact ⟨rfl, rfl, rfl⟩

variable (left : ∀ template, ∀ r ∈ protectedLeft template, r.NewFor template)

include left

/-- What the demand pass asks for one agent: new requests of its template, no
more than there is room for, and sessions of its pool. -/
theorem newRequestsFor_batch (city : PoolCity) (input : PoolInput) (resumeIDs : List String)
    (u : NestedCapUsage) (a : PoolAgent) :
    (∀ r ∈ newRequestsFor city input protectedLeft resumeIDs u a, r.NewFor a.qualifiedName) ∧
    (∃ demand, (newRequestsFor city input protectedLeft resumeIDs u a).length ≤
      capNewDemandCount (newNestedCapLimits city) u a.qualifiedName demand) ∧
    (sessionIDs (newRequestsFor city input protectedLeft resumeIDs u a)).Sublist
      (demandPool city input protectedLeft resumeIDs a.qualifiedName) := by
  unfold newRequestsFor
  dsimp only
  split
  · exact ⟨by simp, ⟨0, by simp⟩, by simp [sessionIDs]⟩
  next used =>
    generalize max ((input.scaleCheckCounts a.qualifiedName).getD 0)
      ((protectedLeft a.qualifiedName).length : Int) = demand
    generalize count : capNewDemandCount (newNestedCapLimits city) u a.qualifiedName demand = newCount
    generalize picked : (inFlightNewRequests city input resumeIDs a.qualifiedName).take
      (newCount - min (protectedLeft a.qualifiedName).length newCount) = inFlight
    generalize concrete : (protectedLeft a.qualifiedName).take
      (min (protectedLeft a.qualifiedName).length newCount) ++ inFlight = selected
    have sub : selected.Sublist (protectedLeft a.qualifiedName ++
        inFlightNewRequests city input resumeIDs a.qualifiedName) := by
      rw [← concrete, ← picked]
      exact (take_sublist _ _).append (take_sublist _ _)
    have size : selected.length + (newCount - (min (protectedLeft a.qualifiedName).length newCount +
        inFlight.length)) ≤ newCount := by
      have atMost : inFlight.length ≤ newCount - min (protectedLeft a.qualifiedName).length newCount := by
        rw [← picked]
        exact length_take_le _ _
      rw [← concrete, length_append, length_take]
      omega
    have shapes := allocate_shapes (input.scaleCheckDemand a.qualifiedName) selected
    generalize allocateScaleDemandToConcrete (input.scaleCheckDemand a.qualifiedName) selected =
      allocated at shapes
    obtain ⟨requests, residual⟩ := allocated
    have lengths := congrArg length shapes
    rw [length_map, length_map] at lengths
    have shaped (j : Nat) := anonymousRequest_shape (input.scaleCheckDemand a.qualifiedName)
      a.qualifiedName residual[j]?
    simp only [shape, Prod.mk.injEq] at shaped
    refine ⟨fun r mem => ?_, ⟨demand, ?_⟩, ?_⟩
    · rcases mem_append.mp mem with mem | mem
      · have shaped : r.shape ∈ selected.map shape := by
          rw [← shapes]
          exact mem_map_of_mem mem
        obtain ⟨r', mem', same⟩ := mem_map.mp shaped
        have new : r'.NewFor a.qualifiedName := by
          rcases mem_append.mp (sub.subset mem') with mem | mem
          · exact left _ r' mem
          · exact concreteRequests_newFor mem
        obtain ⟨template, priority, tier⟩ := new
        simp only [shape, Prod.mk.injEq] at same
        exact ⟨same.1.symm.trans template, same.2.1.symm.trans priority,
          same.2.2.1.symm.trans tier⟩
      · obtain ⟨j, -, rfl⟩ := mem_map.mp mem
        exact ⟨(shaped j).1, (shaped j).2.1, (shaped j).2.2.1⟩
    · rw [count, length_append, length_map, length_range, lengths]
      exact size
    · have anonymous : ∀ js : List Nat, sessionIDs (js.map fun j =>
          anonymousRequest (input.scaleCheckDemand a.qualifiedName) a.qualifiedName residual[j]?) =
          [] := by
        intro js
        refine filter_eq_nil_iff.mpr fun id mem => ?_
        simp only [map_map, mem_map, Function.comp_apply] at mem
        obtain ⟨j, -, rfl⟩ := mem
        simp [(shaped j).2.2.2]
      rw [sessionIDs_append, anonymous, append_nil, sessionIDs_of_shapes shapes]
      exact sessionIDs_sublist sub

/-- The demand pass never asks for more than there is room for, nor for a
session that is asked for already. -/
theorem newRequests_sound
    (pools : SessionPools (demandPool city input protectedLeft resumeIDs))
    (agents : List PoolAgent) (distinct : (agents.map PoolAgent.qualifiedName).Nodup)
    (tracks : u.Tracks (newNestedCapLimits city) taken)
    (sound : (newNestedCapLimits city).quotas.Sound taken)
    (fresh : ∀ a ∈ agents, (sessionIDs taken).Disjoint
      (demandPool city input protectedLeft resumeIDs a.qualifiedName)) :
    (newNestedCapLimits city).quotas.Sound
      (taken ++ newRequests city input protectedLeft resumeIDs agents u) := by
  induction agents generalizing taken u with
  | nil => simpa [newRequests] using sound
  | cons a agents ih =>
    obtain ⟨new, ⟨demand, fits⟩, ids⟩ := newRequestsFor_batch left city input resumeIDs u a
    rw [map_cons, nodup_cons] at distinct
    have batch := sound_append_batch tracks sound new demand fits
      ((pools.distinct _).sublist ids)
      fun id mem mem' => fresh a mem_cons_self mem (ids.subset mem')
    rw [newRequests, ← append_assoc]
    refine ih distinct.2 (acceptNew_tracks tracks _) batch fun b mem id old pooled => ?_
    rw [sessionIDs_append] at old
    rcases mem_append.mp old with old | old
    · exact fresh b (mem_cons_of_mem _ mem) old pooled
    · refine pools.apart a.qualifiedName b.qualifiedName (fun same => ?_) (ids.subset old) pooled
      exact distinct.1 (same ▸ mem_map_of_mem mem)

theorem newRequests_newFor (agents : List PoolAgent) (u : NestedCapUsage) :
    ∀ r ∈ newRequests city input protectedLeft resumeIDs agents u, ∃ template, r.NewFor template := by
  induction agents generalizing u with
  | nil => simp [newRequests]
  | cons a agents ih =>
    intro r mem
    rcases mem_append.mp mem with mem | mem
    · exact ⟨_, (newRequestsFor_batch left city input resumeIDs u a).1 r mem⟩
    · exact ih _ r mem

end pass

end GasCity
