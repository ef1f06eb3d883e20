import GasCity.PoolBatch

namespace GasCity

open Function List

variable {city : PoolCity} {input : PoolInput}

section resume

structure FromWork (input : PoolInput) (r : SessionRequest) : Prop where
  resumeLike : r.tier.isResumeLike = true
  priority : ∃ wb ∈ input.assignedWorkBeads, r.beadPriority = wb.priority.getD 0

theorem assignedRequest_fromWork {template : String} {wb : PoolWork} {r : SessionRequest}
    (work : wb ∈ input.assignedWorkBeads) (h : assignedRequest city input template wb = some r) :
    FromWork input r := by
  unfold assignedRequest at h
  dsimp only at h
  split_ifs at h <;> cases h <;> exact ⟨rfl, wb, work, rfl⟩

theorem resumeStep_fromWork {template : String} {wb : PoolWork}
    {state : List SessionRequest × List String} (work : wb ∈ input.assignedWorkBeads)
    (h : ∀ r ∈ state.1, FromWork input r) :
    ∀ r ∈ (resumeStep city input template state wb).1, FromWork input r := by
  have added : ∀ req, assignedRequest city input template wb = some req →
      ∀ r ∈ state.1 ++ [req], FromWork input r := by
    intro req eq r mem
    rcases mem_append.mp mem with mem | mem
    · exact h r mem
    · rw [mem_singleton.mp mem]
      exact assignedRequest_fromWork work eq
  unfold resumeStep
  split
  · exact h
  next req eq =>
    split
    · split
      · exact h
      · exact added req eq
    · exact added req eq

theorem resumeRequests_fromWork : ∀ r ∈ resumeRequests city input, FromWork input r := by
  have perAgent : ∀ (template : String) (work : List PoolWork)
      (state : List SessionRequest × List String), work ⊆ input.assignedWorkBeads →
      (∀ r ∈ state.1, FromWork input r) →
      ∀ r ∈ (work.foldl (resumeStep city input template) state).1, FromWork input r := by
    intro template work
    induction work with
    | nil => exact fun state _ h => h
    | cons wb work ih =>
      intro state sub h
      rw [cons_subset] at sub
      exact ih _ sub.2 (resumeStep_fromWork sub.1 h)
  have start : ∀ r ∈ (([], []) : List SessionRequest × List String).1, FromWork input r := by simp
  refine foldlRecOn (motive := fun state : List SessionRequest × List String =>
    ∀ r ∈ state.1, FromWork input r) city.agents _ start fun state h a _ => ?_
  split
  · exact h
  · exact perAgent _ _ state (List.Subset.refl _) h

end resume

section sessions

variable (distinct : (input.sessionInfos.map SessionInfo.id).Nodup) {resumeIDs : List String}
  {kind kind' : SessionInfo → Bool} {template template' : String}

theorem mem_sessionIDs_concrete {id : String}
    (h : id ∈ sessionIDs (concreteRequests city input resumeIDs kind template)) :
    ∃ i ∈ input.sessionInfos, i.id = id ∧ id ∉ resumeIDs ∧ kind i = true ∧
      city.names.sessionTemplate i = template := by
  obtain ⟨mem, -⟩ := mem_filter.mp h
  obtain ⟨r, requested, rfl⟩ := mem_map.mp mem
  obtain ⟨a, agent, requested⟩ := mem_flatMap.mp requested
  obtain ⟨i, row, rfl⟩ := mem_map.mp requested
  obtain ⟨row, fit⟩ := mem_filter.mp row
  have named := (mem_filter.mp agent).2
  simp only [standsForDemand, Bool.and_eq_true, beq_iff_eq, decide_eq_true_eq] at fit named
  exact ⟨i, (mem_insertionSort _).mp row, rfl, fit.1.1.1.1.2, fit.2, fit.1.2.trans named.1.1⟩

include distinct in
theorem session_unique {i j : SessionInfo} (hi : i ∈ input.sessionInfos) (hj : j ∈ input.sessionInfos)
    (same : i.id = j.id) : i = j :=
  inj_on_of_nodup_map distinct hi hj same

include distinct in
theorem sessionIDs_concrete_disjoint
    (differ : template ≠ template' ∨ ∀ i, kind i = true → kind' i = true → False) :
    (sessionIDs (concreteRequests city input resumeIDs kind template)).Disjoint
      (sessionIDs (concreteRequests city input resumeIDs kind' template')) := by
  intro id mem mem'
  obtain ⟨i, hi, rfl, -, isKind, resolves⟩ := mem_sessionIDs_concrete mem
  obtain ⟨j, hj, same, -, isKind', resolves'⟩ := mem_sessionIDs_concrete mem'
  rw [session_unique distinct hj hi same] at isKind' resolves'
  rcases differ with differ | differ
  · exact differ (resolves.symm.trans resolves')
  · exact differ i isKind isKind'

theorem qualifiedName_of_serving (city : PoolCity) {a : PoolAgent} (h : a ∈ servingAgents city template) :
    a.qualifiedName = template := by
  have fit := (mem_filter.mp h).2
  simp only [Bool.and_eq_true, beq_iff_eq] at fit
  exact fit.1.1

theorem servingAgents_cases (city : PoolCity) (template : String) :
    servingAgents city template = [] ∨ ∃ a, servingAgents city template = [a] := by
  have once : ((servingAgents city template).map PoolAgent.qualifiedName).Nodup :=
    city.agents_distinct.sublist (filter_sublist.map _)
  cases eq : servingAgents city template with
  | nil => exact .inl rfl
  | cons a rest =>
    cases rest with
    | nil => exact .inr ⟨a, rfl⟩
    | cons b rest =>
      have first : a.qualifiedName = template := qualifiedName_of_serving city (by simp [eq])
      have second : b.qualifiedName = template := qualifiedName_of_serving city (by simp [eq])
      rw [eq] at once
      simp [first, second] at once

include distinct in
theorem sessionIDs_concrete_nodup :
    (sessionIDs (concreteRequests city input resumeIDs kind template)).Nodup := by
  have rows : ((input.sessionInfos.insertionSort createdBefore).map SessionInfo.id).Nodup :=
    ((perm_insertionSort _ _).map _).nodup_iff.mpr distinct
  have ids : ∀ rows : List SessionInfo, (rows.map (concreteRequest template)).map
      SessionRequest.sessionBeadID = rows.map SessionInfo.id := by
    intro rows
    rw [map_map]
    rfl
  unfold sessionIDs concreteRequests
  refine List.Nodup.filter _ ?_
  rcases servingAgents_cases city template with none | ⟨a, one⟩
  · rw [none]
    exact nodup_nil
  · rw [one, flatMap_singleton, ids]
    exact rows.sublist (filter_sublist.map _)

end sessions

section bind

variable (distinct : (input.sessionInfos.map SessionInfo.id).Nodup)

/-- What binding keeps: the protected requests that remain are among the first
ones, and no request so far names one of their sessions. -/
structure Binds (city : PoolCity) (input : PoolInput)
    (state : List SessionRequest × (String → List SessionRequest)) : Prop where
  left : ∀ template, (state.2 template).Sublist
    (protectedNewRequests city input (resumeSessionBeadIDs city input) template)
  apart : ∀ template, (sessionIDs state.1).Disjoint (sessionIDs (state.2 template))
  /-- A request names a resumed session or a protected one. -/
  named : ∀ id ∈ sessionIDs state.1, id ∈ resumeSessionBeadIDs city input ∨
    ∃ template, id ∈ sessionIDs
      (protectedNewRequests city input (resumeSessionBeadIDs city input) template)

theorem notMem_resumeIDs {template id : String}
    (h : id ∈ sessionIDs (protectedNewRequests city input (resumeSessionBeadIDs city input) template)) :
    id ∉ resumeSessionBeadIDs city input := by
  obtain ⟨-, -, -, fresh, -⟩ := mem_sessionIDs_concrete h
  exact fresh

theorem sessionIDs_singleton (r : SessionRequest) :
    sessionIDs [r] = if r.sessionBeadID = "" then [] else [r.sessionBeadID] := by
  by_cases free : r.sessionBeadID = ""
  · simp [sessionIDs, free]
  · simp [sessionIDs, free]

variable {state : List SessionRequest × (String → List SessionRequest)}

theorem Binds.keep (binds : Binds city input state) {req : SessionRequest}
    (mem : req ∈ resumeRequests city input) : Binds city input (state.1 ++ [req], state.2) := by
  have own : ∀ id ∈ sessionIDs [req], id ∈ resumeSessionBeadIDs city input := by
    intro id named
    exact sessionIDs_sublist (singleton_sublist.mpr mem) |>.subset named
  refine ⟨binds.left, fun template id named remaining => ?_, fun id named => ?_⟩
  · rw [sessionIDs_append] at named
    rcases mem_append.mp named with named | named
    · exact binds.apart template named remaining
    · exact notMem_resumeIDs ((sessionIDs_sublist (binds.left template)).subset remaining)
        (own id named)
  · rw [sessionIDs_append] at named
    rcases mem_append.mp named with named | named
    · exact binds.named id named
    · exact .inl (own id named)

include distinct in
theorem Binds.bind (binds : Binds city input state) {req first : SessionRequest}
    {rest : List SessionRequest} (eq : state.2 req.template = first :: rest) :
    Binds city input (state.1 ++ [{ req with sessionBeadID := first.sessionBeadID }],
      update state.2 req.template rest) := by
  have sub : (first :: rest).Sublist
      (protectedNewRequests city input (resumeSessionBeadIDs city input) req.template) :=
    eq ▸ binds.left req.template
  have once : (sessionIDs (first :: rest)).Nodup :=
    (sessionIDs_concrete_nodup distinct).sublist (sessionIDs_sublist sub)
  have bound : ∀ id ∈ sessionIDs [{ req with sessionBeadID := first.sessionBeadID }],
      id ∈ sessionIDs [first] := by
    intro id named
    rw [sessionIDs_singleton] at named ⊢
    exact named
  have inProtected : ∀ id ∈ sessionIDs [first], id ∈ sessionIDs
      (protectedNewRequests city input (resumeSessionBeadIDs city input) req.template) :=
    fun id named => (sessionIDs_sublist
      ((singleton_sublist.mpr mem_cons_self).trans sub)).subset named
  refine ⟨fun template => ?_, fun template id named remaining => ?_, fun id named => ?_⟩
  · dsimp only
    by_cases same : template = req.template
    · subst same
      rw [update_self]
      exact (sublist_cons_self first rest).trans sub
    · rw [update_of_ne same]
      exact binds.left template
  · dsimp only at remaining named
    rw [sessionIDs_append] at named
    by_cases same : template = req.template
    · subst same
      rw [update_self] at remaining
      rcases mem_append.mp named with named | named
      · refine binds.apart req.template named ?_
        rw [eq]
        exact (sessionIDs_sublist (sublist_cons_self first rest)).subset remaining
      · have split : sessionIDs (first :: rest) = sessionIDs [first] ++ sessionIDs rest :=
          sessionIDs_append [first] rest
        rw [split] at once
        exact (disjoint_of_nodup_append once) (bound id named) remaining
    · rw [update_of_ne same] at remaining
      rcases mem_append.mp named with named | named
      · exact binds.apart template named remaining
      · exact sessionIDs_concrete_disjoint distinct (.inl (Ne.symm same))
          (inProtected id (bound id named)) ((sessionIDs_sublist (binds.left template)).subset remaining)
  · rw [sessionIDs_append] at named
    rcases mem_append.mp named with named | named
    · exact binds.named id named
    · exact .inr ⟨_, inProtected id (bound id named)⟩

include distinct in
theorem boundRequests_binds (city : PoolCity) : Binds city input (boundRequests city input) := by
  have start : Binds city input
      ([], protectedNewRequests city input (resumeSessionBeadIDs city input)) :=
    ⟨fun _ => List.Sublist.refl _, fun _ => by simp [sessionIDs], by simp [sessionIDs]⟩
  refine foldlRecOn (motive := Binds city input) _ _ start fun state binds req mem => ?_
  unfold bindWake
  split
  · split
    · exact binds.keep mem
    next first rest eq => exact binds.bind distinct eq
  · exact binds.keep mem

theorem boundRequests_fromWork : ∀ r ∈ (boundRequests city input).1, FromWork input r := by
  have start : ∀ r ∈ (([], protectedNewRequests city input (resumeSessionBeadIDs city input)) :
      List SessionRequest × (String → List SessionRequest)).1, FromWork input r := by simp
  refine foldlRecOn (motive := fun state : List SessionRequest × (String → List SessionRequest) =>
    ∀ r ∈ state.1, FromWork input r) _ _ start fun state h req mem => ?_
  have work := resumeRequests_fromWork req mem
  have added : ∀ req', FromWork input req' → ∀ r ∈ state.1 ++ [req'], FromWork input r := by
    intro req' work' r mem
    rcases mem_append.mp mem with mem | mem
    · exact h r mem
    · rw [mem_singleton.mp mem]
      exact work'
  unfold bindWake
  split
  · split
    · exact added req work
    · exact added _ ⟨work.resumeLike, work.priority⟩
  · exact added req work

include distinct in
theorem demandPool_pools : SessionPools (demandPool city input (boundRequests city input).2
    (resumeSessionBeadIDs city input)) := by
  have binds := boundRequests_binds distinct city
  have within : ∀ template id, id ∈ demandPool city input (boundRequests city input).2
      (resumeSessionBeadIDs city input) template →
      ∃ kind, id ∈ sessionIDs
        (concreteRequests city input (resumeSessionBeadIDs city input) kind template) := by
    intro template id mem
    unfold demandPool at mem
    rw [sessionIDs_append] at mem
    rcases mem_append.mp mem with mem | mem
    · exact ⟨_, (sessionIDs_sublist (binds.left template)).subset mem⟩
    · exact ⟨_, mem⟩
  refine ⟨fun template => ?_, fun template template' differ id mem mem' => ?_⟩
  · unfold demandPool
    rw [sessionIDs_append]
    refine ((sessionIDs_concrete_nodup distinct).sublist
      (sessionIDs_sublist (binds.left template))).append (sessionIDs_concrete_nodup distinct) ?_
    intro id mem mem'
    refine sessionIDs_concrete_disjoint distinct (.inr fun i isKind other => ?_)
      ((sessionIDs_sublist (binds.left template)).subset mem) mem'
    rw [isKind] at other
    cases other
  · obtain ⟨kind, mem⟩ := within _ _ mem
    obtain ⟨kind', mem'⟩ := within _ _ mem'
    exact sessionIDs_concrete_disjoint distinct (.inl differ) mem mem'

include distinct in
theorem boundRequests_disjoint (template : String) :
    (sessionIDs (boundRequests city input).1).Disjoint (demandPool city input
      (boundRequests city input).2 (resumeSessionBeadIDs city input) template) := by
  have binds := boundRequests_binds distinct city
  intro id named pooled
  unfold demandPool at pooled
  rw [sessionIDs_append] at pooled
  rcases mem_append.mp pooled with pooled | pooled
  · exact binds.apart template named pooled
  · rcases binds.named id named with resumed | ⟨other, held⟩
    · obtain ⟨-, -, -, fresh, -⟩ := mem_sessionIDs_concrete pooled
      exact fresh resumed
    · refine sessionIDs_concrete_disjoint distinct (.inr fun i isKind inFlight => ?_) held pooled
      rw [isKind] at inFlight
      cases inFlight

end bind

section schedule

def capOrder (city : PoolCity) (input : PoolInput) : List SessionRequest :=
  (boundRequests city input).1.insertionSort notAfter

def keptRequests (city : PoolCity) (input : PoolInput) : List SessionRequest :=
  (newNestedCapLimits city).quotas.sweep [] (capOrder city input)

theorem sort_requests (priorities : ∀ wb ∈ input.assignedWorkBeads, 0 ≤ wb.priority.getD 0)
    {new : List SessionRequest} (isNew : ∀ r ∈ new, ∃ template, r.NewFor template) :
    ((boundRequests city input).1 ++ new).insertionSort notAfter = capOrder city input ++ new := by
  have later : ∀ r r', (∃ template, r'.NewFor template) → 0 ≤ r.beadPriority → notAfter r r' := by
    rintro r r' ⟨template, -, priority, tier⟩ nonneg
    unfold notAfter precedes
    rw [priority, tier]
    split
    · exact decide_eq_false (by omega)
    · simp [RequestTier.isResumeLike]
  refine insertionSort_append_of_le ?_ fun r mem r' mem' => later r r' (isNew r' mem') ?_
  · refine pairwise_of_forall_mem_list fun r mem r' mem' => later r r' (isNew r' mem') ?_
    obtain ⟨template, -, priority, -⟩ := isNew r mem
    rw [priority]
  · obtain ⟨wb, work, priority⟩ := (boundRequests_fromWork r mem).priority
    rw [priority]
    exact priorities wb work

theorem sound_nil (limits : NestedCapLimits) : limits.quotas.Sound [] :=
  ⟨fun _ _ _ => Nat.zero_le _, nodup_nil⟩

theorem acceptedNestedCapUsage_tracks (city : PoolCity) (input : PoolInput) :
    (acceptedNestedCapUsage (newNestedCapLimits city) (boundRequests city input).1).Tracks
      (newNestedCapLimits city) (keptRequests city input) :=
  (acceptAll_eq_sweep .empty _).2

variable (distinct : (input.sessionInfos.map SessionInfo.id).Nodup)

theorem protectedLeft_newFor (distinct : (input.sessionInfos.map SessionInfo.id).Nodup)
    (template : String) : ∀ r ∈ (boundRequests city input).2 template, r.NewFor template :=
  fun _ mem => concreteRequests_newFor (((boundRequests_binds distinct city).left template).subset mem)

include distinct in
theorem demandRequests_sound (city : PoolCity) :
    (newNestedCapLimits city).quotas.Sound (keptRequests city input ++ demandRequests city input) := by
  refine newRequests_sound (protectedLeft_newFor distinct) (demandPool_pools distinct) city.agents
    city.agents_distinct (acceptedNestedCapUsage_tracks city input) ((sound_nil _).sweep _) ?_
  intro a _ id kept pooled
  have sub : (keptRequests city input).Sublist (capOrder city input) := Quotas.sublist_sweep _ _
  have sorted := perm_insertionSort notAfter (boundRequests city input).1
  refine boundRequests_disjoint distinct a.qualifiedName ?_ pooled
  have ordered := (sessionIDs_sublist sub).subset kept
  exact ((sorted.map _).filter _).subset ordered

def demanded (city : PoolCity) (input : PoolInput) : Acceptance :=
  acceptAll (newNestedCapLimits city) ([], {})
    (((boundRequests city input).1 ++ demandRequests city input).insertionSort notAfter)

include distinct in
theorem demanded_eq (city : PoolCity) (priorities : ∀ wb ∈ input.assignedWorkBeads, 0 ≤ wb.priority.getD 0) :
    (demanded city input).1 = keptRequests city input ++ demandRequests city input ∧
      Kept (newNestedCapLimits city) (demanded city input) := by
  have sound := demandRequests_sound distinct city
  have isNew : ∀ r ∈ demandRequests city input, ∃ template, r.NewFor template :=
    newRequests_newFor (protectedLeft_newFor distinct) _ _
  have start : NestedCapUsage.Tracks {} (newNestedCapLimits city) [] := .empty
  obtain ⟨taken, tracks⟩ := acceptAll_eq_sweep start
    (((boundRequests city input).1 ++ demandRequests city input).insertionSort notAfter)
  have all : (newNestedCapLimits city).quotas.sweep []
      (((boundRequests city input).1 ++ demandRequests city input).insertionSort notAfter) =
      keptRequests city input ++ demandRequests city input := by
    rw [sort_requests priorities isNew, Quotas.sweep_append]
    exact Quotas.sweep_eq_append sound
  rw [all] at taken tracks
  change (demanded city input).1 = _ at taken
  refine ⟨taken, ?_, ?_⟩
  · rw [taken]
    exact tracks
  · rw [taken]
    exact sound

end schedule

end GasCity
