import GasCity.PoolDemand

namespace GasCity

open List Option

def asCap (m : Int) : Option Nat := if m < 0 then none else some m.toNat

theorem mem_asCap {m : Int} {cap : Nat} : cap ∈ asCap m ↔ (cap : Int) = m := by
  unfold asCap
  split
  · simp only [not_mem_none, false_iff]
    omega
  · simp only [mem_def, some.injEq]
    omega

theorem asCap_any {m : Int} {count : Nat} :
    (asCap m).any (· ≤ count) = true ↔ 0 ≤ m ∧ m ≤ count := by
  unfold asCap
  split
  · simp only [any_none, Bool.false_eq_true, false_iff]
    omega
  · simp only [any_some, decide_eq_true_eq]
    omega

def NestedCapLimits.levels (limits : NestedCapLimits) (template : String) : List CapLevel :=
  let rig := limits.agentRig template
  .agent template :: ((if rig = "" then [] else [.rig rig]) ++ [.workspace])

def NestedCapLimits.quotas (limits : NestedCapLimits) : Quotas SessionRequest CapLevel String where
  charges r := limits.levels r.template
  cap
    | .agent template => asCap (limits.agentMax template)
    | .rig name => asCap (limits.rigMax name)
    | .workspace => asCap limits.workspaceMax
  key r := if r.sessionBeadID = "" then none else some r.sessionBeadID

variable {limits : NestedCapLimits} {u : NestedCapUsage} {taken : List SessionRequest}
  {req : SessionRequest}

structure NestedCapUsage.Tracks (u : NestedCapUsage) (limits : NestedCapLimits)
    (taken : List SessionRequest) : Prop where
  agent : ∀ template, u.agentCount template = limits.quotas.load taken (.agent template)
  rig : ∀ name, name ≠ "" → u.rigCount name = limits.quotas.load taken (.rig name)
  workspace : u.workspaceCount = limits.quotas.load taken .workspace
  seen : ∀ id, id ≠ "" → (u.seenSessionBead id = true ↔ ∃ r ∈ taken, r.sessionBeadID = id)

variable {template : String} {state : Acceptance}

theorem mem_levels {level : CapLevel} :
    level ∈ limits.levels template ↔ level = .agent template ∨ level = .workspace ∨
      (limits.agentRig template ≠ "" ∧ level = .rig (limits.agentRig template)) := by
  unfold NestedCapLimits.levels
  dsimp only
  split <;> simp_all [or_comm]

theorem load_singleton (level : CapLevel) :
    limits.quotas.load [req] level = if level ∈ limits.levels req.template then 1 else 0 := by
  unfold Quotas.load
  rw [countP_singleton]
  exact if_congr decide_eq_true_iff rfl rfl

namespace NestedCapUsage

theorem Tracks.empty : Tracks {} limits [] where
  agent _ := rfl
  rig _ _ := rfl
  workspace := rfl
  seen _ _ := by simp

theorem Tracks.accept (tracks : u.Tracks limits taken) (req : SessionRequest) :
    (u.accept limits req).Tracks limits (taken ++ [req]) where
  agent template := by
    rw [Quotas.load_append, load_singleton, ← tracks.agent]
    by_cases same : template = req.template <;> simp [NestedCapUsage.accept, same, mem_levels]
  rig name named := by
    rw [Quotas.load_append, load_singleton, ← tracks.rig name named]
    by_cases same : name = limits.agentRig req.template
    · subst same
      simp [NestedCapUsage.accept, named, mem_levels]
    · by_cases free : limits.agentRig req.template = ""
      · simp [NestedCapUsage.accept, free, mem_levels]
      · simp [NestedCapUsage.accept, free, same, mem_levels]
  workspace := by
    rw [Quotas.load_append, load_singleton, ← tracks.workspace]
    simp [NestedCapUsage.accept, mem_levels]
  seen id named := by
    have before := tracks.seen id named
    by_cases free : req.sessionBeadID = ""
    · simp [NestedCapUsage.accept, free, before, Ne.symm named, or_and_right, exists_or]
    · by_cases same : id = req.sessionBeadID
      · subst same
        simp [NestedCapUsage.accept, free, or_and_right, exists_or]
      · simp [NestedCapUsage.accept, free, same, before, Ne.symm same, or_and_right, exists_or]

theorem Tracks.rejection_eq_none (tracks : u.Tracks limits taken) (req : SessionRequest) :
    u.rejection limits req = none ↔
      ∀ level ∈ limits.levels req.template, limits.quotas.full taken level = false := by
  have agent : limits.quotas.full taken (.agent req.template) = true ↔
      0 ≤ limits.agentMax req.template ∧ limits.agentMax req.template ≤ u.agentCount req.template := by
    rw [tracks.agent]
    exact asCap_any
  have rig : ∀ name, name ≠ "" → (limits.quotas.full taken (.rig name) = true ↔
      0 ≤ limits.rigMax name ∧ limits.rigMax name ≤ u.rigCount name) := by
    intro name named
    rw [tracks.rig name named]
    exact asCap_any
  have workspace : limits.quotas.full taken .workspace = true ↔
      0 ≤ limits.workspaceMax ∧ limits.workspaceMax ≤ u.workspaceCount := by
    rw [tracks.workspace]
    exact asCap_any
  have free : u.rejection limits req = none ↔
      ¬limits.quotas.full taken (.agent req.template) = true ∧
      ¬(limits.agentRig req.template ≠ "" ∧
        limits.quotas.full taken (.rig (limits.agentRig req.template)) = true) ∧
      ¬limits.quotas.full taken .workspace = true := by
    have inRig : limits.agentRig req.template ≠ "" ∧
          limits.quotas.full taken (.rig (limits.agentRig req.template)) = true ↔
        limits.agentRig req.template ≠ "" ∧ 0 ≤ limits.rigMax (limits.agentRig req.template) ∧
          limits.rigMax (limits.agentRig req.template) ≤ u.rigCount (limits.agentRig req.template) :=
      and_congr_right (rig _)
    rw [agent, workspace, inRig]
    unfold rejection
    simp only [Bool.and_eq_true, decide_eq_true_eq, bne_iff_ne, and_assoc]
    split_ifs with full full full <;> simp [*]
  rw [free]
  simp only [mem_levels, forall_eq_or_imp, Bool.not_eq_true]
  constructor
  · rintro ⟨agentFree, rigFree, workspaceFree⟩
    refine ⟨agentFree, workspaceFree, ?_⟩
    rintro level ⟨named, rfl⟩
    exact Bool.of_not_eq_true fun full => rigFree ⟨named, full⟩
  · rintro ⟨agentFree, workspaceFree, rigFree⟩
    refine ⟨agentFree, fun h => ?_, workspaceFree⟩
    rw [rigFree _ ⟨h.1, rfl⟩] at h
    cases h.2

theorem Tracks.isDuplicate_eq (tracks : u.Tracks limits taken) :
    u.isDuplicateSessionRequest req = limits.quotas.seen taken req := by
  rw [Bool.eq_iff_iff, Quotas.seen_iff]
  unfold isDuplicateSessionRequest
  by_cases named : req.sessionBeadID = ""
  · simp [NestedCapLimits.quotas, named]
  · have before := tracks.seen _ named
    simp only [NestedCapLimits.quotas, named, bne_iff_ne, ne_eq, not_false_eq_true, Bool.and_eq_true,
      true_and, if_false, mem_def, some.injEq, exists_eq_left', before]
    refine exists_congr fun r => and_congr_right fun _ => ?_
    split
    next free => simp [free, Ne.symm named]
    · simp

theorem Tracks.canAccept_eq (tracks : u.Tracks limits taken) :
    u.canAccept limits req = limits.quotas.admits taken req := by
  have room := tracks.rejection_eq_none req
  rw [Bool.eq_iff_iff, Quotas.admits_iff, ← tracks.isDuplicate_eq]
  simp only [canAccept, Bool.and_eq_true, Bool.not_eq_true', isNone_iff_eq_none, room]
  rfl

end NestedCapUsage

theorem acceptAll_eq_sweep (tracks : u.Tracks limits taken) (requests : List SessionRequest) :
    (acceptAll limits (taken, u) requests).1 = limits.quotas.sweep taken requests ∧
      (acceptAll limits (taken, u) requests).2.Tracks limits (limits.quotas.sweep taken requests) := by
  induction requests generalizing taken u with
  | nil => exact ⟨rfl, tracks⟩
  | cons req requests ih =>
    have step : acceptStep limits (taken, u) req =
        if limits.quotas.admits taken req then (taken ++ [req], u.accept limits req)
        else (taken, u) := by
      rw [acceptStep, tracks.canAccept_eq]
    unfold acceptAll at ih ⊢
    rw [foldl_cons, step, Quotas.sweep_cons]
    unfold Quotas.visit
    split
    · exact ih (tracks.accept req)
    · exact ih tracks

theorem acceptNew_tracks (tracks : u.Tracks limits taken) (requests : List SessionRequest) :
    (acceptNew limits u requests).Tracks limits (taken ++ requests) := by
  induction requests generalizing taken u with
  | nil => simpa [acceptNew] using tracks
  | cons req requests ih =>
    have rest := ih (tracks.accept req)
    rwa [append_assoc, singleton_append] at rest

structure Kept (limits : NestedCapLimits) (state : Acceptance) : Prop where
  tracks : state.2.Tracks limits state.1
  sound : limits.quotas.Sound state.1

def FloorMet (limits : NestedCapLimits) (taken : List SessionRequest) (template : String)
    (minSess : Nat) : Prop :=
  minSess ≤ limits.quotas.load taken (.agent template) ∨
    ∃ level ∈ limits.levels template, limits.quotas.full taken level = true

theorem FloorMet.mono {more : List SessionRequest} {minSess : Nat}
    (met : FloorMet limits taken template minSess) (grown : taken <+: more) :
    FloorMet limits more template minSess := by
  rcases met with enough | ⟨level, charged, full⟩
  · exact .inl (enough.trans (Quotas.load_le_of_begins grown))
  · exact .inr ⟨level, charged, Quotas.full_of_begins grown full⟩

def Floors (requests : List SessionRequest) : Prop :=
  ∀ r ∈ requests, r.tier = .new ∧ r.floorGuarantee = true ∧ r.sessionBeadID = ""

structure Fills (limits : NestedCapLimits) (before after : Acceptance) : Prop where
  kept : Kept limits after
  added : ∃ floors, after.1 = before.1 ++ floors ∧ Floors floors

theorem Fills.refl (kept : Kept limits state) : Fills limits state state :=
  ⟨kept, [], (append_nil _).symm, fun _ mem => absurd mem not_mem_nil⟩

theorem Fills.trans {first second third : Acceptance} (h : Fills limits first second)
    (h' : Fills limits second third) : Fills limits first third := by
  obtain ⟨-, floors, eq, all⟩ := h
  obtain ⟨kept, more, eq', all'⟩ := h'
  refine ⟨kept, floors ++ more, by rw [eq', eq, append_assoc], fun r mem => ?_⟩
  rcases mem_append.mp mem with mem | mem
  · exact all r mem
  · exact all' r mem

theorem Fills.prefix {before after : Acceptance} (h : Fills limits before after) :
    before.1 <+: after.1 := by
  obtain ⟨floors, eq, -⟩ := h.added
  exact ⟨floors, eq.symm⟩

theorem Kept.accept_floor (kept : Kept limits state)
    (room : state.2.rejection limits { template, tier := .new, floorGuarantee := true } = none) :
    Fills limits state (state.1 ++ [{ template, tier := .new, floorGuarantee := true }],
      state.2.accept limits { template, tier := .new, floorGuarantee := true }) := by
  have admitted : limits.quotas.admits state.1
      { template, tier := .new, floorGuarantee := true } = true :=
    Quotas.admits_iff.mpr ⟨rfl, (kept.tracks.rejection_eq_none _).mp room⟩
  refine ⟨⟨kept.tracks.accept _, kept.sound.take admitted⟩, _, rfl, fun r mem => ?_⟩
  rw [mem_singleton.mp mem]
  exact ⟨rfl, rfl, rfl⟩

theorem fillMin_fills {minSess : Nat} (rounds : Nat) (kept : Kept limits state)
    (enough : minSess ≤ limits.quotas.load state.1 (.agent template) + rounds) :
    Fills limits state (fillMin limits template minSess rounds state) ∧
      FloorMet limits (fillMin limits template minSess rounds state).1 template minSess := by
  induction rounds generalizing state with
  | zero => exact ⟨.refl kept, .inl enough⟩
  | succ rounds ih =>
    unfold fillMin
    dsimp only
    split
    next reached =>
      rw [kept.tracks.agent] at reached
      exact ⟨.refl kept, .inl reached⟩
    split
    next rejected =>
      refine ⟨.refl kept, .inr ?_⟩
      by_contra none
      push Not at none
      rw [(kept.tracks.rejection_eq_none _).mpr fun level charged =>
        Bool.of_not_eq_true (none level charged)] at rejected
      cases rejected
    next accepted =>
      have step := kept.accept_floor (not_isSome_iff_eq_none.mp accepted)
      have more : minSess ≤ limits.quotas.load
          (state.1 ++ [{ template, tier := .new, floorGuarantee := true }]) (.agent template) +
            rounds := by
        rw [Quotas.load_append, load_singleton, if_pos (mem_levels.mpr (.inl rfl))]
        omega
      obtain ⟨fills, met⟩ := ih step.kept more
      exact ⟨step.trans fills, met⟩

theorem foldl_fillMin_fills (skip : PoolAgent → Bool) (agents : List PoolAgent)
    (kept : Kept limits state) :
    let filled := agents.foldl (fun state a =>
      if skip a then state
      else fillMin limits a.qualifiedName a.effectiveMinActiveSessions a.effectiveMinActiveSessions
        state) state
    Fills limits state filled ∧ ∀ a ∈ agents, skip a = false →
      FloorMet limits filled.1 a.qualifiedName a.effectiveMinActiveSessions := by
  induction agents generalizing state with
  | nil => exact ⟨.refl kept, by simp⟩
  | cons a agents ih =>
    rw [foldl_cons]
    split
    next skipped =>
      obtain ⟨fills, met⟩ := ih kept
      refine ⟨fills, fun b mem used => ?_⟩
      rcases mem_cons.mp mem with rfl | mem
      · rw [skipped] at used
        cases used
      · exact met b mem used
    · obtain ⟨first, own⟩ := fillMin_fills a.effectiveMinActiveSessions kept
        (Nat.le_add_left a.effectiveMinActiveSessions _)
      obtain ⟨fills, met⟩ := ih first.kept
      refine ⟨first.trans fills, fun b mem used => ?_⟩
      rcases mem_cons.mp mem with rfl | mem
      · exact own.mono fills.prefix
      · exact met b mem used

end GasCity
