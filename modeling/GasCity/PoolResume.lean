import GasCity.PoolKeeps

namespace GasCity

open List

theorem slotAboveCapacity_above {names : TemplateNames} {a : PoolAgent} {i : SessionInfo}
    (above : 0 < slotAboveCapacity names a i) :
    ∃ m, a.maxActiveSessions = some m ∧ 0 < m ∧ m < slotAboveCapacity names a i := by
  unfold slotAboveCapacity at above ⊢
  split at above
  · exact absurd above (lt_irrefl 0)
  next matching =>
    rw [if_neg matching]
    split at above
    · exact absurd above (lt_irrefl 0)
    next m max =>
      rw [max]
      split at above
      · exact absurd above (lt_irrefl 0)
      next positive =>
        rw [if_neg positive]
        split at above
        · exact absurd above (lt_irrefl 0)
        next beyond =>
          rw [if_neg beyond]
          simp only [Bool.or_eq_true, decide_eq_true_eq, not_or] at beyond
          exact ⟨m, rfl, by omega, by omega⟩

theorem freshPoolSlotUpperBound_le {a : PoolAgent} {m : Int} {upper : Option Nat}
    (max : a.maxActiveSessions = some m) (positive : 0 < m)
    (h : freshPoolSlotUpperBound a = .ok upper) : ∃ bound ∈ upper, (bound : Int) ≤ m := by
  have same : upper = freshUpper a := by
    unfold freshPoolSlotUpperBound at h
    split at h
    · cases h
    split at h
    · cases h
    · cases h
      rfl
  have notNegative : ¬m < 0 := by omega
  rw [same]
  simp only [freshUpper, max, Option.bind_some, notNegative, if_false, Option.elim_some]
  split
  · exact ⟨m.toNat, rfl, by omega⟩
  · exact ⟨_, rfl, by omega⟩

namespace PoolBuild

variable {bp : PoolBuild} {a : SlottedAgent} {template : String} {call : PoolCall}
  {claims : PoolClaims} {p : SessionInfo}

def sessions (bp : PoolBuild) : List SessionInfo := bp.occupancyInfos ++ bp.openInfos

theorem foldl_occupancy_covers (rows infos : List SessionInfo) :
    let all := rows.foldl (fun infos i =>
      if trimSpace i.id != "" && infos.any (fun j => trimSpace j.id == trimSpace i.id) then infos
      else infos ++ [i]) infos
    infos ⊆ all ∧ all ⊆ infos ++ rows ∧
      ∀ i ∈ rows, ∃ j ∈ all, trimSpace j.id = trimSpace i.id := by
  induction rows generalizing infos with
  | nil => exact ⟨List.Subset.refl _, by simp, by simp⟩
  | cons row rows ih =>
    rw [foldl_cons]
    split
    next seen =>
      obtain ⟨kept, only, covers⟩ := ih infos
      simp only [Bool.and_eq_true, any_eq_true, beq_iff_eq] at seen
      obtain ⟨-, j, mem, same⟩ := seen
      refine ⟨kept, fun i mem => ?_, fun i mem => ?_⟩
      · rcases mem_append.mp (only mem) with mem | mem
        · exact mem_append_left _ mem
        · exact mem_append_right _ (mem_cons_of_mem _ mem)
      · rcases mem_cons.mp mem with rfl | mem
        · exact ⟨j, kept ‹_›, same⟩
        · exact covers i mem
    · obtain ⟨kept, only, covers⟩ := ih (infos ++ [row])
      refine ⟨fun i mem => kept (mem_append_left _ mem), fun i mem => ?_, fun i mem => ?_⟩
      · simpa using only mem
      · rcases mem_cons.mp mem with rfl | mem
        · exact ⟨i, kept (by simp), rfl⟩
        · exact covers i mem

theorem mem_freshPoolOccupancyInfos (known : p ∈ bp.sessions)
    (only : ∀ q ∈ bp.sessions, trimSpace q.id = trimSpace p.id → q = p) :
    p ∈ bp.freshPoolOccupancyInfos := by
  obtain ⟨-, sub, covers⟩ := foldl_occupancy_covers bp.sessions []
  obtain ⟨j, mem, same⟩ := covers p known
  exact only j (sub mem) same ▸ mem

def resumeSlot (bp : PoolBuild) (a : PoolAgent) (call : PoolCall) (p : SessionInfo) : Nat :=
  ownSlot bp.names a p (resumesAssignedWork call.request bp.assignedWorkBeads p)

/-- A session of the build has the slot, as its existing one or as its identity
above the agent's capacity. -/
def HasSlot (bp : PoolBuild) (a : PoolAgent) (i : SessionInfo) (slot : Nat) : Prop :=
  existingPoolSlot bp.names a i = slot ∨ slotAboveCapacity bp.names a i = slot

instance (bp : PoolBuild) (a : PoolAgent) (i : SessionInfo) (slot : Nat) :
    Decidable (bp.HasSlot a i slot) :=
  inferInstanceAs (Decidable (_ ∨ _))

theorem hasSlot_ownSlot (bp : PoolBuild) (a : PoolAgent) (i : SessionInfo) (preserve : Bool) :
    bp.HasSlot a i (ownSlot bp.names a i preserve) := by
  unfold ownSlot
  split
  · exact .inr rfl
  · exact .inl rfl

/-- The request resumes a session in a slot that no other open session has. The
session is not up for reuse by other requests, and no other session that one of
the requests could get is without a slot to get it in. -/
structure ResumesOwn (bp : PoolBuild) (a : SlottedAgent) (template : String) (calls : List PoolCall)
    (call : PoolCall) (p : SessionInfo) : Prop where
  resumes : call.request.tier = .resume
  found : bp.preferredFor call.request = some p
  created : p.isFailedCreate = false
  plain : p.isNamedSession = false
  notReusable : bp.reusable a template p = false
  slotted : 0 < bp.resumeSlot a call p
  alone : ∀ q ∈ bp.sessions, trimSpace q.id = trimSpace p.id → q = p
  own : ∀ q ∈ bp.openInfos, q ≠ p → ¬bp.HasSlot a q (bp.resumeSlot a call p)
  reused : ∀ q ∈ bp.openInfos, bp.reusable a template q = true → 0 < existingPoolSlot bp.names a q
  preferred : ∀ c ∈ calls, ∀ q, bp.preferredFor c.request = some q → q.isNamedSession = false →
    q.isFailedCreate = false → 0 < bp.resumeSlot a c q

theorem preferredFor_eq_some {request : SessionRequest} (h : bp.preferredFor request = some p) :
    p ∈ bp.openInfos ∧ p.id = request.sessionBeadID ∧ p.id ≠ "" := by
  unfold preferredFor findInfoByID at h
  split at h
  · cases h
  next named =>
    split at h
    · cases h
    · have same : p.id = request.sessionBeadID := by simpa using find?_some h
      exact ⟨mem_of_find?_eq_some h, same, by simpa [same] using named⟩

def Unclaimed (p : SessionInfo) (slot : Nat) (claims : PoolClaims) : Prop :=
  p.id ∉ claims.used ∧ slot ∉ claims.usedSlots

theorem Unclaimed.claim {q : SessionInfo} {slot given : Nat} {after : List Nat}
    (h : Unclaimed p slot claims) (claimed : Claims claims.usedSlots given after)
    (otherSession : q.id ≠ p.id) (otherSlot : given ≠ slot) :
    Unclaimed p slot ⟨q.id :: claims.used, after⟩ := by
  obtain ⟨-, rfl⟩ := claimed
  refine ⟨fun mem => ?_, fun mem => ?_⟩
  · rcases mem_cons.mp mem with same | mem
    · exact otherSession same.symm
    · exact h.1 mem
  · rcases mem_cons.mp mem with same | mem
    · exact otherSlot same.symm
    · exact h.2 mem

namespace ResumesOwn

variable {calls : List PoolCall} (own : ResumesOwn bp a template calls call p)

include own

theorem known : p ∈ bp.sessions :=
  mem_append_right _ (preferredFor_eq_some own.found).1

theorem id_ne {q : SessionInfo} (known : q ∈ bp.openInfos) (other : q ≠ p) : q.id ≠ p.id :=
  fun same => other (own.alone q (mem_append_right _ known) (congrArg trimSpace same))

/-- A fresh session never gets the slot: the session is in the census, or its
slot is above what fresh sessions may have. -/
theorem fresh_ne {usedSlots after : List Nat} {slot : Nat}
    (claimed : bp.claimFreshPoolSlot a usedSlots = .ok (slot, after)) :
    slot ≠ bp.resumeSlot a call p := by
  rintro rfl
  obtain ⟨upper, limit, -, free, within⟩ := claimFreshPoolSlot_eq_ok claimed
  have slotted := own.slotted
  unfold resumeSlot ownSlot at slotted free within
  split at slotted
  next above =>
    rw [if_pos above] at within
    obtain ⟨m, max, positive, beyond⟩ := slotAboveCapacity_above slotted
    obtain ⟨bound, mem, le⟩ := freshPoolSlotUpperBound_le max positive limit
    have := within bound mem
    omega
  next existing =>
    rw [if_neg existing] at free within
    refine free (mem_append_right _ (mem_filter.mpr ⟨mem_map_of_mem
      (mem_filter.mpr ⟨mem_freshPoolOccupancyInfos own.known own.alone, ?_⟩), ?_⟩))
    · simp [own.created]
    · cases upper with
      | none => simp [slotted]
      | some bound => simpa [slotted] using within bound rfl

theorem planItem_keeps {other : PoolCall} (mem : other ∈ calls)
    (differs : other.request.sessionBeadID ≠ p.id)
    (unclaimed : Unclaimed p (bp.resumeSlot a call p) claims) :
    Unclaimed p (bp.resumeSlot a call p) (bp.planItem a template other claims).2 := by
  have plans := planItem_plans bp a template other claims
  revert plans
  generalize bp.planItem a template other claims = result
  intro plans
  cases plans with
  | preferred q slot after found plain created unused claimed =>
    obtain ⟨isOpen, named, -⟩ := preferredFor_eq_some found
    have ne : q ≠ p := by
      rintro rfl
      exact differs named.symm
    obtain ⟨claim, exactly⟩ := claimPreferredPoolSlot_claims claimed
    refine unclaimed.claim claim (own.id_ne isOpen ne) fun same => ?_
    refine own.own q isOpen ne ?_
    rw [← same, exactly (own.preferred other mem q found plain created)]
    exact hasSlot_ownSlot _ _ _ _
  | reused q slot after isOpen free unused claimed =>
    have ne : q ≠ p := by
      rintro rfl
      rw [own.notReusable] at free
      cases free
    obtain ⟨claim, exactly⟩ := claimPoolSlot_claims claimed
    refine unclaimed.claim claim (own.id_ne isOpen ne) fun same => ?_
    refine own.own q isOpen ne (.inl ?_)
    rw [← same, exactly (own.reused q isOpen free)]
  | planned slot after claimed =>
    have ne := own.fresh_ne claimed
    obtain ⟨-, rfl⟩ := claimFreshPoolSlot_claims claimed
    refine ⟨unclaimed.1, fun mem => ?_⟩
    rcases mem_cons.mp mem with same | mem
    · exact ne same.symm
    · exact unclaimed.2 mem
  | rejected err => exact unclaimed

theorem planItem_resumes (unclaimed : Unclaimed p (bp.resumeSlot a call p) claims) :
    (bp.planItem a template call claims).1 = .reuse p (bp.resumeSlot a call p) := by
  have named := (preferredFor_eq_some own.found).2.2
  have fit : ¬((p.id == "" || decide (p.id ∈ claims.used) || p.isFailedCreate) = true) := by
    simp [named, unclaimed.1, own.created]
  have claimed := claimPreferredPoolSlot_of_free own.slotted unclaimed.2
  unfold planItem selectOrPlanPoolSession
  rw [own.found, Option.filter_some_neg (by simp [own.plain])]
  dsimp only
  rw [if_neg fit, claimed]
  rw [markUsed_reuse unclaimed.1]
  rfl

/-- Run lemma: the requests before leave the session and its slot alone, so
that its own request finds both. -/
theorem planItems_resumes (before after : List PoolCall)
    (others : ∀ c ∈ before, c ∈ calls ∧ c.request.sessionBeadID ≠ p.id) (claims : PoolClaims)
    (unclaimed : Unclaimed p (bp.resumeSlot a call p) claims) :
    (bp.planItems a template (before ++ call :: after) claims)[before.length]? =
      some (.reuse p (bp.resumeSlot a call p)) := by
  induction before generalizing claims with
  | nil =>
    rw [nil_append, planItems, length_nil, getElem?_cons_zero]
    exact congrArg some (own.planItem_resumes unclaimed)
  | cons other before ih =>
    obtain ⟨mem, differs⟩ := others other mem_cons_self
    rw [cons_append, planItems, length_cons, getElem?_cons_succ]
    exact ih (fun c mem => others c (mem_cons_of_mem _ mem)) _
      (own.planItem_keeps mem differs unclaimed)

end ResumesOwn

/-- The accepted requests of a template name each session at most once. -/
def NamesOnce (calls : List PoolCall) : Prop :=
  calls.Pairwise fun c c' =>
    c.request.sessionBeadID ≠ "" → c.request.sessionBeadID ≠ c'.request.sessionBeadID

/-- Every request that is not rejected gets a slot and a session of its own, and
a request that resumes a session with its own slot gets exactly these. -/
theorem realize_keeps_slots (bp : PoolBuild) (a : SlottedAgent) (template : String)
    (calls : List PoolCall) (once : NamesOnce calls) :
    ((bp.realizePoolDesiredSessions a template calls).filterMap PoolChoice.slot?).Nodup ∧
    ((bp.realizePoolDesiredSessions a template calls).filterMap PoolChoice.session?).Nodup ∧
    ∀ (k : Nat) (call : PoolCall) (p : SessionInfo), calls[k]? = some call →
      ResumesOwn bp a template calls call p →
      (bp.realizePoolDesiredSessions a template calls)[k]? =
        some (PoolChoice.reuse p (bp.resumeSlot a call p)) := by
  refine ⟨?_, ?_, fun k call p at_k own => ?_⟩
  · exact (planItems_nodup PoolChoice.slot? PoolClaims.usedSlots
      (fun _ _ _ _ => planItem_slots) calls {}).1
  · exact (planItems_nodup PoolChoice.session? PoolClaims.used
      (fun _ _ _ _ => planItem_sessions) calls {}).1
  · obtain ⟨bound, rfl⟩ := List.getElem?_eq_some_iff.mp at_k
    have split : calls = calls.take k ++ calls[k] :: calls.drop (k + 1) := by
      rw [List.getElem_cons_drop, List.take_append_drop]
    have named := (preferredFor_eq_some own.found).2
    have others : ∀ c ∈ calls.take k, c ∈ calls ∧ c.request.sessionBeadID ≠ p.id := by
      intro c mem
      refine ⟨mem_of_mem_take mem, fun same => ?_⟩
      rw [split] at once
      have apart := (pairwise_append.mp once).2.2 c mem calls[k] mem_cons_self
      exact apart (same ▸ named.2) (same.trans named.1)
    have resumed := own.planItems_resumes (calls.take k) (calls.drop (k + 1)) others {}
      ⟨not_mem_nil, not_mem_nil⟩
    rw [← split, length_take, Nat.min_eq_left bound.le] at resumed
    exact resumed

/-- A request that resumes a session whose existing slot no other session has
gets the session in this slot. -/
def KeepsExisting (bp : PoolBuild) (a : SlottedAgent) (template : String) (calls : List PoolCall) :
    Prop :=
  ∀ (k : Nat) (call : PoolCall) (p : SessionInfo), calls[k]? = some call →
    call.request.tier = .resume → bp.preferredFor call.request = some p →
    0 < existingPoolSlot bp.names a p →
    (∀ q ∈ bp.openInfos, q ≠ p → existingPoolSlot bp.names a q ≠ existingPoolSlot bp.names a p) →
    (bp.realizePoolDesiredSessions a template calls)[k]? =
      some (PoolChoice.reuse p (existingPoolSlot bp.names a p))

def plainNames : TemplateNames where
  matchesPool stored template := stored == template
  resolved i := i.storedTemplate

def workerAgent : SlottedAgent := ⟨{ name := "worker", maxActiveSessions := some 3 }, rfl⟩

def busySession : SessionInfo :=
  { id := "gc-1", template := "worker", sessionNameMetadata := "busy", poolManaged := true,
    poolSlot := "1", metadataState := "active" }

def idleSession : SessionInfo :=
  { id := "gc-2", template := "worker", sessionNameMetadata := "idle", poolManaged := true,
    metadataState := "active" }

def workerBuild (sessions : List SessionInfo) : PoolBuild where
  names := plainNames
  openInfos := sessions
  occupancyInfos := sessions
  assignedWorkBeads := [{ id := "w-1", assignee := "busy", status := "in_progress" }]
  hasCompleteSessionSnapshot := true
  decisionTime := 0

def anonymousCall : PoolCall where
  request := { template := "worker", tier := .new }

def resumeCall : PoolCall where
  request := { template := "worker", tier := .resume, sessionBeadID := "gc-1", workBeadID := "w-1" }

/-- A session without a slot takes the lowest one, whose holder comes later; and
a session renamed before the capacity shrank resumes under its identity and not
under its recorded slot. -/
theorem realize_not_keepsExisting :
    ¬(workerBuild [busySession, idleSession]).KeepsExisting workerAgent "worker"
        [anonymousCall, resumeCall] ∧
    ¬(workerBuild [{ busySession with agentName := "worker-5", poolSlot := "2" }]).KeepsExisting
        workerAgent "worker" [resumeCall] := by
  refine ⟨fun keeps => ?_, fun keeps => ?_⟩
  · have kept := keeps 1 resumeCall busySession rfl rfl (by decide +kernel) (by decide +kernel)
      (by decide +kernel)
    revert kept
    decide +kernel
  · have kept := keeps 0 resumeCall { busySession with agentName := "worker-5", poolSlot := "2" }
      rfl rfl (by decide +kernel) (by decide +kernel) (by decide +kernel)
    revert kept
    decide +kernel

theorem realize_keeps_slots_busy :
    ((workerBuild [busySession, { idleSession with poolSlot := "2" }]).realizePoolDesiredSessions
      workerAgent "worker" [anonymousCall, resumeCall])[1]? =
        some (PoolChoice.reuse busySession 1) := by
  have once : NamesOnce [anonymousCall, resumeCall] := by
    simp [NamesOnce, anonymousCall]
  have own : ResumesOwn (workerBuild [busySession, { idleSession with poolSlot := "2" }])
      workerAgent "worker" [anonymousCall, resumeCall] resumeCall busySession :=
    { resumes := rfl
      found := by decide +kernel
      created := by decide +kernel
      plain := rfl
      notReusable := by decide +kernel
      slotted := by decide +kernel
      alone := by decide +kernel
      own := by decide +kernel
      reused := by decide +kernel
      preferred := by
        intro c mem q found _ _
        rcases mem_pair.mp mem with rfl | rfl
        · cases found
        · cases found.symm.trans (show _ = some busySession by decide +kernel)
          decide +kernel }
  exact (realize_keeps_slots _ workerAgent "worker" _ once).2.2 1 resumeCall busySession rfl own

end PoolBuild

end GasCity
