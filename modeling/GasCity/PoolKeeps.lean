import GasCity.PoolSelect

namespace GasCity

open List

theorem exists_free_in_range {taken : List Nat} {n : Nat} (enough : taken.length < n) :
    ∃ slot ∈ range' 1 n, slot ∉ taken := by
  by_contra all
  push Not at all
  have sub := (subperm_of_subset nodup_range' all).length_le
  rw [length_range'] at sub
  omega

theorem lowestFreeSlot_notMem (taken : List Nat) : lowestFreeSlot taken ∉ taken := by
  obtain ⟨slot, inRange, free⟩ := exists_free_in_range (Nat.lt_succ_self taken.length)
  have stops : ((range' 1 (taken.length + 1)).find? (· ∉ taken)).isSome :=
    find?_isSome.mpr ⟨slot, inRange, decide_eq_true free⟩
  obtain ⟨found, eq⟩ := Option.isSome_iff_exists.mp stops
  have notTaken := find?_some eq
  rw [lowestFreeSlot, eq]
  exact of_decide_eq_true notTaken

theorem claimSlot_eq_some {slot given : Nat} {usedSlots after : List Nat}
    (h : claimSlot slot usedSlots = some (given, after)) :
    given = slot ∧ slot ∉ usedSlots ∧ after = slot :: usedSlots := by
  unfold claimSlot at h
  split at h
  · cases h
  next free =>
    cases h
    exact ⟨rfl, free, rfl⟩

section claim

variable {names : TemplateNames} {a : PoolAgent} {i : SessionInfo} {usedSlots after : List Nat}
  {slot : Nat} {preserve : Bool}

def Claims (usedSlots : List Nat) (slot : Nat) (after : List Nat) : Prop :=
  slot ∉ usedSlots ∧ after = slot :: usedSlots

theorem claimPoolSlot_claims (h : claimPoolSlot names a i usedSlots = some (slot, after)) :
    Claims usedSlots slot after ∧
      (0 < existingPoolSlot names a i → slot = existingPoolSlot names a i) := by
  unfold claimPoolSlot at h
  split at h
  · obtain ⟨rfl, free, rfl⟩ := claimSlot_eq_some h
    exact ⟨⟨free, rfl⟩, fun _ => rfl⟩
  next none =>
    cases h
    exact ⟨⟨lowestFreeSlot_notMem _, rfl⟩, fun some => absurd some none⟩

def ownSlot (names : TemplateNames) (a : PoolAgent) (i : SessionInfo) (preserve : Bool) : Nat :=
  if preserve && 0 < slotAboveCapacity names a i then slotAboveCapacity names a i
  else existingPoolSlot names a i

theorem claimPreferredPoolSlot_claims
    (h : claimPreferredPoolSlot names a i usedSlots preserve = some (slot, after)) :
    Claims usedSlots slot after ∧
      (0 < ownSlot names a i preserve → slot = ownSlot names a i preserve) := by
  unfold claimPreferredPoolSlot at h
  unfold ownSlot
  split at h
  next above =>
    obtain ⟨rfl, free, rfl⟩ := claimSlot_eq_some h
    rw [if_pos above]
    exact ⟨⟨free, rfl⟩, fun _ => rfl⟩
  next within =>
    rw [if_neg within]
    exact claimPoolSlot_claims h

theorem claimPreferredPoolSlot_of_free (own : 0 < ownSlot names a i preserve)
    (free : ownSlot names a i preserve ∉ usedSlots) :
    claimPreferredPoolSlot names a i usedSlots preserve =
      some (ownSlot names a i preserve, ownSlot names a i preserve :: usedSlots) := by
  unfold claimPreferredPoolSlot
  unfold ownSlot at own free ⊢
  split
  next above =>
    rw [if_pos above] at free
    simp only [claimSlot, free, if_false]
  next within =>
    rw [if_neg within] at own free
    simp only [claimPoolSlot, own, if_true, claimSlot, free, if_false]

end claim

namespace PoolBuild

variable {bp : PoolBuild} {a : SlottedAgent} {template : String} {call : PoolCall} {claims : PoolClaims}

inductive Plans (bp : PoolBuild) (a : SlottedAgent) (template : String) (call : PoolCall)
    (claims : PoolClaims) : PoolChoice × PoolClaims → Prop
  | preferred (p : SessionInfo) (slot : Nat) (after : List Nat)
      (found : bp.preferredFor call.request = some p) (plain : p.isNamedSession = false)
      (created : p.isFailedCreate = false) (unused : p.id ∉ claims.used)
      (claimed : claimPreferredPoolSlot bp.names a p claims.usedSlots
        (resumesAssignedWork call.request bp.assignedWorkBeads p) = some (slot, after)) :
      Plans bp a template call claims (.reuse p slot, ⟨p.id :: claims.used, after⟩)
  | reused (i : SessionInfo) (slot : Nat) (after : List Nat)
      (isOpen : i ∈ bp.openInfos) (free : bp.reusable a template i = true)
      (unused : i.id ∉ claims.used)
      (claimed : claimPoolSlot bp.names a i claims.usedSlots = some (slot, after)) :
      Plans bp a template call claims (.reuse i slot, ⟨i.id :: claims.used, after⟩)
  | planned (slot : Nat) (after : List Nat)
      (claimed : bp.claimFreshPoolSlot a claims.usedSlots = .ok (slot, after)) :
      Plans bp a template call claims (.plan slot, ⟨claims.used, after⟩)
  | rejected (err : SelectError) : Plans bp a template call claims (.rejected err, claims)

theorem mem_reusableForRequest {request : SessionRequest} {used : List String} {i : SessionInfo}
    (h : i ∈ bp.reusableForRequest a template request used) :
    i ∈ bp.openInfos ∧ bp.reusable a template i = true ∧ i.id ∉ used := by
  have candidate : i ∈ bp.reusablePoolSessionInfos a template used := by
    unfold reusableForRequest at h
    split at h
    · exact h
    · exact (mem_filter.mp h).1
  have kept := mem_filter.mp ((mem_insertionSort _).mp candidate)
  have both := Bool.and_eq_true_iff.mp kept.2
  exact ⟨kept.1, both.1, of_decide_eq_true both.2⟩

theorem claimFreshPoolSlot_eq_ok {usedSlots after : List Nat} {slot : Nat}
    (h : bp.claimFreshPoolSlot a usedSlots = .ok (slot, after)) :
    ∃ upper, freshPoolSlotUpperBound a = .ok upper ∧ after = slot :: usedSlots ∧
      slot ∉ bp.occupiedSlots a upper usedSlots ∧ ∀ bound ∈ upper, slot ≤ bound := by
  unfold claimFreshPoolSlot at h
  cases limit : freshPoolSlotUpperBound a with
  | error err =>
    rw [limit] at h
    cases h
  | ok upper =>
    simp only [limit, bind, Except.bind] at h
    split at h
    next found eq =>
      cases h
      have inRange := mem_range'_1.mp (mem_of_find?_eq_some eq)
      have free := find?_some eq
      refine ⟨upper, rfl, rfl, of_decide_eq_true free, ?_⟩
      rintro bound rfl
      rw [Option.getD_some] at inRange
      omega
    · cases h

theorem claimFreshPoolSlot_claims {usedSlots after : List Nat} {slot : Nat}
    (h : bp.claimFreshPoolSlot a usedSlots = .ok (slot, after)) : Claims usedSlots slot after := by
  obtain ⟨upper, -, grown, free, -⟩ := claimFreshPoolSlot_eq_ok h
  exact ⟨fun mem => free (mem_append_left _ mem), grown⟩

theorem markUsed_reuse {i : SessionInfo} {slot : Nat} {after : List Nat}
    (unused : i.id ∉ claims.used) :
    markUsed (.reuse i slot, { claims with usedSlots := after }) =
      (.reuse i slot, ⟨i.id :: claims.used, after⟩) := if_neg unused

theorem planFresh_plans (template : String) :
    Plans bp a template call claims (markUsed (bp.planFresh a call claims)) := by
  unfold planFresh
  split
  · exact .rejected _
  split
  · exact .rejected _
  next slot after claimed =>
    split
    next err refused =>
      have grown := (claimFreshPoolSlot_claims claimed).2
      rw [grown, erase_cons_head]
      exact .rejected err
    · exact .planned slot after claimed

theorem selectOther_plans :
    Plans bp a template call claims (markUsed (bp.selectOther a template call claims)) := by
  unfold selectOther
  split
  next i slot after eq =>
    obtain ⟨i', mem, picked⟩ := exists_of_findSome?_eq_some eq
    obtain ⟨isOpen, free, unused⟩ := mem_reusableForRequest mem
    split at picked
    · cases picked
    obtain ⟨claimed, taken, same⟩ := Option.map_eq_some_iff.mp picked
    cases same
    rw [markUsed_reuse unused]
    exact .reused i slot after isOpen free unused taken
  · exact planFresh_plans template

theorem planItem_plans (bp : PoolBuild) (a : SlottedAgent) (template : String) (call : PoolCall)
    (claims : PoolClaims) : Plans bp a template call claims (bp.planItem a template call claims) := by
  unfold planItem selectOrPlanPoolSession
  split
  · exact .rejected _
  next plain =>
    split
    · exact selectOther_plans
    next p found =>
      rw [found] at plain
      split
      · exact selectOther_plans
      next fit =>
        simp only [Bool.or_eq_true, not_or, decide_eq_true_eq, Bool.not_eq_true] at fit
        split
        · exact .rejected _
        next slot after claimed =>
          rw [markUsed_reuse fit.1.2]
          exact .preferred p slot after found (by simpa using plain) fit.2 fit.1.2 claimed

/-- A kind of thing that requests claim: what a choice claims of it, and what
the claims hold of it. -/
theorem planItems_nodup {κ : Type} (given : PoolChoice → Option κ) (held : PoolClaims → List κ)
    (step : ∀ call claims choice after, bp.planItem a template call claims = (choice, after) →
      held claims ⊆ held after ∧
        ∀ thing ∈ given choice, thing ∉ held claims ∧ thing ∈ held after)
    (calls : List PoolCall) (claims : PoolClaims) :
    ((bp.planItems a template calls claims).filterMap given).Nodup ∧
      ∀ thing ∈ (bp.planItems a template calls claims).filterMap given, thing ∉ held claims := by
  induction calls generalizing claims with
  | nil => exact ⟨nodup_nil, by simp [planItems]⟩
  | cons call calls ih =>
    cases eq : bp.planItem a template call claims with
    | mk choice after =>
      obtain ⟨grows, fresh⟩ := step call claims choice after eq
      obtain ⟨distinct, later⟩ := ih after
      simp only [planItems, eq]
      cases gives : given choice with
      | none =>
        rw [filterMap_cons_none gives]
        exact ⟨distinct, fun thing mem old => later thing mem (grows old)⟩
      | some thing =>
        obtain ⟨free, taken⟩ := fresh thing gives
        rw [filterMap_cons_some gives]
        refine ⟨nodup_cons.mpr ⟨fun again => later thing again taken, distinct⟩, ?_⟩
        intro other mem
        rcases mem_cons.mp mem with rfl | mem
        · exact free
        · exact fun old => later other mem (grows old)

theorem Claims.fresh {usedSlots after : List Nat} {slot : Nat} (h : Claims usedSlots slot after) :
    usedSlots ⊆ after ∧ slot ∉ usedSlots ∧ slot ∈ after := by
  obtain ⟨free, rfl⟩ := h
  exact ⟨subset_cons_self _ _, free, mem_cons_self⟩

theorem planItem_slots {choice : PoolChoice} {after : PoolClaims}
    (h : bp.planItem a template call claims = (choice, after)) :
    claims.usedSlots ⊆ after.usedSlots ∧
      ∀ slot ∈ choice.slot?, slot ∉ claims.usedSlots ∧ slot ∈ after.usedSlots := by
  have plans := planItem_plans bp a template call claims
  rw [h] at plans
  cases plans with
  | preferred p slot slots found _ _ unused claimed =>
    have fresh := Claims.fresh (claimPreferredPoolSlot_claims claimed).1
    exact ⟨fresh.1, by rintro _ ⟨⟩; exact fresh.2⟩
  | reused i slot slots isOpen free unused claimed =>
    have fresh := Claims.fresh (claimPoolSlot_claims claimed).1
    exact ⟨fresh.1, by rintro _ ⟨⟩; exact fresh.2⟩
  | planned slot slots claimed =>
    have fresh := Claims.fresh (claimFreshPoolSlot_claims claimed)
    exact ⟨fresh.1, by rintro _ ⟨⟩; exact fresh.2⟩
  | rejected err => exact ⟨List.Subset.refl _, by rintro _ ⟨⟩⟩

theorem planItem_sessions {choice : PoolChoice} {after : PoolClaims}
    (h : bp.planItem a template call claims = (choice, after)) :
    claims.used ⊆ after.used ∧
      ∀ id ∈ choice.session?, id ∉ claims.used ∧ id ∈ after.used := by
  have plans := planItem_plans bp a template call claims
  rw [h] at plans
  cases plans with
  | preferred p slot slots found _ _ unused claimed =>
    exact ⟨subset_cons_self _ _, by rintro _ ⟨⟩; exact ⟨unused, mem_cons_self⟩⟩
  | reused i slot slots isOpen free unused claimed =>
    exact ⟨subset_cons_self _ _, by rintro _ ⟨⟩; exact ⟨unused, mem_cons_self⟩⟩
  | planned | rejected => exact ⟨List.Subset.refl _, by rintro _ ⟨⟩⟩

end PoolBuild

end GasCity
