import GasCity.Interleave
import GasCity.NudgeQueue

namespace GasCity

open List

namespace Nudge

def bare (item : Nudge) : Nudge :=
  { item with
    deliverAfter := none
    attempts := 0
    lastAttemptAt := none
    lastError := ""
    claimedAt := none
    leaseUntil := none
    deadAt := none }

theorem id_of_bare {x y : Nudge} (same : x.bare = y.bare) : x.id = y.id := by
  show x.bare.id = y.bare.id
  rw [same]

theorem beadID_of_bare {x y : Nudge} (same : x.bare = y.bare) : x.beadID = y.beadID := by
  show x.bare.beadID = y.bare.beadID
  rw [same]

def carries (agent source : String) (ref : NudgeReference) (item : Nudge) : Bool :=
  decide (item.agent = agent) && decide (item.source = source) && decide (item.reference = some ref)

theorem matchesSupersession_eq {item : Nudge} {ref : NudgeReference}
    (refers : item.reference = some ref) (existing : Nudge) :
    item.matchesSupersession existing = existing.carries item.agent item.source ref := by
  unfold matchesSupersession carries
  rw [refers]
  cases existing.reference with
  | none => simp
  | some old =>
    obtain ⟨kind, id⟩ := old
    obtain ⟨kind', id'⟩ := ref
    simp only [Option.some.injEq, NudgeReference.mk.injEq, Bool.decide_and, Bool.and_assoc]

def Prunable (now : Int) (item : Nudge) : Prop :=
  item.beadID ≠ "" ∧ item.pastRetention now = true

theorem Prunable.not_now {now : Int} {item : Nudge} (prunable : item.Prunable now) :
    item.deadAt ≠ some now := by
  intro same
  have late := prunable.2
  rw [pastRetention, same] at late
  have := of_decide_eq_true late
  rw [queuedNudgeDeadRetention] at this
  omega

end Nudge

/-- What a loop of the queue may do with an item of a bucket: the dead stay dead, and the newly
dead have the time of the loop. -/
def MayHave (now : Int) (b : NudgeBucket) (lost : Nudge → Prop) (item : Nudge) :
    Fate NudgeBucket Nudge → Prop
  | .keep => True
  | .move dest y => b ≠ .dead ∧ (dest = .dead → y.deadAt = some now) ∧ y.bare = item.bare
  | .drop => lost item

/-- A queue that has every item of another, apart from those that are gone. -/
structure Carries (now : Int) (gone : List Nudge) (q q' : NudgeQueue) : Prop where
  all : ((q'.all ++ gone).map Nudge.bare).Perm (q.all.map Nudge.bare)
  live : (q'.live.map Nudge.bare).Subperm (q.live.map Nudge.bare)
  dead : ∀ d ∈ q' .dead, d ∈ q .dead ∨ d.deadAt = some now

/-- A queue that has every item of another, apart from dead ones that were pruned and live ones
that were taken. -/
def Shifts (now : Int) (takes : Nudge → Prop) (q q' : NudgeQueue) : Prop :=
  ∃ gone, Carries now gone q q' ∧ ∀ x ∈ gone, (x ∈ q .dead ∧ x.Prunable now) ∨ takes x

section Shifts

variable {now : Int} {takes : Nudge → Prop} {q q₁ q' : NudgeQueue}

theorem Carries.of_perm (same : ∀ b, (q' b).Perm (q b)) : Carries now [] q q' := by
  have live : q'.live.Perm q.live := (same .pending).append (same .inFlight)
  refine ⟨?_, (live.map Nudge.bare).subperm, ?_⟩
  · rw [append_nil]
    exact (live.append (same .dead)).map Nudge.bare
  · intro d mem
    exact .inl ((same .dead).mem_iff.mp mem)

theorem Carries.trans {gone gone' : List Nudge} (first : Carries now gone q q₁)
    (second : Carries now gone' q₁ q') : Carries now (gone' ++ gone) q q' := by
  refine ⟨?_, second.live.trans first.live, ?_⟩
  · rw [← append_assoc, map_append]
    refine (second.all.append_right _).trans ?_
    rw [← map_append]
    exact first.all
  · intro d mem
    rcases second.dead d mem with mem | stamped
    · exact first.dead d mem
    · exact .inr stamped

theorem Shifts.of_perm (same : ∀ b, (q' b).Perm (q b)) : Shifts now takes q q' :=
  ⟨[], Carries.of_perm same, fun _ mem => absurd mem not_mem_nil⟩

theorem Shifts.refl (q : NudgeQueue) : Shifts now takes q q := .of_perm fun _ => List.Perm.refl _

theorem perm_sortState (q : NudgeQueue) (b : NudgeBucket) : (q.sortState b).Perm (q b) :=
  perm_insertionSort _ (q b)

theorem Shifts.sortState (shifts : Shifts now takes q q') : Shifts now takes q q'.sortState := by
  obtain ⟨gone, carries, lost⟩ := shifts
  exact ⟨[] ++ gone, carries.trans (Carries.of_perm (perm_sortState q')), lost⟩

theorem Shifts.trans (first : Shifts now takes q q₁) (second : Shifts now takes q₁ q') :
    Shifts now takes q q' := by
  obtain ⟨gone, carries, lost⟩ := first
  obtain ⟨gone', carries', lost'⟩ := second
  refine ⟨gone' ++ gone, carries.trans carries', ?_⟩
  intro x mem
  rcases mem_append.mp mem with mem | mem
  · rcases lost' x mem with ⟨dead, prunable⟩ | taken
    · rcases carries.dead x dead with dead | stamped
      · exact .inl ⟨dead, prunable⟩
      · exact absurd stamped prunable.not_now
    · exact .inr taken
  · exact lost x mem

theorem Shifts.weaken {takes' : Nudge → Prop} (shifts : Shifts now takes q q')
    (weaker : ∀ x, takes x → takes' x) : Shifts now takes' q q' := by
  obtain ⟨gone, carries, lost⟩ := shifts
  exact ⟨gone, carries, fun x mem => (lost x mem).imp_right (weaker x)⟩

theorem count_part (r : Spread NudgeBucket Nudge) (c : Nudge) :
    ((r.part .pending).map Nudge.bare).count c + ((r.part .inFlight).map Nudge.bare).count c +
      ((r.part .dead).map Nudge.bare).count c =
      ((r.moved.map Prod.snd).map Nudge.bare).count c := by
  unfold Spread.part
  induction r.moved with
  | nil => rfl
  | cons p moved ih =>
    obtain ⟨dest, y⟩ := p
    cases dest <;>
      simp only [filter_cons, reduceCtorEq, decide_false, decide_true, if_true, map_cons,
        count_cons, Bool.false_eq_true, if_false] <;>
      omega

theorem settle_carries {b : NudgeBucket} {lost : Nudge → Prop} {r : Spread NudgeBucket Nudge}
    (accounts : Accounts Nudge.bare (MayHave now b lost) (q b) r []) :
    Carries now r.dropped q (q.settle b r) := by
  have kept := perm_iff_count.mp accounts.perm
  simp only [append_nil, map_append, count_append] at kept
  refine ⟨?_, ?_, ?_⟩
  · refine perm_iff_count.mpr fun c => ?_
    have parts := count_part r c
    have here := kept c
    cases b <;>
      simp only [NudgeQueue.all, NudgeQueue.live, NudgeQueue.settle, map_append,
        count_append, reduceCtorEq, if_true, if_false] <;>
      omega
  · refine subperm_ext_iff.mpr fun c _ => ?_
    have parts := count_part r c
    have here := kept c
    cases b with
    | pending | inFlight =>
      simp only [NudgeQueue.live, NudgeQueue.settle, map_append, count_append,
        reduceCtorEq, if_true, if_false]
      omega
    | dead =>
      have none : r.moved = [] := by
        refine eq_nil_iff_forall_not_mem.mpr fun p mem => ?_
        obtain ⟨x, _, fits⟩ := accounts.moved p mem
        exact fits.1 rfl
      simp [NudgeQueue.live, NudgeQueue.settle, Spread.part, none]
  · intro d mem
    rcases mem_append.mp mem with mem | mem
    · split at mem
      next same =>
        refine .inl ?_
        rw [same]
        exact accounts.kept d mem
      next => exact .inl mem
    · obtain ⟨x, _, fits⟩ := accounts.moved _ (Spread.mem_part.mp mem)
      exact .inr (fits.2.1 rfl)

end Shifts

section Passes

variable {σ : Type} {front : Option (ShadowFront σ)} {now : Int} {late : Readings}
  {w w' : NudgeQueue × σ} {takes : Nudge → Prop}
  {b : NudgeBucket} {r : Spread NudgeBucket Nudge} {slow : Nat → Bool}
  {fate : Fate NudgeBucket Nudge}

theorem pass_shifts {visit : σ → Nudge → Except σ (σ × Fate NudgeBucket Nudge)}
    (ran : pass b visit slow w = .ok (r, w')) (lost : Nudge → Prop)
    (visits : ∀ s x s' fate, visit s x = .ok (s', fate) → MayHave now b lost x fate)
    (losing : ∀ x, x ∈ w.1 b → lost x → (x ∈ w.1 .dead ∧ x.Prunable now) ∨ takes x) :
    Shifts now takes w.1 w'.1 := by
  unfold pass at ran
  split at ran
  next => cases ran
  next s r' scanned =>
    cases ran
    have accounts := scan_accounts 
      (fun s x s' fate visited => ⟨visits s x s' fate visited, fun dest y moved => by
        have fits := visits s x s' fate visited
        rw [moved] at fits
        exact fits.2.2⟩) scanned
    refine ⟨r.dropped, settle_carries accounts, ?_⟩
    intro x mem
    obtain ⟨here, fits⟩ := accounts.dropped x mem
    exact losing x here fits

theorem pass_shifts_all {visit : σ → Nudge → Except σ (σ × Fate NudgeBucket Nudge)}
    (ran : pass b visit slow w = .ok (r, w')) (visits : ∀ s x s' fate, visit s x = .ok (s', fate) →
      MayHave now b (fun _ => False) x fate) : Shifts now takes w.1 w'.1 :=
  pass_shifts ran _ visits fun _ _ none => none.elim

theorem recover_shifts (ran : recoverExpiredInFlightNudges front now slow w = .ok w') :
    Shifts now takes w.1 w'.1 := by
  obtain ⟨⟨r, q, s⟩, passed, done⟩ := bind_eq_ok ran
  cases done
  refine (pass_shifts_all passed fun s x s' fate visited => ?_).sortState
  unfold recoverVisit at visited
  split at visited
  next => cases visited; exact ⟨nofun, fun _ => rfl, rfl⟩
  next =>
    split at visited
    next => cases visited; exact ⟨nofun, nofun, rfl⟩
    next => cases visited; trivial

theorem expire_shifts (ran : pruneExpiredQueuedNudges front now slow w = .ok w') : Shifts now takes w.1 w'.1 := by
  obtain ⟨⟨r, q, s⟩, passed, done⟩ := bind_eq_ok ran
  cases done
  refine (pass_shifts_all passed fun s x s' fate visited => ?_).sortState
  unfold expireVisit at visited
  split at visited
  next => cases visited; exact ⟨nofun, fun _ => rfl, rfl⟩
  next => cases visited; trivial

theorem pruneVisit_mayHave {s s' : σ} {x : Nudge}
    (visited : pruneVisit front now s x = .ok (s', fate)) :
    MayHave now .dead (fun x => x.Prunable now) x fate := by
  unfold pruneVisit at visited
  split at visited
  next => cases visited; trivial
  next named =>
    split at visited
    next => cases visited; trivial
    next f =>
      split at visited
      next => cases visited; trivial
      next =>
        dsimp only at visited
        split at visited
        next ripe =>
          cases visited
          exact ⟨named, (Bool.and_eq_true _ _ ▸ ripe).2⟩
        next => cases visited; trivial

theorem prune_shifts (ran : pruneDeadQueuedNudges front now slow w = .ok w') : Shifts now takes w.1 w'.1 := by
  obtain ⟨⟨r, w₁⟩, passed, done⟩ := bind_eq_ok ran
  cases done
  exact pass_shifts passed _ (fun s x s' fate => pruneVisit_mayHave)
    (fun x here prunable => .inl ⟨here, prunable⟩)

theorem maintain_shifts (ran : maintain front now late w = .ok w') : Shifts now takes w.1 w'.1 := by
  obtain ⟨w₁, recovered, ran⟩ := bind_eq_ok ran
  obtain ⟨w₂, expired, pruned⟩ := bind_eq_ok ran
  exact ((recover_shifts recovered).trans (expire_shifts expired)).trans (prune_shifts pruned)

theorem sift_shifts {fate : Nudge → Fate NudgeBucket Nudge}
    (fates : ∀ x, MayHave now b takes x (fate x)) (ran : sift b fate w = .ok (r, w')) :
    Shifts now takes w.1 w'.1 := by
  refine pass_shifts ran takes ?_ (fun x _ taken => .inr taken)
  intro s x s' given visited
  cases visited
  exact fates x

theorem bury_ok {hit : Prop} [Decidable hit] {gone : Nudge} {state reason : String} {s s' : σ}
    (visited : (if hit then
        match terminalize front gone state reason "" now s with
        | (false, s) => .error s
        | (true, s) => .ok (s, .move .dead gone)
      else .ok (s, .keep) : Except σ (σ × Fate NudgeBucket Nudge)) = .ok (s', fate)) :
    hit ∧ fate = .move .dead gone ∨ ¬ hit ∧ fate = .keep := by
  split at visited
  next here =>
    split at visited
    next => cases visited
    next =>
      cases visited
      exact .inl ⟨here, rfl⟩
  next other =>
    cases visited
    exact .inr ⟨other, rfl⟩

theorem supersedeVisit_ok {item x : Nudge} {s s' : σ}
    (visited : supersedeVisit front now item s x = .ok (s', fate)) :
    item.matchesSupersession x = true ∧
        fate = .move .dead { x with deadAt := some now, lastError := "superseded" } ∨
      ¬ item.matchesSupersession x = true ∧ fate = .keep := bury_ok visited

theorem rollbackVisit_ok {id reason : String} {s s' : σ} {x : Nudge}
    (visited : rollbackVisit front now id reason s x = .ok (s', fate)) :
    x.id = id ∧ fate = .move .dead { x with lastError := reason, deadAt := some now } ∨
      ¬ x.id = id ∧ fate = .keep := bury_ok visited

theorem supersedeVisit_mayHave (living : b ≠ .dead) {item : Nudge} {s s' : σ} {x : Nudge}
    (visited : supersedeVisit front now item s x = .ok (s', fate)) :
    MayHave now b (fun _ => False) x fate := by
  rcases supersedeVisit_ok visited with ⟨-, rfl⟩ | ⟨-, rfl⟩
  · exact ⟨living, fun _ => rfl, rfl⟩
  · trivial

theorem supersede_shifts {item : Nudge} (ran : supersede front now late item w = .ok w') :
    Shifts now takes w.1 w'.1 := by
  unfold supersede at ran
  split at ran
  next =>
    obtain ⟨⟨r₁, w₁⟩, first, ran⟩ := bind_eq_ok ran
    obtain ⟨⟨r₂, w₂⟩, second, done⟩ := bind_eq_ok ran
    cases done
    exact (pass_shifts_all first fun _ _ _ _ => supersedeVisit_mayHave (by decide)).trans
      (pass_shifts_all second fun _ _ _ _ => supersedeVisit_mayHave (by decide))
  next => cases ran; exact .refl _

theorem rollbackVisit_mayHave (living : b ≠ .dead) {id reason : String} {s s' : σ} {x : Nudge}
    (visited : rollbackVisit front now id reason s x = .ok (s', fate)) :
    MayHave now b (fun _ => False) x fate := by
  rcases rollbackVisit_ok visited with ⟨-, rfl⟩ | ⟨-, rfl⟩
  · exact ⟨living, fun _ => rfl, rfl⟩
  · trivial

theorem claimFate_mayHave (wanted : Nudge → Bool) (x : Nudge) :
    MayHave now .pending takes x (claimFate now wanted x) := by
  unfold claimFate
  split
  next => trivial
  next =>
    split
    next => trivial
    next => exact ⟨nofun, nofun, rfl⟩

variable (ids : List String)

theorem releaseFate_mayHave (x : Nudge) :
    MayHave now .inFlight takes x (releaseFate ids x) := by
  unfold releaseFate
  split
  next => exact ⟨nofun, nofun, rfl⟩
  next => trivial

theorem dropFate_mayHave {drop : Nudge → Bool} (taken : ∀ x, drop x = true → takes x) (x : Nudge) :
    MayHave now b takes x (dropFate drop x) := by
  unfold dropFate
  split
  next dropped => exact taken x dropped
  next => trivial

theorem failureFate_mayHave (living : b ≠ .dead) (ids : List String) (cause : String) (fence : Bool)
    (x : Nudge) :
    MayHave now b takes x (failureFate now ids cause fence x) := by
  unfold failureFate
  split
  next =>
    unfold Nudge.failedQueuedNudge
    cases fence with
    | true => exact ⟨living, fun _ => rfl, rfl⟩
    | false =>
      rw [if_neg (by simp)]
      split
      next stale =>
        split at stale <;> cases stale
        exact ⟨living, fun _ => rfl, rfl⟩
      next again =>
        split at again <;> cases again
        exact ⟨living, nofun, rfl⟩
  next => trivial

theorem withState_shifts {α : Type} {fn : NudgeQueue × σ → Except σ (α × NudgeQueue × σ)}
    (does : ∀ w a w', fn w = .ok (a, w') → Shifts now takes w.1 w'.1) (w : NudgeQueue × σ) :
    Shifts now takes w.1 (withState fn w).2.1 := by
  unfold withState
  split
  next => exact .refl _
  next a w' ran =>
    have sorted : Shifts now takes w.1 w.1.sortState := Shifts.of_perm (perm_sortState w.1)
    exact sorted.trans (does _ a w' ran)

theorem removeWaiting_shifts {drop : Nudge → Bool} (taken : ∀ x, drop x = true → takes x)
    (w : NudgeQueue × σ) : Shifts now takes w.1 (removeWaiting drop w).2.1 := by
  refine withState_shifts ?_ w
  intro w a w' ran
  obtain ⟨⟨r₁, w₁⟩, first, ran⟩ := bind_eq_ok ran
  obtain ⟨⟨r₂, w₂⟩, second, done⟩ := bind_eq_ok ran
  cases done
  exact (sift_shifts (dropFate_mayHave taken) first).trans
    (sift_shifts (dropFate_mayHave taken) second)

theorem claim_shifts (wanted : Nudge → Bool) (w : NudgeQueue × σ) :
    Shifts now takes w.1 (claimDueQueuedNudgesMatching front now late wanted w).2.1 := by
  refine withState_shifts ?_ w
  intro w a w' ran
  obtain ⟨w₁, kept, ran⟩ := bind_eq_ok ran
  obtain ⟨⟨r, q, s⟩, sifted, done⟩ := bind_eq_ok ran
  cases done
  exact ((maintain_shifts kept).trans (sift_shifts (claimFate_mayHave wanted) sifted)).sortState

theorem list_shifts (agent : Nudge → Bool) (w : NudgeQueue × σ) :
    Shifts now takes w.1 (listQueuedNudges front now late agent w).2.1 := by
  refine withState_shifts ?_ w
  intro w a w' ran
  obtain ⟨w₁, kept, done⟩ := bind_eq_ok ran
  cases done
  exact maintain_shifts kept

theorem sweep_shifts (w : NudgeQueue × σ) :
    Shifts now takes w.1 (runNudgeQueueMaintenanceSweep front now late w).2.1 := by
  refine withState_shifts ?_ w
  intro w a w' ran
  obtain ⟨w₁, kept, done⟩ := bind_eq_ok ran
  cases done
  exact maintain_shifts kept

theorem release_shifts (w : NudgeQueue × σ) :
    Shifts now takes w.1 (releaseQueuedNudgeClaims front now late ids w).2.1 := by
  unfold releaseQueuedNudgeClaims
  split
  next => exact .refl _
  next =>
    refine withState_shifts ?_ w
    intro w a w' ran
    obtain ⟨w₁, kept, ran⟩ := bind_eq_ok ran
    obtain ⟨⟨r, q, s⟩, sifted, done⟩ := bind_eq_ok ran
    cases done
    exact ((maintain_shifts kept).trans (sift_shifts (releaseFate_mayHave ids) sifted)).sortState

theorem ack_shifts {ids : List String} (taken : ∀ x : Nudge, x.id ∈ ids → takes x)
    (outcome reason boundary : String) (w : NudgeQueue × σ) :
    Shifts now takes w.1
      (ackQueuedNudgesWithOutcome front now late ids outcome reason boundary w).2.1 := by
  unfold ackQueuedNudgesWithOutcome
  split
  next => exact .refl _
  next =>
    refine withState_shifts ?_ w
    intro w a w' ran
    obtain ⟨w₁, kept, ran⟩ := bind_eq_ok ran
    obtain ⟨⟨acked, w₂⟩, first, ran⟩ := bind_eq_ok ran
    obtain ⟨⟨claimed, q, s⟩, second, ran⟩ := bind_eq_ok ran
    obtain ⟨s', marked, done⟩ := bind_eq_ok ran
    cases done
    have drops : ∀ x : Nudge, decide (x.id ∈ ids) = true → takes x :=
      fun x named => taken x (of_decide_eq_true named)
    have rest : Shifts now takes w₂.1 q := sift_shifts (dropFate_mayHave drops) second
    exact ((maintain_shifts kept).trans (sift_shifts (dropFate_mayHave drops) first)).trans rest

theorem failure_shifts (cause : String) (fence : Bool) (w : NudgeQueue × σ) :
    Shifts now takes w.1
      (recordQueuedNudgeFailureDetailed front now late ids cause fence w).2.1 := by
  unfold recordQueuedNudgeFailureDetailed
  split
  next => exact .refl _
  next =>
    refine withState_shifts ?_ w
    intro w a w' ran
    obtain ⟨w₁, kept, ran⟩ := bind_eq_ok ran
    obtain ⟨⟨first, w₂⟩, pending, ran⟩ := bind_eq_ok ran
    obtain ⟨⟨second, q, s⟩, claimed, done⟩ := bind_eq_ok ran
    cases done
    have before : Shifts now takes w₁.1 w₂.1 :=
      sift_shifts (failureFate_mayHave (by decide) ids cause fence) pending
    have after : Shifts now takes w₂.1 q :=
      sift_shifts (failureFate_mayHave (by decide) ids cause fence) claimed
    exact (((maintain_shifts kept).trans before).trans after).sortState

theorem rollback_shifts (item : Nudge) (reason : String) (w : NudgeQueue × σ) :
    Shifts now takes w.1 (rollbackQueuedNudge front now item reason w).1 := by
  unfold rollbackQueuedNudge
  split
  next => exact .refl _
  next =>
    dsimp only
    split <;>
    · refine withState_shifts ?_ w
      intro w a w' ran
      obtain ⟨⟨first, w₁⟩, pending, ran⟩ := bind_eq_ok ran
      obtain ⟨⟨second, q, s⟩, claimed, done⟩ := bind_eq_ok ran
      cases done
      have rest : Shifts now takes w₁.1 q :=
        pass_shifts_all claimed fun _ _ _ _ => rollbackVisit_mayHave (by decide)
      exact ((pass_shifts_all pending fun _ _ _ _ => rollbackVisit_mayHave (by decide)).trans
        rest).sortState

end Passes

end GasCity
