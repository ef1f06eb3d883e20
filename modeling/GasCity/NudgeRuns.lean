import GasCity.NudgeConserve

namespace GasCity

open List

/-- The transactions of the queue. A withdrawal with a store is two of them, the first of which
only reads. -/
inductive NudgeOp where
  | enqueue (item : Nudge)
  | claim (wanted : Nudge → Bool)
  | list (agent : Nudge → Bool)
  | sweep
  | release (ids : List String)
  | ack (ids : List String) (outcome reason commitBoundary : String)
  | failure (ids : List String) (cause : String) (fenceMismatch : Bool)
  | rollback (item : Nudge) (reason : String)
  | withdraw (ids : List String)
  | withdrawCandidates (candidates : List WithdrawCandidate)

/-- A transaction with the store it gets to open, its time and its readings of the clock. -/
structure NudgeEvent (σ : Type) where
  front : Option (ShadowFront σ)
  now : Int
  late : Readings := {}
  op : NudgeOp

def Readings.InTime (late : Readings) : Prop :=
  ∀ i, late.supersedePending i = false ∧ late.supersedeInFlight i = false

section Runs

variable {σ : Type}

namespace NudgeEvent

def apply (w : NudgeQueue × σ) (e : NudgeEvent σ) : NudgeQueue × σ :=
  match e.op with
  | .enqueue item => enqueueQueuedNudge e.front e.now e.late item w
  | .claim wanted => (claimDueQueuedNudgesMatching e.front e.now e.late wanted w).2
  | .list agent => (listQueuedNudges e.front e.now e.late agent w).2
  | .sweep => (runNudgeQueueMaintenanceSweep e.front e.now e.late w).2
  | .release ids => (releaseQueuedNudgeClaims e.front e.now e.late ids w).2
  | .ack ids outcome reason commitBoundary =>
    (ackQueuedNudgesWithOutcome e.front e.now e.late ids outcome reason commitBoundary w).2
  | .failure ids cause fenceMismatch =>
    (recordQueuedNudgeFailureDetailed e.front e.now e.late ids cause fenceMismatch w).2
  | .rollback item reason => rollbackQueuedNudge e.front e.now item reason w
  | .withdraw ids => (removeWaitNudgeIDs ids w).2
  | .withdrawCandidates candidates => (removeCandidates candidates w).2

def Takes (e : NudgeEvent σ) (id : String) : Prop :=
  match e.op with
  | .ack ids _ _ _ => id ∈ ids
  | .withdraw ids => id ∈ ids
  | .withdrawCandidates candidates => ∃ c ∈ candidates, c.id = id
  | _ => False

end NudgeEvent

def nudgeRun (s : σ) (events : List (NudgeEvent σ)) : NudgeQueue × σ :=
  events.foldl NudgeEvent.apply (NudgeQueue.empty, s)

section Enqueue

variable {front : Option (ShadowFront σ)} {now : Int} {late : Readings} {w w' : NudgeQueue × σ}

/-- What a loop that buries every hit has spared and buried so far. -/
structure Sparing (hit : Nudge → Bool) (bucket : List Nudge) (r : Spread NudgeBucket Nudge)
    (rest : List Nudge) : Prop where
  rest : ∀ x ∈ rest, x ∈ bucket
  kept : ∀ x ∈ r.kept, x ∈ bucket ∧ hit x = false
  moved : ∀ p ∈ r.moved, p.1 = NudgeBucket.dead

def Buries (hit : Nudge → Bool) (x : Nudge) : Fate NudgeBucket Nudge → Prop
  | .keep => hit x = false
  | .move dest _ => dest = .dead
  | .drop => False

variable {fate : Fate NudgeBucket Nudge} {r : Spread NudgeBucket Nudge} {item : Nudge}

theorem Sparing.put {hit : Nudge → Bool} {x : Nudge} {bucket rest : List Nudge}
    (sparing : Sparing hit bucket r (x :: rest)) (buries : Buries hit x fate) :
    Sparing hit bucket (r.put x fate) rest := by
  obtain ⟨met, spared, buried⟩ := sparing
  have later : ∀ y ∈ rest, y ∈ bucket := fun y mem => met y (mem_cons_of_mem x mem)
  cases fate with
  | keep =>
    refine ⟨later, ?_, buried⟩
    intro y mem
    rcases mem_append.mp mem with mem | mem
    · exact spared y mem
    · rw [mem_singleton.mp mem]
      exact ⟨met x mem_cons_self, buries⟩
  | move dest y =>
    refine ⟨later, spared, ?_⟩
    intro p mem
    rcases mem_append.mp mem with mem | mem
    · exact buried p mem
    · rw [mem_singleton.mp mem]
      exact buries
  | drop => exact buries.elim

theorem pass_clears {hit : Nudge → Bool} {b : NudgeBucket}
    {visit : σ → Nudge → Except σ (σ × Fate NudgeBucket Nudge)} {slow : Nat → Bool}
    (inTime : ∀ i, slow i = false)
    (visits : ∀ s x s' fate, visit s x = .ok (s', fate) → Buries hit x fate)
    (ran : pass b visit slow w = .ok (r, w')) :
    ∀ b', b' ≠ .dead → ∀ x ∈ w'.1 b', x ∈ w.1 b' ∧ (b' = b → hit x = false) := by
  unfold pass at ran
  split at ran
  next => cases ran
  next s r' scanned =>
    cases ran
    have start : Sparing hit (w.1 b) {} (w.1 b) := ⟨fun x mem => mem, by simp, by simp⟩
    have cleared := scan_rule (fun r rest _ => Sparing hit (w.1 b) r rest)
      (fun i _ _ _ isLate => by rw [inTime] at isLate; cases isLate)
      (fun _ x _ s s' fate sparing visited => sparing.put (visits s x s' fate visited)) start scanned
    intro b' living x mem
    rcases mem_append.mp mem with mem | mem
    · split at mem
      next same =>
        rw [same]
        exact ⟨(cleared.kept x mem).1, fun _ => (cleared.kept x mem).2⟩
      next differs => exact ⟨mem, fun same => absurd same differs⟩
    · exact absurd (cleared.moved _ (Spread.mem_part.mp mem)) living

theorem supersedeVisit_buries {x : Nudge} {s s' : σ}
    (visited : supersedeVisit front now item s x = .ok (s', fate)) :
    Buries item.matchesSupersession x fate := by
  rcases supersedeVisit_ok visited with ⟨-, rfl⟩ | ⟨differs, rfl⟩
  · rfl
  · exact Bool.eq_false_iff.mpr differs

theorem supersede_clears {ref : NudgeReference} (refers : item.reference = some ref)
    (named : ref.id ≠ "") (inTime : late.InTime) (ran : supersede front now late item w = .ok w') :
    ∀ x ∈ w'.1.live, x.carries item.agent item.source ref = false := by
  have referring : item.hasReference = true := by
    rw [Nudge.hasReference, refers]
    exact decide_eq_true named
  unfold supersede at ran
  rw [if_pos referring] at ran
  obtain ⟨⟨r₁, w₁⟩, first, ran⟩ := bind_eq_ok ran
  obtain ⟨⟨r₂, w₂⟩, second, done⟩ := bind_eq_ok ran
  cases done
  have pending := pass_clears (fun i => (inTime i).1) (fun _ _ _ _ => supersedeVisit_buries) first
  have claimed := pass_clears (fun i => (inTime i).2) (fun _ _ _ _ => supersedeVisit_buries) second
  intro x mem
  rw [← Nudge.matchesSupersession_eq refers]
  rcases mem_append.mp mem with mem | mem
  · have before := (claimed .pending (by decide) x mem).1
    exact (pending .pending (by decide) x before).2 rfl
  · exact (claimed .inFlight (by decide) x mem).2 rfl

theorem queuedNudgeExists_iff (q : NudgeQueue) (id : String) :
    q.queuedNudgeExists id = true ↔ id ∈ q.ids := by
  simp only [NudgeQueue.queuedNudgeExists, NudgeQueue.ids, NudgeQueue.all, NudgeQueue.live,
    Bool.or_eq_true, any_eq_true, decide_eq_true_eq, map_append, mem_append,
    mem_map]

theorem withBead_id (item : Nudge) (beadID : String) : (withBead item beadID).id = item.id := by
  unfold withBead
  split <;> rfl

structure Joins (late : Readings) (item : Nudge) (q : NudgeQueue) : Prop where
  fresh : item.id ∉ q.ids
  clear : late.InTime → ∀ ref, item.reference = some ref → ref.id ≠ "" →
    ∀ x ∈ q.live, x.carries item.agent item.source ref = false

theorem Shifts.origin {takes : Nudge → Prop} {q q' : NudgeQueue} (shifts : Shifts now takes q q') {y : Nudge} (mem : y ∈ q'.all) :
    ∃ x ∈ q.all, y.bare = x.bare := by
  obtain ⟨lost, carries, _⟩ := shifts
  have content : y.bare ∈ (q'.all ++ lost).map Nudge.bare :=
    mem_map.mpr ⟨y, mem_append_left lost mem, rfl⟩
  obtain ⟨x, there, same⟩ := mem_map.mp (carries.all.mem_iff.mp content)
  exact ⟨x, there, same.symm⟩

theorem Shifts.ids {takes : Nudge → Prop} {q q' : NudgeQueue} (shifts : Shifts now takes q q')
    {id : String} (mem : id ∈ q'.ids) : id ∈ q.ids := by
  obtain ⟨x, here, rfl⟩ := mem_map.mp mem
  obtain ⟨y, there, same⟩ := shifts.origin here
  exact mem_map.mpr ⟨y, there, (Nudge.id_of_bare same).symm⟩

theorem enqueueTransaction_cases {a : Unit}
    (ran : enqueueTransaction front now late item w = .ok (a, w')) :
    Shifts now (fun _ => False) w.1 w'.1 ∨
      ∃ q, Shifts now (fun _ => False) w.1 q ∧ Joins late item q ∧ w'.1 = (q.push item).sortState := by
  obtain ⟨w₁, kept, ran⟩ := bind_eq_ok ran
  split at ran
  next =>
    cases ran
    exact .inl (maintain_shifts kept)
  next absent =>
    obtain ⟨w₂, superseded, done⟩ := bind_eq_ok ran
    cases done
    have moved : Shifts now (fun _ => False) w₁.1 w₂.1 := supersede_shifts superseded
    refine .inr ⟨w₂.1, (maintain_shifts kept).trans moved, ⟨?_, ?_⟩, rfl⟩
    · intro mem
      exact absent ((queuedNudgeExists_iff _ _).mpr (moved.ids mem))
    · intro inTime ref refers named
      exact supersede_clears refers named inTime superseded

theorem enqueue_cases (item : Nudge) (w : NudgeQueue × σ) :
    Shifts now (fun _ => False) w.1 (enqueueQueuedNudge front now late item w).1 ∨
      ∃ beadID q, Shifts now (fun _ => False) w.1 q ∧ Joins late (withBead item beadID) q ∧
        (enqueueQueuedNudge front now late item w).1 =
          (q.push (withBead item beadID)).sortState := by
  have stays : Shifts now (fun _ => False) w.1 w.1 := Shifts.of_perm fun _ => List.Perm.refl _
  unfold enqueueQueuedNudge
  split
  next => exact .inl stays
  next beadID created s saved =>
    cases ran : enqueueTransaction front now late (withBead item beadID) (w.1.sortState, s) with
    | error s' =>
      refine .inl ?_
      simp only [withState, ran]
      split
      next => split <;> exact stays
      next => exact stays
    | ok done =>
      simp only [withState, ran]
      have sorted : Shifts now (fun _ => False) w.1 w.1.sortState :=
        Shifts.of_perm (perm_sortState w.1)
      rcases enqueueTransaction_cases ran with shifts | ⟨q, shifts, joins, pushed⟩
      · exact .inl (sorted.trans shifts)
      · exact .inr ⟨beadID, q, sorted.trans shifts, joins, pushed⟩

end Enqueue

theorem NudgeEvent.apply_cases (e : NudgeEvent σ) (w : NudgeQueue × σ) :
    Shifts e.now (fun x => e.Takes x.id) w.1 (e.apply w).1 ∨
      ∃ item beadID q, e.op = .enqueue item ∧ Shifts e.now (fun _ => False) w.1 q ∧
        Joins e.late (withBead item beadID) q ∧
        (e.apply w).1 = (q.push (withBead item beadID)).sortState := by
  obtain ⟨front, now, late, op⟩ := e
  cases op with
  | enqueue item =>
    rcases enqueue_cases item w with shifts | ⟨beadID, q, shifts, joins, pushed⟩
    · exact .inl (shifts.weaken fun _ none => none.elim)
    · exact .inr ⟨item, beadID, q, rfl, shifts, joins, pushed⟩
  | claim wanted => exact .inl (claim_shifts wanted w)
  | list agent => exact .inl (list_shifts agent w)
  | sweep => exact .inl (sweep_shifts w)
  | release ids => exact .inl (release_shifts ids w)
  | ack ids outcome reason boundary =>
    exact .inl (ack_shifts (fun _ named => named) outcome reason boundary w)
  | failure ids cause fence => exact .inl (failure_shifts ids cause fence w)
  | rollback item reason => exact .inl (rollback_shifts item reason w)
  | withdraw ids =>
    refine .inl (removeWaiting_shifts (fun x named => ?_) w)
    exact (of_decide_eq_true named : x.id ∈ ids)
  | withdrawCandidates candidates =>
    refine .inl (removeWaiting_shifts (fun x named => ?_) w)
    exact ⟨candidateForItem x, of_decide_eq_true named, rfl⟩

def rivals (q : NudgeQueue) (agent source : String) (ref : NudgeReference) : Nat :=
  q.live.countP (Nudge.carries agent source ref)

variable {q q' : NudgeQueue} {takes : Nudge → Prop}

theorem Shifts.rivals_le {now : Int} (shifts : Shifts now takes q q') (agent source : String)
    (ref : NudgeReference) :
    rivals q' agent source ref ≤ rivals q agent source ref := by
  obtain ⟨gone, carries, _⟩ := shifts
  have fewer := carries.live.countP_le (Nudge.carries agent source ref)
  rw [countP_map, countP_map] at fewer
  exact fewer

theorem Shifts.nodup {now : Int} (shifts : Shifts now takes q q') (distinct : q.ids.Nodup) : q'.ids.Nodup := by
  obtain ⟨gone, carries, _⟩ := shifts
  have ids : ∀ l : List Nudge, (l.map Nudge.bare).map Nudge.id = l.map Nudge.id := by
    intro l
    rw [map_map]
    rfl
  have perm := carries.all.map Nudge.id
  rw [ids, ids] at perm
  have whole := perm.nodup_iff.mpr distinct
  rw [map_append] at whole
  exact (nodup_append.mp whole).1

theorem perm_all_push (q : NudgeQueue) (item : Nudge) :
    (q.push item).sortState.all.Perm (item :: q.all) := by
  have sorted : (q.push item).sortState.all.Perm (q.push item).all :=
    ((perm_sortState _ _).append (perm_sortState _ _)).append (perm_sortState _ _)
  refine sorted.trans ?_
  simp only [NudgeQueue.all, NudgeQueue.live, NudgeQueue.push, reduceCtorEq, if_true, if_false,
    append_assoc, singleton_append]
  exact perm_middle

theorem perm_live_push (q : NudgeQueue) (item : Nudge) :
    (q.push item).sortState.live.Perm (item :: q.live) := by
  have sorted : (q.push item).sortState.live.Perm (q.push item).live :=
    (perm_sortState _ _).append (perm_sortState _ _)
  refine sorted.trans ?_
  simp only [NudgeQueue.live, NudgeQueue.push, reduceCtorEq, if_true, if_false,
    append_assoc, singleton_append]
  exact perm_middle

structure Conserves (e : NudgeEvent σ) (q q' : NudgeQueue) : Prop where
  distinct : q'.ids.Nodup
  leaves : ∀ id ∈ q.ids, id ∉ q'.ids →
    e.Takes id ∨ ∃ x ∈ q .dead, x.id = id ∧ x.Prunable e.now
  same : ∀ x ∈ q.all, ∀ y ∈ q'.all, x.id = y.id → y.bare = x.bare ∨
    (x ∈ q .dead ∧ x.Prunable e.now ∧
      ∃ item beadID, e.op = .enqueue item ∧ y.bare = (withBead item beadID).bare)
  arrives : ∀ y ∈ q'.all, y.id ∉ q.ids →
    ∃ item beadID, e.op = .enqueue item ∧ y.bare = (withBead item beadID).bare

theorem eq_of_id (distinct : q.ids.Nodup) {x y : Nudge} (hx : x ∈ q.all) (hy : y ∈ q.all)
    (same : x.id = y.id) : x = y :=
  inj_on_of_nodup_map distinct hx hy same

theorem Shifts.leaves {now : Int} (shifts : Shifts now takes q q') {id : String} (mem : id ∈ q.ids)
    (gone : id ∉ q'.ids) :
    (∃ x, x.id = id ∧ takes x) ∨ ∃ x ∈ q .dead, x.id = id ∧ x.Prunable now := by
  obtain ⟨lost, carries, why⟩ := shifts
  obtain ⟨x, here, rfl⟩ := mem_map.mp mem
  have content : x.bare ∈ (q'.all ++ lost).map Nudge.bare :=
    carries.all.mem_iff.mpr (mem_map.mpr ⟨x, here, rfl⟩)
  obtain ⟨y, there, same⟩ := mem_map.mp content
  have named := Nudge.id_of_bare same
  rcases mem_append.mp there with kept | left
  · exact absurd (mem_map.mpr ⟨y, kept, named⟩) gone
  · rcases why y left with ⟨dead, prunable⟩ | taken
    · exact .inr ⟨y, dead, named, prunable⟩
    · exact .inl ⟨y, named, taken⟩

theorem Shifts.same {now : Int} (shifts : Shifts now takes q q') (distinct : q.ids.Nodup) {x y : Nudge}
    (hx : x ∈ q.all) (hy : y ∈ q'.all) (named : x.id = y.id) : y.bare = x.bare := by
  obtain ⟨z, there, content⟩ := shifts.origin hy
  have one := eq_of_id distinct hx there (named.trans (Nudge.id_of_bare content))
  rw [content, one]

theorem Conserves.of_shifts {e : NudgeEvent σ} (distinct : q.ids.Nodup)
    (shifts : Shifts e.now (fun x => e.Takes x.id) q q') : Conserves e q q' where
  distinct := shifts.nodup distinct
  leaves := by
    intro id mem gone
    rcases shifts.leaves mem gone with ⟨x, rfl, taken⟩ | pruned
    · exact .inl taken
    · exact .inr pruned
  same := fun x hx y hy named => .inl (shifts.same distinct hx hy named)
  arrives := fun y mem new => absurd (shifts.ids (mem_map_of_mem mem)) new

theorem Conserves.of_join {e : NudgeEvent σ} {q₁ : NudgeQueue} {item : Nudge} {beadID : String}
    (distinct : q.ids.Nodup) (op : e.op = .enqueue item) (shifts : Shifts e.now (fun _ => False) q q₁)
    (joins : Joins e.late (withBead item beadID) q₁) :
    Conserves e q (q₁.push (withBead item beadID)).sortState := by
  have perm := perm_all_push q₁ (withBead item beadID)
  have ids : (q₁.push (withBead item beadID)).sortState.ids.Perm
      ((withBead item beadID).id :: q₁.ids) := perm.map Nudge.id
  refine ⟨?_, ?_, ?_, ?_⟩
  · exact ids.nodup_iff.mpr (nodup_cons.mpr ⟨joins.fresh, shifts.nodup distinct⟩)
  · intro id mem gone
    have left : id ∉ q₁.ids := fun here => gone (ids.mem_iff.mpr (mem_cons_of_mem _ here))
    rcases shifts.leaves mem left with ⟨x, _, none⟩ | pruned
    · exact none.elim
    · exact .inr pruned
  · intro x hx y hy named
    rcases mem_cons.mp (perm.mem_iff.mp hy) with rfl | hy
    · -- the new item may have the id of one that this transaction has pruned
      have left : x.id ∉ q₁.ids := named ▸ joins.fresh
      rcases shifts.leaves (mem_map.mpr ⟨x, hx, rfl⟩) left with ⟨_, _, none⟩ | ⟨z, dead, same, old⟩
      · exact none.elim
      · have one := eq_of_id distinct (mem_append_right _ dead) hx same
        exact .inr ⟨one ▸ dead, one ▸ old, item, beadID, op, rfl⟩
    · exact .inl (shifts.same distinct hx hy named)
  · intro y hy new
    rcases mem_cons.mp (perm.mem_iff.mp hy) with rfl | hy
    · exact ⟨item, beadID, op, rfl⟩
    · exact absurd (shifts.ids (mem_map_of_mem hy)) new

theorem NudgeEvent.apply_conserves (e : NudgeEvent σ) (w : NudgeQueue × σ)
    (distinct : w.1.ids.Nodup) : Conserves e w.1 (e.apply w).1 := by
  rcases e.apply_cases w with shifts | ⟨item, beadID, q, op, shifts, joins, pushed⟩
  · exact Conserves.of_shifts distinct shifts
  · rw [pushed]
    exact Conserves.of_join distinct op shifts joins

theorem NudgeEvent.apply_rivals (e : NudgeEvent σ) (w : NudgeQueue × σ) (inTime : e.late.InTime)
    {agent source : String} {ref : NudgeReference} (named : ref.id ≠ "")
    (before : rivals w.1 agent source ref ≤ 1) : rivals (e.apply w).1 agent source ref ≤ 1 := by
  rcases e.apply_cases w with shifts | ⟨item, beadID, q, op, shifts, joins, pushed⟩
  · exact (shifts.rivals_le agent source ref).trans before
  · rw [pushed, rivals, (perm_live_push q _).countP_eq, countP_cons]
    split
    next carrying =>
      simp only [Nudge.carries, Bool.and_eq_true, decide_eq_true_eq] at carrying
      obtain ⟨⟨rfl, rfl⟩, refers⟩ := carrying
      have none : q.live.countP (Nudge.carries (withBead item beadID).agent
          (withBead item beadID).source ref) = 0 := by
        refine countP_eq_zero.mpr fun x mem => ?_
        rw [joins.clear inTime ref refers named x mem]
        exact Bool.false_ne_true
      omega
    next =>
      have fewer : q.live.countP (Nudge.carries agent source ref) ≤ rivals w.1 agent source ref :=
        shifts.rivals_le agent source ref
      omega

theorem nudgeRun_append (s : σ) (events : List (NudgeEvent σ)) (e : NudgeEvent σ) :
    nudgeRun s (events ++ [e]) = e.apply (nudgeRun s events) := by
  simp [nudgeRun]

/-- The queue conserves its items over every run, and in time it holds one live item for each
reference. -/
theorem nudgeQueue_conserves (s : σ) (events : List (NudgeEvent σ)) :
    (nudgeRun s events).1.ids.Nodup ∧
      (∀ e, Conserves e (nudgeRun s events).1 (nudgeRun s (events ++ [e])).1) ∧
      ((∀ e ∈ events, e.late.InTime) → ∀ agent source ref, ref.id ≠ "" →
        rivals (nudgeRun s events).1 agent source ref ≤ 1) := by
  have distinct : (nudgeRun s events).1.ids.Nodup := by
    have start : (NudgeQueue.empty, s).1.ids.Nodup := nodup_nil
    refine foldlRecOn (motive := fun w => w.1.ids.Nodup) events NudgeEvent.apply start ?_
    intro w kept e _
    exact (e.apply_conserves w kept).distinct
  refine ⟨distinct, ?_, ?_⟩
  · intro e
    rw [nudgeRun_append]
    exact e.apply_conserves _ distinct
  · intro inTime agent source ref named
    have start : rivals (NudgeQueue.empty, s).1 agent source ref ≤ 1 := Nat.zero_le 1
    refine foldlRecOn (motive := fun w => rivals w.1 agent source ref ≤ 1) events
      NudgeEvent.apply start ?_
    intro w kept e mem
    exact e.apply_rivals w (inTime e mem) named kept

end Runs

/-- Two nudges about one mail, the second of which comes while the first is claimed. -/
def mailTwice : List (NudgeEvent Unit) :=
  [{ front := none, now := 0, op := .enqueue (mail "n-1") },
    { front := none, now := 1, op := .claim fun _ => true },
    { front := none, now := 2, op := .enqueue (mail "n-2") }]
where
  mail (id : String) : Nudge :=
    { id := id, agent := "mayor", source := "mail", reference := some ⟨"mail", "gc-7"⟩ }

theorem nudgeQueue_conserves_mailTwice :
    (nudgeRun () mailTwice).1.ids = ["n-2", "n-1"] ∧ (nudgeRun () mailTwice).1.ids.Nodup ∧
      rivals (nudgeRun () mailTwice).1 "mayor" "mail" ⟨"mail", "gc-7"⟩ ≤ 1 := by
  obtain ⟨distinct, _, one⟩ := nudgeQueue_conserves () mailTwice
  refine ⟨by decide +kernel, distinct, one ?_ "mayor" "mail" ⟨"mail", "gc-7"⟩ (by decide)⟩
  intro e mem i
  simp only [mailTwice, mem_cons, not_mem_nil, or_false] at mem
  rcases mem with rfl | rfl | rfl <;> exact ⟨rfl, rfl⟩

end GasCity
