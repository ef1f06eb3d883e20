import GasCity.NudgeAgree

namespace GasCity

open List ShadowStore

section Transactions

variable (ids : IDSupply) (now : Int) (late : Readings) {w : NudgeQueue × ShadowStore}

theorem sweep_agrees (start : Mirror [] w) :
    Mirror [] (runNudgeQueueMaintenanceSweep (some (front ids)) now late w).2 := by
  refine withState_keeps start fun w mirror => ?_
  obtain ⟨w₁, kept, mirror⟩ := maintain_agrees ids now late mirror
  refine ⟨(), w₁, ?_, mirror⟩
  rw [kept]
  rfl

theorem list_agrees (agent : Nudge → Bool) (start : Mirror [] w) :
    Mirror [] (listQueuedNudges (some (front ids)) now late agent w).2 := by
  refine withState_keeps start fun w mirror => ?_
  obtain ⟨w₁, kept, mirror⟩ := maintain_agrees ids now late mirror
  refine ⟨((w₁.1 .pending).filter agent, (w₁.1 .inFlight).filter agent,
    (w₁.1 .dead).filter agent), w₁, ?_, mirror⟩
  rw [kept]
  rfl

theorem claimFate_keeps (wanted : Nudge → Bool) :
    VisitKeeps [] fun s x => .ok (s, claimFate now wanted x) := by
  intro s x living dead mirrors
  refine ⟨s, _, rfl, ?_⟩
  unfold claimFate
  split
  next => exact mirrors
  next =>
    split
    next => exact mirrors
    next => exact mirrors.rebook_head rfl

theorem claim_agrees (wanted : Nudge → Bool) (start : Mirror [] w) :
    Mirror [] (claimDueQueuedNudgesMatching (some (front ids)) now late wanted w).2 := by
  refine withState_keeps start fun w mirror => ?_
  obtain ⟨w₁, kept, mirror⟩ := maintain_agrees ids now late mirror
  obtain ⟨r, ⟨q, s⟩, sifted, mirror⟩ :=
    pass_live (b := .pending) (by decide) (claimFate_keeps now wanted) (fun _ => false) mirror
  refine ⟨r.part .inFlight, (q.sortState, s), ?_, mirror.sorted⟩
  simp only [kept, bind, Except.bind, sift, sifted, pure, Except.pure]

theorem releaseFate_keeps (named : List String) :
    VisitKeeps [] fun s x => .ok (s, releaseFate named x) := by
  intro s x living dead mirrors
  refine ⟨s, _, rfl, ?_⟩
  unfold releaseFate
  split
  next => exact mirrors.rebook_head rfl
  next => exact mirrors

theorem release_agrees (named : List String) (start : Mirror [] w) :
    Mirror [] (releaseQueuedNudgeClaims (some (front ids)) now late named w).2 := by
  unfold releaseQueuedNudgeClaims
  split
  next => exact start
  next =>
    refine withState_keeps start fun w mirror => ?_
    obtain ⟨w₁, kept, mirror⟩ := maintain_agrees ids now late mirror
    obtain ⟨r, ⟨q, s⟩, sifted, mirror⟩ :=
      pass_live (b := .inFlight) (by decide) (releaseFate_keeps named) (fun _ => false) mirror
    refine ⟨(), (q.sortState, s), ?_, mirror.sorted⟩
    simp only [kept, bind, Except.bind, sift, sifted, pure, Except.pure]

theorem dropFate_rebooks (drop : Nudge → Bool) (x : Nudge) (dest : NudgeBucket) (y : Nudge)
    (given : dropFate drop x = .move dest y) : y.bare = x.bare := by
  unfold dropFate at given
  split at given <;> cases given

variable {r : Spread NudgeBucket Nudge}

theorem dropFate_buries_none {drop : Nudge → Bool}
    (moved : ∀ dest y, (dest, y) ∈ r.moved → ∃ x, dropFate drop x = .move dest y) :
    r.part .dead = [] := by
  refine eq_nil_iff_forall_not_mem.mpr fun y mem => ?_
  obtain ⟨x, given⟩ := moved _ _ (Spread.mem_part.mp mem)
  unfold dropFate at given
  split at given <;> cases given

variable (named : List String)

theorem ack_agrees (outcome reason boundary : String) (start : Mirror [] w) :
    Mirror [] (ackQueuedNudgesWithOutcome (some (front ids)) now late named outcome
      reason boundary w).2 := by
  unfold ackQueuedNudgesWithOutcome
  split
  next => exact start
  next =>
    refine withState_keeps start fun w mirror => ?_
    obtain ⟨⟨q₁, s⟩, kept, mirror⟩ := maintain_agrees ids now late mirror
    obtain ⟨r₁, q₂, first, mirrors, dead₁, moved₁, _⟩ :=
      sift_sets_aside (b := .pending) (by decide) (dropFate_rebooks (·.id ∈ named)) mirror
    obtain ⟨r₂, q₃, second, mirrors, dead₂, moved₂, _⟩ :=
      sift_sets_aside (b := .inFlight) (w := (q₂, s)) (by decide) (dropFate_rebooks (·.id ∈ named))
        mirrors
    rw [dropFate_buries_none moved₁, append_nil] at dead₁
    rw [dropFate_buries_none moved₂, append_nil] at dead₂
    rw [dropFate_buries_none moved₁, dropFate_buries_none moved₂, nil_append, nil_append]
      at mirrors
    have due : Mirrors ((r₁.dropped ++ r₂.dropped).map Nudge.pair ++ []) q₃.live (q₁ .dead) s := by
      refine mirrors.owed_perm ?_
      simp only [map_append, append_nil]
      exact perm_append_comm
    obtain ⟨s', marked, settled⟩ := markAll_settles ids now outcome reason boundary _ due
    refine ⟨(), (q₃, s'), ?_, ?_⟩
    · simp only [kept, bind, Except.bind, first, second, marked, pure, Except.pure]
    · show Mirrors [] q₃.live (q₃ .dead) s'
      rw [dead₂]
      show Mirrors [] q₃.live (q₂ .dead) s'
      rw [dead₁]
      exact settled

theorem failureFate_rebooks (cause : String) (fence : Bool) (x : Nudge)
    (dest : NudgeBucket) (y : Nudge) (given : failureFate now named cause fence x = .move dest y) :
    y.bare = x.bare := by
  have may : MayHave now .pending (fun _ => False) x (failureFate now named cause fence x) :=
    failureFate_mayHave (by decide) named cause fence x
  rw [given] at may
  exact may.2.2

theorem failureFate_drops_none {named : List String} {cause : String} {fence : Bool}
    (dropped : ∀ x ∈ r.dropped, failureFate now named cause fence x = .drop) : r.dropped = [] := by
  refine eq_nil_iff_forall_not_mem.mpr fun x mem => ?_
  have may : MayHave now .pending (fun _ => False) x (failureFate now named cause fence x) :=
    failureFate_mayHave (by decide) named cause fence x
  rw [dropped x mem] at may
  exact may

theorem failure_agrees (cause : String) (fence : Bool) (start : Mirror [] w) :
    Mirror [] (recordQueuedNudgeFailureDetailed (some (front ids)) now late named cause
      fence w).2 := by
  unfold recordQueuedNudgeFailureDetailed
  split
  next => exact start
  next =>
    obtain ⟨⟨q₁, s⟩, kept, mirror⟩ := maintain_agrees ids now late (Mirror.sorted start)
    obtain ⟨r₁, q₂, first, mirrors, dead₁, _, dropped₁⟩ :=
      sift_sets_aside (b := .pending) (by decide) (failureFate_rebooks now named cause fence) mirror
    obtain ⟨r₂, q₃, second, mirrors, dead₂, _, dropped₂⟩ :=
      sift_sets_aside (b := .inFlight) (w := (q₂, s)) (by decide)
        (failureFate_rebooks now named cause fence) mirrors
    rw [failureFate_drops_none now dropped₁, failureFate_drops_none now dropped₂, append_nil,
      append_nil] at mirrors
    have live : q₃.sortState.live.Perm q₃.live := (perm_sortState q₃ _).append (perm_sortState q₃ _)
    have due : Mirrors ((r₁.part .dead ++ r₂.part .dead).map Nudge.pair ++ []) q₃.sortState.live
        (q₁ .dead) s := by
      refine (mirrors.rebook (live.map Nudge.bare)).owed_perm ?_
      simp only [map_append, append_nil]
      exact perm_append_comm
    have buried := markDeadLetters_buries ids now _ due
    simp only [withState, kept, bind, Except.bind, first, second, pure, Except.pure, Option.getD_some]
    refine buried.dead_subset ?_
    intro d mem
    have here := (perm_sortState q₃ .dead).mem_iff.mp mem
    rw [dead₂] at here
    have here : d ∈ q₂ .dead ++ r₂.part .dead := here
    rw [dead₁] at here
    simp only [mem_append, mem_reverse] at here ⊢
    tauto

theorem terminalize_absent {item : Nudge} {reason : String} {q : NudgeQueue} {s : ShadowStore}
    (mirror : Mirror [] (q, s)) (own : item.beadID = "") (absent : ∀ x ∈ q.live, x.id ≠ item.id) :
    Mirror [] (q, (terminalize (some (front ids)) { item with lastError := reason }
      "failed" reason "" now s).2) := by
  show Mirror [] (q, (s.terminalize { item with lastError := reason } "failed").2)
  rw [ShadowStore.terminalize, if_neg (fun both => both.1 own)]
  split
  next => exact mirror
  next => exact mirror
  next r found =>
    obtain ⟨there, label⟩ := lookup_mem found
    have closed : s.ClosedAt r.beadID := by
      refine ⟨r, there, ?_⟩
      by_contra still
      have opened : s.OpenAt r.beadID item.id := ⟨r, there, by simpa using still, label⟩
      rcases (mirror.opened _ _).mp opened with live | owes
      · obtain ⟨x, mem, pair⟩ := mem_map.mp live
        exact absent x mem (congrArg Prod.snd pair)
      · cases owes
    exact Mirrors.reclose mirror closed _

theorem rollbackVisit_buries {σ : Type} {front : Option (ShadowFront σ)} {id reason : String}
    {x : Nudge} {s s' : σ} {fate : Fate NudgeBucket Nudge}
    (visited : rollbackVisit front now id reason s x = .ok (s', fate)) :
    Buries (fun x => decide (x.id = id)) x fate := by
  rcases rollbackVisit_ok visited with ⟨-, rfl⟩ | ⟨differs, rfl⟩
  · rfl
  · exact decide_eq_false differs

theorem rollback_agrees {item : Nudge} (own : item.beadID = "") (reason : String)
    (start : Mirror [] w) :
    Mirror [] (rollbackQueuedNudge (some (front ids)) now item reason w) := by
  unfold rollbackQueuedNudge
  split
  next => exact start
  next =>
    obtain ⟨r₁, w₁, first, mirror⟩ :=
      pass_live (b := .pending) (by decide) (rollbackVisit_keeps ids now item.id reason)
        (fun _ => false) (Mirror.sorted start)
    obtain ⟨r₂, w₂, second, mirror⟩ :=
      pass_live (b := .inFlight) (by decide) (rollbackVisit_keeps ids now item.id reason)
        (fun _ => false) mirror
    have pending := pass_clears (fun _ => rfl) (fun _ _ _ _ => rollbackVisit_buries now) first
    have claimed := pass_clears (fun _ => rfl) (fun _ _ _ _ => rollbackVisit_buries now) second
    have absent : ∀ x ∈ w₂.1.sortState.live, x.id ≠ item.id := by
      intro x mem
      rcases mem_append.mp mem with mem | mem
      · have here := (perm_sortState w₂.1 .pending).mem_iff.mp mem
        have before := (claimed .pending (by decide) x here).1
        exact of_decide_eq_false ((pending .pending (by decide) x before).2 rfl)
      · have here := (perm_sortState w₂.1 .inFlight).mem_iff.mp mem
        exact of_decide_eq_false ((claimed .inFlight (by decide) x here).2 rfl)
    simp only [withState, bind, Except.bind, first, second, pure, Except.pure]
    split
    next => exact terminalize_absent ids now (Mirror.sorted mirror) own absent
    next => exact Mirror.sorted mirror

end Transactions

/-- The transactions of the shadowed queue. A rollback gets the caller's own copy of the item, which
has no bead. -/
def NudgeOp.Shadowed : NudgeOp → Prop
  | .rollback item _ => item.beadID = ""
  | .withdraw _ => False
  | .withdrawCandidates _ => False
  | _ => True

/-- The item an event enqueues is not in the dead letters, nor is it a second one without an id. -/
def EnqueuesNew {σ : Type} (w : NudgeQueue × σ) (e : NudgeEvent σ) : Prop :=
  match e.op with
  | .enqueue item => item.id ∉ (w.1 .dead).map Nudge.id ∧
      (item.id = "" → item.id ∉ w.1.live.map Nudge.id)
  | _ => True

/-- Every open shadow belongs to a live item, and every live item with a bead has that bead open
and no other. -/
def ShadowsMirror (w : NudgeQueue × ShadowStore) : Prop :=
  (∀ b n, w.2.OpenAt b n → ∃ x ∈ w.1.live, x.id = n) ∧
    ∀ x ∈ w.1.live, x.beadID ≠ "" →
      w.2.OpenAt x.beadID x.id ∧ ∀ b, w.2.OpenAt b x.id → b = x.beadID

theorem Mirror.shadowsMirror {w : NudgeQueue × ShadowStore} (mirror : Mirror [] w) :
    ShadowsMirror w := by
  have owner : ∀ b n, w.2.OpenAt b n → ∃ x ∈ w.1.live, x.pair = (b, n) := by
    intro b n opened
    rcases (mirror.opened b n).mp opened with live | owes
    · exact mem_map.mp live
    · cases owes
  refine ⟨?_, ?_⟩
  · intro b n opened
    obtain ⟨x, mem, pair⟩ := owner b n opened
    exact ⟨x, mem, congrArg Prod.snd pair⟩
  · intro x mem _
    refine ⟨Mirrors.openAt mirror mem, ?_⟩
    intro b opened
    obtain ⟨y, there, pair⟩ := owner b x.id opened
    have one := inj_on_of_nodup_map mirror.distinct there mem (congrArg Prod.snd pair)
    rw [← one]
    exact (congrArg Prod.fst pair).symm

theorem NudgeEvent.apply_agrees (ids : IDSupply) {w : NudgeQueue × ShadowStore}
    {e : NudgeEvent ShadowStore} (store : e.front = some (ShadowStore.front ids))
    (shadowed : e.op.Shadowed) (new : EnqueuesNew w e) (distinct : w.1.ids.Nodup)
    (start : Mirror [] w) : Mirror [] (e.apply w) := by
  obtain ⟨front, now, late, op⟩ := e
  cases store
  cases op with
  | enqueue item => exact enqueue_agrees ids now late start distinct new.1 new.2
  | claim wanted => exact claim_agrees ids now late wanted start
  | list agent => exact list_agrees ids now late agent start
  | sweep => exact sweep_agrees ids now late start
  | release named => exact release_agrees ids now late named start
  | ack named outcome reason boundary =>
    exact ack_agrees ids now late named outcome reason boundary start
  | failure named cause fence => exact failure_agrees ids now late named cause fence start
  | rollback item reason => exact rollback_agrees ids now shadowed reason start
  | withdraw | withdrawCandidates => exact shadowed.elim

theorem agrees_along (ids : IDSupply) {events : List (NudgeEvent ShadowStore)}
    (shadowed : ∀ e ∈ events, e.front = some (front ids) ∧ e.op.Shadowed)
    {w : NudgeQueue × ShadowStore} (new : Along NudgeEvent.apply EnqueuesNew w events)
    (distinct : w.1.ids.Nodup) (start : Mirror [] w) :
    Mirror [] (events.foldl NudgeEvent.apply w) := by
  induction events generalizing w with
  | nil => exact start
  | cons e events ih =>
    obtain ⟨first, rest⟩ := new
    obtain ⟨store, listed⟩ := shadowed e mem_cons_self
    exact ih (fun e' mem => shadowed e' (mem_cons_of_mem e mem)) rest
      (e.apply_conserves w distinct).distinct
      (NudgeEvent.apply_agrees ids store listed first distinct start)

/-- The open shadows mirror the live queue in every run that enqueues no id of a dead letter. -/
theorem shadowsMirror_of_enqueuesNew (ids : IDSupply) (s : ShadowStore)
    (closed : ∀ b n, ¬ s.OpenAt b n) (events : List (NudgeEvent ShadowStore))
    (shadowed : ∀ e ∈ events, e.front = some (front ids) ∧ e.op.Shadowed)
    (new : Along NudgeEvent.apply EnqueuesNew (NudgeQueue.empty, s) events) :
    ShadowsMirror (nudgeRun s events) := by
  have start : Mirror [] (NudgeQueue.empty, s) := by
    refine ⟨nodup_nil, fun x mem => absurd mem not_mem_nil, nodup_nil,
      fun p mem => absurd mem not_mem_nil, fun p mem => absurd mem not_mem_nil, ?_,
      fun d mem => absurd mem not_mem_nil⟩
    intro b n
    refine ⟨fun opened => (closed b n opened).elim, ?_⟩
    rintro (none | none)
    · cases none
    · cases none
  exact (agrees_along ids shadowed new nodup_nil start).shadowsMirror

/-- A nudge that is queued again after its first copy died of a fenced session. -/
def requeuedDead : List (NudgeEvent ShadowStore) :=
  [event 0 (.enqueue { id := "n-1", agent := "mayor" }), event 1 (.claim fun _ => true),
    event 2 (.failure ["n-1"] "fence" true), event 3 (.enqueue { id := "n-1", agent := "mayor" })]
where
  event (now : Int) (op : NudgeOp) : NudgeEvent ShadowStore :=
    { front := some (front .glued), now := now, op := op }

theorem requeuedDead_shadowed :
    ∀ e ∈ requeuedDead, e.front = some (front .glued) ∧ e.op.Shadowed := by
  intro e mem
  simp only [requeuedDead, mem_cons, not_mem_nil, or_false] at mem
  rcases mem with rfl | rfl | rfl | rfl <;> exact ⟨rfl, trivial⟩

/-- The second bead stays open with no live item. -/
theorem requeuedDead_not_shadowsMirror : ¬ ShadowsMirror (nudgeRun .empty requeuedDead) := by
  intro mirrors
  have opened : (nudgeRun .empty requeuedDead).2.OpenAt "ww" "n-1" :=
    ⟨{ beadID := "ww", nudgeID := "n-1" }, by decide +kernel, rfl, rfl⟩
  obtain ⟨x, mem, _⟩ := mirrors.1 _ _ opened
  have none : (nudgeRun .empty requeuedDead).1.live = [] := by decide +kernel
  rw [none] at mem
  cases mem

theorem shadowsMirror_of_enqueuesNew_claimed :
    (nudgeRun .empty (requeuedDead.take 2)).1.live.map (·.id) = ["n-1"] ∧
      ShadowsMirror (nudgeRun .empty (requeuedDead.take 2)) := by
  refine ⟨by decide +kernel, shadowsMirror_of_enqueuesNew .glued .empty ?_ (requeuedDead.take 2) ?_ ?_⟩
  · rintro b n ⟨r, found, _⟩
    cases found
  · exact fun e mem => requeuedDead_shadowed e (mem_of_mem_take mem)
  · refine ⟨⟨?_, ?_⟩, trivial, trivial⟩
    · decide +kernel
    · decide +kernel

end GasCity
