import GasCity.NudgeMirror

namespace GasCity

open List ShadowStore

section Agree

variable (ids : IDSupply) (now : Int) (late : Readings) {owed : List (String × String)}
  {living dead : List Nudge} {s : ShadowStore} {x y : Nudge} {w : NudgeQueue × ShadowStore}

theorem terminalize_owed (mirrors : Mirrors (x.pair :: owed) living dead s)
    (state reason boundary : String) (moment : Int) :
    terminalize (some (front ids)) x state reason boundary moment s =
      (true, s.close x.beadID (some state)) := by
  have here : s.OpenAt x.beadID x.id := (mirrors.opened _ _).mpr (.inr mem_cons_self)
  exact terminalize_of_mem (mirrors.owing _ mem_cons_self) here.mem_keys state

variable (mirrors : Mirrors owed (x :: living) dead s)

include mirrors

theorem Mirrors.rebook_head (same : y.bare = x.bare) : Mirrors owed (y :: living) dead s :=
  mirrors.rebook (by rw [map_cons, map_cons, same])

theorem terminalize_live (same : y.bare = x.bare)
    (state reason boundary : String) (moment : Int) :
    terminalize (some (front ids)) y state reason boundary moment s =
      (true, s.close y.beadID (some state)) :=
  terminalize_owed ids (mirrors.rebook_head same).setAside state reason boundary moment

theorem terminalize_buries (same : y.bare = x.bare)
    (state reason boundary : String) (moment : Int) :
    ∃ s', terminalize (some (front ids)) y state reason boundary moment s = (true, s') ∧
      Mirrors owed living (y :: dead) s' :=
  ⟨_, terminalize_live ids mirrors same state reason boundary moment, mirrors.bury same _⟩

theorem expire_keeps : FateKeeps owed x living dead
      (terminalize (some (front ids)) (x.expire now) "expired" (x.expire now).lastError
        "" now s).2 (.move .dead (x.expire now)) := by
  have same : (x.expire now).bare = x.bare := rfl
  obtain ⟨s', marked, buried⟩ :=
    terminalize_buries ids mirrors same "expired" (x.expire now).lastError "" now
  rw [marked]
  exact buried

omit mirrors

theorem recoverVisit_keeps : VisitKeeps owed (recoverVisit (some (front ids)) now) := by
  intro s x living dead mirrors
  unfold recoverVisit
  split
  next => exact ⟨_, _, rfl, expire_keeps ids now mirrors⟩
  next =>
    split
    next => exact ⟨_, _, rfl, mirrors.rebook_head rfl⟩
    next => exact ⟨_, _, rfl, mirrors⟩

theorem expireVisit_keeps : VisitKeeps owed (expireVisit (some (front ids)) now) := by
  intro s x living dead mirrors
  unfold expireVisit
  split
  next => exact ⟨_, _, rfl, expire_keeps ids now mirrors⟩
  next => exact ⟨_, _, rfl, mirrors⟩

theorem supersedeVisit_keeps (item : Nudge) :
    VisitKeeps owed (supersedeVisit (some (front ids)) now item) := by
  intro s x living dead mirrors
  unfold supersedeVisit
  split
  next =>
    obtain ⟨s', marked, buried⟩ :=
      terminalize_buries ids (y := { x with deadAt := some now, lastError := "superseded" })
        mirrors rfl "superseded" "superseded" "" now
    dsimp only
    rw [marked]
    exact ⟨_, _, rfl, buried⟩
  next => exact ⟨_, _, rfl, mirrors⟩

theorem rollbackVisit_keeps (id reason : String) :
    VisitKeeps owed (rollbackVisit (some (front ids)) now id reason) := by
  intro s x living dead mirrors
  unfold rollbackVisit
  split
  next =>
    obtain ⟨s', marked, buried⟩ :=
      terminalize_buries ids (y := { x with lastError := reason, deadAt := some now })
        mirrors rfl "failed" reason "" now
    dsimp only
    rw [marked]
    exact ⟨_, _, rfl, buried⟩
  next => exact ⟨_, _, rfl, mirrors⟩

theorem repair_keeps (mirrors : Mirrors owed living dead s) (mem : x ∈ dead)
    (shadow : Option String) :
    (repair now (front ids) x shadow s).1 = true ∧
      Mirrors owed living dead (repair now (front ids) x shadow s).2 := by
  obtain ⟨named, closed⟩ := mirrors.shut x mem
  unfold repair
  split
  next => exact ⟨rfl, mirrors⟩
  next =>
    have done : (front ids).terminalize x x.terminalStateForDeadQueuedNudge
        (repairReason x) "" (x.deadAt.getD now) s =
        (true, s.close x.beadID (some x.terminalStateForDeadQueuedNudge)) :=
      terminalize_of_mem named closed.mem_keys _
    rw [done]
    exact ⟨rfl, mirrors.reclose closed _⟩

theorem pruneVisit_keeps (mem : x ∈ dead) (mirrors : Mirrors owed living dead s) :
    ∃ s' fate, pruneVisit (some (front ids)) now s x = .ok (s', fate) ∧
      Mirrors owed living dead s' ∧ (fate = .keep ∨ fate = .drop) := by
  unfold pruneVisit
  split
  next => exact ⟨s, .keep, rfl, mirrors, .inl rfl⟩
  next =>
    cases found : s.lookup x.id true with
    | error e =>
      refine ⟨s, .keep, ?_, mirrors, .inl rfl⟩
      simp only [front, found]
    | ok shadow =>
      have repaired := (repair_keeps ids now mirrors mem (shadow.map Shadow.state)).2
      have looked : (front ids).findIncludingTerminal x.id s =
          (.ok (shadow.map Shadow.state), s) := by
        simp only [front, found]
      dsimp only
      rw [looked]
      dsimp only
      split
      next => exact ⟨_, .drop, rfl, repaired, .inr rfl⟩
      next => exact ⟨_, .keep, rfl, repaired, .inl rfl⟩

variable {q : NudgeQueue} {item : Nudge}

theorem Mirror.sorted (mirror : Mirror owed (q, s)) :
    Mirror owed (q.sortState, s) := by
  have live : q.sortState.live.Perm q.live := (perm_sortState q _).append (perm_sortState q _)
  refine (Mirrors.rebook mirror (live.map Nudge.bare)).dead_subset ?_
  intro d mem
  exact (perm_sortState q .dead).mem_iff.mp mem

theorem maintain_agrees (start : Mirror owed w) :
    ∃ w', maintain (some (front ids)) now late w = .ok w' ∧ Mirror owed w' := by
  obtain ⟨r₁, w₁, recovered, mirror⟩ :=
    pass_live (b := .inFlight) (by decide) (recoverVisit_keeps ids now) late.recover start
  obtain ⟨r₂, w₂, expired, mirror⟩ :=
    pass_live (b := .pending) (by decide) (expireVisit_keeps ids now) late.expire mirror.sorted
  obtain ⟨r₃, w₃, pruned, mirror⟩ :=
    pass_dead (fun _ _ _ _ => pruneVisit_keeps ids now) late.prune mirror.sorted
  refine ⟨w₃, ?_, mirror⟩
  simp only [maintain, recoverExpiredInFlightNudges, pruneExpiredQueuedNudges,
    pruneDeadQueuedNudges, recovered, expired, pruned, bind, Except.bind, pure, Except.pure]

theorem markAll_settles (outcome reason boundary : String) (items : List Nudge)
    (mirrors : Mirrors (items.map Nudge.pair ++ owed) living dead s) :
    ∃ s', markAll (some (front ids)) now outcome reason boundary items s = .ok s' ∧
      Mirrors owed living dead s' := by
  induction items generalizing s with
  | nil => exact ⟨s, rfl, mirrors⟩
  | cons x items ih =>
    obtain ⟨s', marked, kept⟩ := ih (mirrors.settle (some outcome))
    refine ⟨s', ?_, kept⟩
    rw [markAll, terminalize_owed ids mirrors]
    exact marked

theorem markDeadLetters_buries (items : List Nudge)
    (mirrors : Mirrors (items.map Nudge.pair ++ owed) living dead s) :
    Mirrors owed living (items.reverse ++ dead)
      (markDeadLetters (some (front ids)) now items s) := by
  induction items generalizing s dead with
  | nil => exact mirrors
  | cons x items ih =>
    rw [markDeadLetters, terminalize_owed ids mirrors, reverse_cons, append_assoc]
    exact ih (mirrors.buryOwed (some "failed"))

theorem withState_keeps {α : Type}
    {fn : NudgeQueue × ShadowStore → Except ShadowStore (α × NudgeQueue × ShadowStore)}
    (start : Mirror owed w)
    (does : ∀ w, Mirror owed w → ∃ a w', fn w = .ok (a, w') ∧ Mirror owed w') :
    Mirror owed (withState fn w).2 := by
  obtain ⟨a, w', ran, kept⟩ := does (w.1.sortState, w.2) (Mirror.sorted start)
  rw [withState, ran]
  exact kept

theorem supersede_agrees (item : Nudge) (start : Mirror owed w) :
    ∃ w', supersede (some (front ids)) now late item w = .ok w' ∧ Mirror owed w' := by
  unfold supersede
  split
  next =>
    obtain ⟨r₁, w₁, first, mirror⟩ :=
      pass_live (b := .pending) (by decide) (supersedeVisit_keeps ids now item)
        late.supersedePending start
    obtain ⟨r₂, w₂, second, mirror⟩ :=
      pass_live (b := .inFlight) (by decide) (supersedeVisit_keeps ids now item)
        late.supersedeInFlight mirror
    refine ⟨w₂, ?_, mirror⟩
    rw [first]
    simp only [bind, Except.bind, second]
    rfl
  next => exact ⟨w, rfl, start⟩

theorem Mirrors.join (mirrors : Mirrors (x.pair :: owed) living dead s)
    (fresh : x.id ∉ living.map Nudge.id) : Mirrors owed (x :: living) dead s := by
  refine ⟨nodup_cons.mpr ⟨fresh, mirrors.distinct⟩, ?_, (nodup_cons.mp mirrors.due).2,
    fun p mem => mirrors.owing p (mem_cons_of_mem _ mem), ?_, ?_, mirrors.shut⟩
  · intro z mem
    rcases mem_cons.mp mem with rfl | mem
    · exact mirrors.owing _ mem_cons_self
    · exact mirrors.named z mem
  · intro p mem live
    rcases mem_cons.mp live with rfl | live
    · exact (nodup_cons.mp mirrors.due).1 mem
    · exact mirrors.apart p (mem_cons_of_mem _ mem) live
  · exact fun b n => (mirrors.opened b n).trans mem_swap.symm

theorem Mirror.push (mirror : Mirror (item.pair :: owed) (q, s)) (fresh : item.id ∉ q.ids) :
    Mirror owed ((q.push item).sortState, s) := by
  have joined : Mirrors owed (item :: q.live) (q .dead) s := by
    refine Mirrors.join mirror ?_
    intro mem
    refine fresh ?_
    rw [NudgeQueue.ids, NudgeQueue.all, map_append]
    exact mem_append_left _ mem
  refine (joined.rebook ((perm_live_push q item).map Nudge.bare)).dead_subset ?_
  intro d mem
  exact (perm_sortState (q.push item) .dead).mem_iff.mp mem

theorem enqueueTransaction_joins (item : Nudge) (start : Mirror (item.pair :: owed) w)
    (fresh : item.id ∉ w.1.ids) :
    ∃ a w', enqueueTransaction (some (front ids)) now late item w = .ok (a, w') ∧
      Mirror owed w' := by
  obtain ⟨w₁, kept, mirror⟩ := maintain_agrees ids now late start
  have shifts : Shifts now (fun _ => False) w.1 w₁.1 := maintain_shifts kept
  have absent : w₁.1.queuedNudgeExists item.id = false := by
    refine Bool.eq_false_iff.mpr fun found => fresh (shifts.ids ?_)
    exact (queuedNudgeExists_iff _ _).mp found
  obtain ⟨w₂, superseded, mirror⟩ := supersede_agrees ids now late item mirror
  have moved : Shifts now (fun _ => False) w₁.1 w₂.1 := supersede_shifts superseded
  refine ⟨(), ((w₂.1.push item).sortState, w₂.2), ?_, ?_⟩
  · simp only [enqueueTransaction, kept, absent, superseded, bind, Except.bind, pure, Except.pure]
    rfl
  · exact Mirror.push mirror fun mem => fresh (shifts.ids (moved.ids mem))

theorem enqueueTransaction_skips (item : Nudge) (start : Mirror owed w)
    (there : ∀ q, Shifts now (fun _ => False) w.1 q → item.id ∈ q.ids) :
    ∃ a w', enqueueTransaction (some (front ids)) now late item w = .ok (a, w') ∧
      Mirror owed w' := by
  obtain ⟨w₁, kept, mirror⟩ := maintain_agrees ids now late start
  have found := (queuedNudgeExists_iff _ _).mpr (there w₁.1 (maintain_shifts kept))
  refine ⟨(), w₁, ?_, mirror⟩
  simp only [enqueueTransaction, kept, found, bind, Except.bind, pure, Except.pure]
  rfl

theorem save_agrees (start : Mirror [] w) (unnamed : item.id = "" → item.id ∉ w.1.live.map Nudge.id) :
    (∃ beadID, ensureQueuedNudgeBead (some (front ids)) item w.2 =
        .ok ((beadID, false), w.2) ∧ item.id ∈ w.1.live.map Nudge.id) ∨
      ∃ beadID s, ensureQueuedNudgeBead (some (front ids)) item w.2 =
        .ok ((beadID, true), s) ∧ beadID ≠ "" ∧ Mirror [(beadID, item.id)] (w.1, s) ∧
        item.id ∉ w.1.live.map Nudge.id := by
  have made : w.2.lookup item.id false = .ok none → item.id ∉ w.1.live.map Nudge.id →
      ∃ beadID s, ensureQueuedNudgeBead (some (front ids)) item w.2 =
        .ok ((beadID, true), s) ∧ beadID ≠ "" ∧ Mirror [(beadID, item.id)] (w.1, s) ∧
        item.id ∉ w.1.live.map Nudge.id := by
    intro missed absent
    refine ⟨w.2.freshBead ids, w.2.create ids item.id, ?_, w.2.freshBead_ne ids, ?_, absent⟩
    · simp only [ensureQueuedNudgeBead, front, save, missed]
    · refine ⟨start.distinct, start.named, nodup_singleton _, ?_, ?_, ?_, ?_⟩
      · intro p mem
        rw [mem_singleton.mp mem]
        exact w.2.freshBead_ne ids
      · intro p mem live
        rw [mem_singleton.mp mem] at live
        obtain ⟨z, there, pair⟩ := mem_map.mp live
        exact absent (mem_map.mpr ⟨z, there, congrArg Prod.snd pair⟩)
      · intro b n
        rw [openAt_create, start.opened b n, mem_singleton, Prod.mk.injEq]
        simp only [not_mem_nil, or_false]
      · intro d mem
        exact ⟨(start.shut d mem).1, (start.shut d mem).2.create ids item.id⟩
  by_cases named : item.id = ""
  · refine .inr (made ?_ (unnamed named))
    rw [ShadowStore.lookup, if_pos named]
  · rcases w.2.lookup_open named with ⟨r, found, opened⟩ | ⟨missed, none⟩
    · refine .inl ⟨r.beadID, ?_, ?_⟩
      · simp only [ensureQueuedNudgeBead, front, save, found]
      · rcases (start.opened _ _).mp opened with live | owes
        · obtain ⟨z, there, pair⟩ := mem_map.mp live
          exact mem_map.mpr ⟨z, there, congrArg Prod.snd pair⟩
        · cases owes
    · refine .inr (made missed ?_)
      intro mem
      obtain ⟨z, there, same⟩ := mem_map.mp mem
      exact none z.beadID (same ▸ Mirrors.openAt start there)

theorem Shifts.keeps_live {q' : NudgeQueue} (shifts : Shifts now (fun _ => False) q q')
    (distinct : q.ids.Nodup) {id : String} (mem : id ∈ q.live.map Nudge.id) : id ∈ q'.ids := by
  have split : q.ids = q.live.map Nudge.id ++ (q .dead).map Nudge.id := by
    rw [NudgeQueue.ids, NudgeQueue.all, map_append]
  by_contra gone
  have here : id ∈ q.ids := by
    rw [split]
    exact mem_append_left _ mem
  rcases shifts.leaves here gone with ⟨_, _, none⟩ | ⟨x, dead, rfl, _⟩
  · exact none
  · rw [split] at distinct
    exact (nodup_append.mp distinct).2.2 _ mem _ (mem_map.mpr ⟨x, dead, rfl⟩) rfl

theorem enqueue_agrees (start : Mirror [] w) (distinct : w.1.ids.Nodup)
    (notDead : item.id ∉ (w.1 .dead).map Nudge.id)
    (unnamed : item.id = "" → item.id ∉ w.1.live.map Nudge.id) :
    Mirror [] (enqueueQueuedNudge (some (front ids)) now late item w) := by
  have sorted : Shifts now (fun _ => False) w.1 w.1.sortState := Shifts.of_perm (perm_sortState w.1)
  unfold enqueueQueuedNudge
  rcases save_agrees ids start unnamed with ⟨b, saved, live⟩ | ⟨b, s, saved, named, mirror, absent⟩
  · obtain ⟨a, w', ran, kept⟩ := enqueueTransaction_skips ids now late (withBead item b)
      (Mirror.sorted start) (by
        intro q shifts
        rw [withBead_id]
        exact (sorted.trans shifts).keeps_live now distinct live)
    rw [saved]
    simp only [withState, ran]
    exact kept
  · have pair : (withBead item b).pair = (b, item.id) := by
      rw [Nudge.pair, withBead_id, withBead, if_neg named]
    have fresh : item.id ∉ w.1.ids := by
      rw [NudgeQueue.ids, NudgeQueue.all, map_append]
      exact fun mem => (mem_append.mp mem).elim absent notDead
    obtain ⟨a, w', ran, kept⟩ := enqueueTransaction_joins ids now late (withBead item b)
      (show Mirror ((withBead item b).pair :: []) _ from pair ▸ Mirror.sorted mirror) (by
        rw [withBead_id]
        exact fun mem => fresh (sorted.ids mem))
    rw [saved]
    simp only [withState, ran]
    exact kept

end Agree

end GasCity
