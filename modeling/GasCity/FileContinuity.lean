import GasCity.FileTokens

namespace GasCity

open KeyedList Option

theorem MemStore.saves_of_transfers {m : MemStore} {id : String} {op : MemOp}
    (moves : m.transfers id op = true) : m.saves op = true := by
  have there : ∀ {i : String} {p : Bead → Bool}, (i == id && (m.beads.find id).any p) = true →
      ∃ b, m.beads.find i = some b := by
    intro i p both
    obtain ⟨own, any⟩ := (Bool.and_eq_true _ _).mp both
    obtain rfl := beq_iff_eq.mp own
    cases found : m.beads.find i with
    | none => simp [found] at any
    | some b => exact ⟨b, rfl⟩
  cases op with
  | update i opts now =>
    obtain ⟨b, found⟩ := there moves
    show (m.Update i opts now).1.isOk = true
    unfold Update
    rw [found]
    rfl
  | updateIfMatch | updateIfReadyAndMatch | releaseIfCurrent =>
    exact ((Bool.and_eq_true _ _).mp moves).2
  | reopen i now =>
    obtain ⟨b, found⟩ := there moves
    show (m.Reopen i now).1.isOk = true
    unfold Reopen
    rw [found]
    dsimp only
    split <;> rfl
  | _ => cases moves

namespace FileStore

theorem find_reload_write (s : FileStore) (op : MemOp) :
    (∀ id, (s.write op).reloadFromDisk.beads.find id =
      (s.reloadFromDisk.step op).beads.find id) ∨
    (s.reloadFromDisk.saves op = false ∧ ∀ id,
      (s.write op).reloadFromDisk.beads.find id = s.reloadFromDisk.beads.find id) := by
  cases saved : s.reloadFromDisk.saves op with
  | true =>
    refine .inl (fun id => find_reload_save ?_ id)
    show (if s.reloadFromDisk.saves op then some (save (s.reloadFromDisk.step op)) else s.file) = _
    rw [saved]
    rfl
  | false =>
    have file : (s.write op).file = s.file := by
      show (if s.reloadFromDisk.saves op then some (save (s.reloadFromDisk.step op)) else s.file) = _
      rw [saved]
      rfl
    cases there : s.file with
    | none =>
      refine .inl (fun id => ?_)
      have unread : (s.write op).reloadFromDisk = s.reloadFromDisk.step op := by
        rw [reloadFromDisk, file, there]
        rfl
      rw [unread]
    | some fd =>
      refine .inr ⟨rfl, fun id => ?_⟩
      have old : s.reloadFromDisk.beads =
          applyBeadFences (applyBeadRevisionsSealed fd) fd.fences := by
        rw [reloadFromDisk, there]
        rfl
      have new : (s.write op).reloadFromDisk.beads =
          applyBeadFences (applyBeadRevisionsSealed fd) fd.fences := by
        rw [reloadFromDisk, file, there]
        rfl
      rw [old, new]

end FileStore

namespace FileHistory

variable {s : FileHistory}

def Counted (s : FileHistory) : Prop :=
  ∀ id b, s.observed.beads.find id = some b → b.claimFence.toInt = s.generation id

variable {b b' : Bead} {id : String}

theorem generation_sealed (found : s.observed.beads.find id = some b) (op : MemOp) :
    (s.next (.sealed op)).generation id =
      s.generation id + if s.observed.transfers id op then 1 else 0 := by
  unfold next advance
  dsimp only
  rw [found]
  rfl

theorem generation_legacy (found : s.observed.beads.find id = some b) (ops : List LegacyOp) :
    (s.next (.legacy ops)).generation id =
      s.generation id + LegacyOp.handovers id s.store.legacyLoad ops := by
  unfold next advance
  dsimp only
  rw [found]
  rfl

theorem generation_of_absent (absent : s.observed.beads.find id = none) (e : FileEvent) :
    (s.next e).generation id = 0 := by
  cases e with
  | sealed | legacy =>
    unfold next advance
    dsimp only
    rw [absent]
    rfl

theorem counted_sealed (counted : s.Counted) {op : MemOp}
    (continues : FileEvent.Continues s (.sealed op)) : (s.next (.sealed op)).Counted := by
  intro id b' found
  rcases s.store.find_reload_write op with seen | ⟨unsaved, unseen⟩
  · have stepped := (seen id).symm.trans found
    rcases s.observed.step_fences op id b' stepped with ⟨absent, bare⟩ | ⟨b, old, moved⟩
    · rw [generation_of_absent absent, bare]
      rfl
    · have count := counted id b old
      have room := (continues b (mem_of_find old)).2
      rw [generation_sealed old, moved]
      split
      next =>
        rw [toInt_add_one room, count]
        push_cast
        omega
      next =>
        rw [count]
        push_cast
        omega
  · have old := (unseen id).symm.trans found
    have still : s.observed.transfers id op = false := by
      by_contra moves
      have saved := MemStore.saves_of_transfers (Bool.not_eq_false _ ▸ moves)
      exact absurd (saved.symm.trans unsaved) (by simp)
    rw [generation_sealed old, still]
    exact counted id b' old

theorem counted_legacy (counted : s.Counted) {ops : List LegacyOp}
    (continues : FileEvent.Continues s (.legacy ops)) : (s.next (.legacy ops)).Counted := by
  intro id b' found
  have rewritten := (s.store.find_reload_rewrite ops id).symm.trans found
  obtain ⟨row, kept, rfl⟩ := map_eq_some_iff.mp rewritten
  cases old : s.observed.beads.find id with
  | none =>
    rw [generation_of_absent old]
    rfl
  | some b =>
    obtain ⟨bare, still, -⟩ := continues id b old (by rw [kept]; rfl)
    have count := counted id b old
    rw [bare] at count
    rw [generation_legacy old, still]
    exact count

theorem revision_sealed {op : MemOp} (continues : FileEvent.Continues s (.sealed op))
    (old : s.observed.beads.find id = some b)
    (found : (s.next (.sealed op)).observed.beads.find id = some b') : b.revision ≤ b'.revision := by
  rcases s.store.find_reload_write op with seen | ⟨-, unseen⟩
  · have stepped := (seen id).symm.trans found
    rcases s.observed.step_advances op id b old with gone | stands | ⟨b₁, bumped, next⟩
    · exact absurd (gone.symm.trans stepped) (by simp)
    · obtain rfl := some.inj (stands.symm.trans stepped)
      exact Int64.le_refl _
    · obtain rfl := some.inj (bumped.symm.trans stepped)
      have room := (continues b (mem_of_find old)).1
      have count := toInt_add_one room
      rw [next, Int64.le_iff_toInt_le]
      omega
  · obtain rfl := some.inj (old.symm.trans ((unseen id).symm.trans found))
    exact Int64.le_refl _

theorem revision_legacy {ops : List LegacyOp} (continues : FileEvent.Continues s (.legacy ops))
    (old : s.observed.beads.find id = some b)
    (found : (s.next (.legacy ops)).observed.beads.find id = some b') :
    b.revision ≤ b'.revision := by
  have rewritten := (s.store.find_reload_rewrite ops id).symm.trans found
  obtain ⟨row, kept, rfl⟩ := map_eq_some_iff.mp rewritten
  obtain ⟨-, -, low | ⟨stamped, left, from_⟩⟩ := continues id b old (by rw [kept]; rfl)
  · exact Int64.le_trans low (floor_le_continuitySeed _)
  · have onFile : onDisk stamped ∈ (onDiskRows (s.store.legacyRows ops).beads).rows :=
      List.mem_map_of_mem left
    exact stampedFrom.le_continuitySeed (b := onDisk stamped) onFile from_

theorem counted_next {e : FileEvent} (counted : s.Counted) (continues : FileEvent.Continues s e) :
    (s.next e).Counted := by
  cases e with
  | sealed op => exact counted_sealed counted continues
  | legacy ops => exact counted_legacy counted continues

theorem revision_next {e : FileEvent} (continues : FileEvent.Continues s e)
    (old : s.observed.beads.find id = some b) (found : (s.next e).observed.beads.find id = some b') :
    b.revision ≤ b'.revision := by
  cases e with
  | sealed op => exact revision_sealed continues old found
  | legacy ops => exact revision_legacy continues old found

theorem revision_run {events : List FileEvent} (along : Along next FileEvent.Continues s events)
    (old : s.observed.beads.find id = some b) (found : (s.run events).observed.beads.find id = some b')
    (present : s.Present id events) :
    b.revision ≤ b'.revision := by
  induction events generalizing s b with
  | nil =>
    obtain rfl := some.inj (old.symm.trans found)
    exact Int64.le_refl _
  | cons e events ih =>
    obtain ⟨first, rest⟩ := along
    obtain ⟨here, later⟩ := present
    obtain ⟨b₁, middle⟩ := isSome_iff_exists.mp here
    have step := revision_next first old middle
    exact Int64.le_trans step (ih rest middle found later)

end FileHistory

/-- Along a history whose events all continue the counters, the revision of a bead that stays never
falls and its fence is never seen in two ownership generations. -/
theorem tokens_advance_while_continued (idPrefix : String) (before after : List FileEvent)
    (along : Along FileHistory.next FileEvent.Continues (FileHistory.opened idPrefix)
      (before ++ after)) :
    ((FileHistory.opened idPrefix).run before).TokensAdvance after := by
  obtain ⟨first, rest⟩ := along.append
  have start : (FileHistory.opened idPrefix).Counted := by
    intro id b found
    cases found
  have keeps : ∀ s e, FileHistory.Counted s → FileEvent.Continues s e → (s.next e).Counted :=
    fun _ _ => FileHistory.counted_next
  have counted : ((FileHistory.opened idPrefix).run before).Counted :=
    Along.invariant keeps first start
  have countedAfter := Along.invariant keeps rest counted
  intro id b b' old found present
  refine ⟨FileHistory.revision_run rest old found present, ?_⟩
  intro same
  have count := counted id b old
  have count' : b'.claimFence.toInt = _ := countedAfter id b' found
  rw [same, count] at count'
  exact (Int.ofNat_inj.mp count').symm

def unixEpoch : Time := 62135596800000000000

def drafted : List FileEvent := [.sealed (.create { title := "draft" } (unixEpoch + 2000000000000))]

def retitled : List FileEvent :=
  [.legacy [.update "gc-1" { title := some "final" } (unixEpoch + 3000000000000)]]

theorem retitled_continues : Along FileHistory.next FileEvent.Continues (FileHistory.opened "")
    (drafted ++ retitled) := by
  refine ⟨fun b mem => absurd mem List.not_mem_nil, ?_, trivial⟩
  intro id b old _
  have mem := mem_of_find old
  have own := key_of_find old
  have only : ∀ row ∈ ((FileHistory.opened "").run drafted).observed.beads.rows,
      row.id = "gc-1" ∧ row.claimFence = 0 ∧ row.revision ≤ revisionContinuityFloor := by
    decide +kernel
  obtain ⟨named, bare, low⟩ := only b mem
  have named : id = "gc-1" := own.symm.trans named
  subst named
  exact ⟨bare, by decide +kernel, .inl low⟩

theorem retitled_advances :
    (((FileHistory.opened "").run drafted).observed.beads.find "gc-1").isSome ∧
      ((FileHistory.opened "").run drafted).TokensAdvance retitled :=
  ⟨by decide +kernel, tokens_advance_while_continued "" drafted retitled retitled_continues⟩

def reseeds : List FileEvent :=
  [.sealed (.create { title := "kept" } (unixEpoch + 2000000000000)),
    .sealed (.create { title := "newer" } (unixEpoch + 3000000000000)), .legacy []]

def claims : List FileEvent :=
  [.sealed (.create { title := "work" } (unixEpoch + 2000000000000)),
    .sealed (.update "gc-1" { assignee := some "ada" } (unixEpoch + 3000000000000))]

def claimedAnew : List FileEvent :=
  [.legacy [], .sealed (.update "gc-1" { assignee := some "bob" } (unixEpoch + 4000000000000))]

theorem tokens_are_issued_again :
    (∃ before after : List FileEvent,
      ((before ++ after).flatMap FileEvent.stamps).Pairwise (· < ·) ∧
      ((FileHistory.opened "").run before).Present "gc-1" after ∧
      ∃ b b', ((FileHistory.opened "").run before).observed.beads.find "gc-1" = some b ∧
        (((FileHistory.opened "").run before).run after).observed.beads.find "gc-1" = some b' ∧
        b'.revision < b.revision) ∧
    ∃ before after : List FileEvent,
      ((before ++ after).flatMap FileEvent.stamps).Pairwise (· < ·) ∧
      ((FileHistory.opened "").run before).Present "gc-1" after ∧
      ∃ b b', ((FileHistory.opened "").run before).observed.beads.find "gc-1" = some b ∧
        (((FileHistory.opened "").run before).run after).observed.beads.find "gc-1" = some b' ∧
        b'.claimFence = b.claimFence ∧
        ((FileHistory.opened "").run before).generation "gc-1" <
          (((FileHistory.opened "").run before).run after).generation "gc-1" := by
  refine ⟨⟨reseeds, [.legacy [.delete "gc-2"]], by decide +kernel, ⟨by decide +kernel, trivial⟩, ?_⟩,
    ⟨claims, claimedAnew, by decide +kernel, ⟨by decide +kernel, by decide +kernel, trivial⟩, ?_⟩⟩
  · have high : (((FileHistory.opened "").run reseeds).observed.beads.find "gc-1").map
        Bead.revision = some 3000000000000 := by decide +kernel
    have low : ((((FileHistory.opened "").run reseeds).run [.legacy [.delete "gc-2"]]).observed.beads
        |>.find "gc-1").map Bead.revision = some 2000000000000 := by decide +kernel
    obtain ⟨b, found, revision⟩ := map_eq_some_iff.mp high
    obtain ⟨b', found', revision'⟩ := map_eq_some_iff.mp low
    refine ⟨b, b', found, found', ?_⟩
    rw [revision, revision']
    decide
  · have first : (((FileHistory.opened "").run claims).observed.beads.find "gc-1").map
        Bead.claimFence = some 1 := by decide +kernel
    have again : ((((FileHistory.opened "").run claims).run claimedAnew).observed.beads
        |>.find "gc-1").map Bead.claimFence = some 1 := by decide +kernel
    obtain ⟨b, found, fence⟩ := map_eq_some_iff.mp first
    obtain ⟨b', found', fence'⟩ := map_eq_some_iff.mp again
    exact ⟨b, b', found, found', fence'.trans fence.symm, by decide +kernel⟩

end GasCity
