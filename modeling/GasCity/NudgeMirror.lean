import GasCity.NudgeRuns
import GasCity.NudgeShadow

namespace GasCity

open List NudgeQueue Nudge

def Nudge.pair (item : Nudge) : String × String := (item.beadID, item.id)

/-- The open beads are those of the live items and those still owed a close or an item; the beads
of the dead items are closed. -/
structure Mirrors (owed : List (String × String)) (living dead : List Nudge) (s : ShadowStore) :
    Prop where
  distinct : (living.map Nudge.id).Nodup
  named : ∀ x ∈ living, x.beadID ≠ ""
  due : owed.Nodup
  owing : ∀ p ∈ owed, p.1 ≠ ""
  apart : ∀ p ∈ owed, p ∉ living.map pair
  opened : ∀ b n, s.OpenAt b n ↔ (b, n) ∈ living.map pair ∨ (b, n) ∈ owed
  shut : ∀ d ∈ dead, d.beadID ≠ "" ∧ s.ClosedAt d.beadID

namespace Mirrors

variable {owed owed' : List (String × String)} {living living' dead dead' : List Nudge}
  {s : ShadowStore} {x y : Nudge}

theorem openAt (mirrors : Mirrors owed living dead s) (mem : x ∈ living) :
    s.OpenAt x.beadID x.id :=
  (mirrors.opened _ _).mpr (.inl (mem_map.mpr ⟨x, mem, rfl⟩))

theorem rebook (mirrors : Mirrors owed living dead s)
    (same : (living'.map Nudge.bare).Perm (living.map Nudge.bare)) :
    Mirrors owed living' dead s := by
  have ids : (living'.map Nudge.id).Perm (living.map Nudge.id) := by
    have perm := same.map Nudge.id
    rw [map_map, map_map] at perm
    exact perm
  have pairs : (living'.map pair).Perm (living.map pair) := by
    have perm := same.map pair
    rw [map_map, map_map] at perm
    exact perm
  refine ⟨ids.nodup_iff.mpr mirrors.distinct, ?_, mirrors.due, mirrors.owing, ?_, ?_, mirrors.shut⟩
  · intro x mem
    obtain ⟨y, there, content⟩ := mem_map.mp
      (same.mem_iff.mp (mem_map.mpr ⟨x, mem, rfl⟩))
    rw [← beadID_of_bare content]
    exact mirrors.named y there
  · intro p mem
    rw [pairs.mem_iff]
    exact mirrors.apart p mem
  · intro b n
    rw [pairs.mem_iff]
    exact mirrors.opened b n

theorem dead_subset (mirrors : Mirrors owed living dead s) (fewer : ∀ d ∈ dead', d ∈ dead) :
    Mirrors owed living dead' s :=
  { mirrors with shut := fun d mem => mirrors.shut d (fewer d mem) }

theorem mem_swap {p : String × String} :
    p ∈ (x :: living).map pair ∨ p ∈ owed ↔
      p ∈ living.map pair ∨ p ∈ x.pair :: owed := by
  rw [map_cons, mem_cons, mem_cons, or_assoc, or_left_comm]

theorem setAside (mirrors : Mirrors owed (x :: living) dead s) :
    Mirrors (x.pair :: owed) living dead s := by
  have own : x.pair ∉ living.map pair := by
    intro mem
    obtain ⟨z, there, pair⟩ := mem_map.mp mem
    have id : z.id = x.id := congrArg Prod.snd pair
    exact (nodup_cons.mp mirrors.distinct).1 (mem_map.mpr ⟨z, there, id⟩)
  refine ⟨(nodup_cons.mp mirrors.distinct).2,
    fun z mem => mirrors.named z (mem_cons_of_mem x mem), ?_, ?_, ?_, ?_, mirrors.shut⟩
  · exact nodup_cons.mpr ⟨fun mem => mirrors.apart _ mem mem_cons_self, mirrors.due⟩
  · intro p mem
    rcases mem_cons.mp mem with rfl | mem
    · exact mirrors.named x mem_cons_self
    · exact mirrors.owing p mem
  · intro p mem
    rcases mem_cons.mp mem with rfl | mem
    · exact own
    · exact fun live => mirrors.apart p mem (mem_cons_of_mem _ live)
  · exact fun b n => (mirrors.opened b n).trans mem_swap

theorem setAsideAll (items : List Nudge) (mirrors : Mirrors owed (living ++ items) dead s) :
    Mirrors (items.map pair ++ owed) living dead s := by
  induction items generalizing living with
  | nil =>
    rw [append_nil] at mirrors
    exact mirrors
  | cons x items ih =>
    have front : ((x :: living ++ items).map bare).Perm
        ((living ++ x :: items).map bare) := perm_middle.symm.map bare
    exact (ih (mirrors.rebook front)).setAside

theorem settle {b n : String} (mirrors : Mirrors ((b, n) :: owed) living dead s)
    (state : Option String) : Mirrors owed living dead (s.close b state) := by
  have here : s.OpenAt b n := (mirrors.opened b n).mpr (.inr mem_cons_self)
  refine ⟨mirrors.distinct, mirrors.named, (nodup_cons.mp mirrors.due).2,
    fun p mem => mirrors.owing p (mem_cons_of_mem _ mem),
    fun p mem => mirrors.apart p (mem_cons_of_mem _ mem), ?_, ?_⟩
  · intro b' n'
    rw [ShadowStore.openAt_close, mirrors.opened b' n', mem_cons]
    constructor
    · rintro ⟨other, live | same | owes⟩
      · exact .inl live
      · exact absurd (congrArg Prod.fst same) other
      · exact .inr owes
    · intro either
      have still : s.OpenAt b' n' := (mirrors.opened b' n').mpr
        (either.imp_right (mem_cons_of_mem _))
      refine ⟨?_, either.imp_right .inr⟩
      rintro rfl
      cases still.nudge here
      rcases either with live | owes
      · exact mirrors.apart _ mem_cons_self live
      · exact (nodup_cons.mp mirrors.due).1 owes
  · intro d mem
    exact ⟨(mirrors.shut d mem).1, (mirrors.shut d mem).2.close b state⟩

theorem owed_perm (mirrors : Mirrors owed living dead s) (same : owed'.Perm owed) :
    Mirrors owed' living dead s where
  distinct := mirrors.distinct
  named := mirrors.named
  due := same.nodup_iff.mpr mirrors.due
  owing := fun p mem => mirrors.owing p (same.mem_iff.mp mem)
  apart := fun p mem => mirrors.apart p (same.mem_iff.mp mem)
  opened := fun b n => by rw [mirrors.opened b n, same.mem_iff]
  shut := mirrors.shut

theorem reclose (mirrors : Mirrors owed living dead s) {b : String} (closed : s.ClosedAt b)
    (state : Option String) : Mirrors owed living dead (s.close b state) := by
  refine { mirrors with opened := ?_, shut := ?_ }
  · intro b' n
    rw [ShadowStore.openAt_close, ← mirrors.opened b' n]
    constructor
    · exact fun either => either.2
    · intro still
      refine ⟨?_, still⟩
      rintro rfl
      exact still.not_closed closed
  · intro d there
    exact ⟨(mirrors.shut d there).1, (mirrors.shut d there).2.close _ state⟩

theorem buryOwed (mirrors : Mirrors (x.pair :: owed) living dead s) (state : Option String) :
    Mirrors owed living (x :: dead) (s.close x.beadID state) := by
  have here : s.OpenAt x.beadID x.id := (mirrors.opened _ _).mpr (.inr mem_cons_self)
  have settled := mirrors.settle state
  refine { settled with shut := ?_ }
  intro d mem
  rcases mem_cons.mp mem with rfl | mem
  · exact ⟨mirrors.owing _ mem_cons_self, ShadowStore.closedAt_close here state⟩
  · exact settled.shut d mem

theorem bury (mirrors : Mirrors owed (x :: living) dead s) (same : y.bare = x.bare)
    (state : Option String) : Mirrors owed living (y :: dead) (s.close y.beadID state) := by
  have booked : Mirrors owed (y :: living) dead s := mirrors.rebook (by
    rw [map_cons, map_cons, same])
  exact booked.setAside.buryOwed state

end Mirrors

/-- The queue and the shadow store agree, apart from the beads that are owed. -/
def Mirror (owed : List (String × String)) (w : NudgeQueue × ShadowStore) : Prop :=
  Mirrors owed w.1.live (w.1 .dead) w.2

section Loops

variable {owed : List (String × String)} {q : NudgeQueue} {b : NudgeBucket}
  {r : Spread NudgeBucket Nudge} {x y : Nudge} {xs : List Nudge}

/-- What a visit leaves of the agreement, with its item put where the fate says. -/
def FateKeeps (owed : List (String × String)) (x : Nudge) (living dead : List Nudge)
    (s : ShadowStore) : Fate NudgeBucket Nudge → Prop
  | .keep => Mirrors owed (x :: living) dead s
  | .move .dead y => Mirrors owed living (y :: dead) s
  | .move _ y => Mirrors owed (y :: living) dead s
  | .drop => Mirrors owed living dead s

theorem live_stop_cons (alive : b ≠ .dead) :
    (q.settle b (r.stop (x :: xs))).live.Perm (x :: (q.settle b (r.stop xs)).live) := by
  refine perm_iff_count.mpr fun c => ?_
  cases b with
  | dead => exact absurd rfl alive
  | pending | inFlight =>
    simp only [live, NudgeQueue.settle, Spread.part_stop, Spread.kept_stop, reduceCtorEq,
      if_true, if_false, count_append, count_cons]
    omega

theorem dead_stop (alive : b ≠ .dead) (xs ys : List Nudge) :
    q.settle b (r.stop xs) .dead = q.settle b (r.stop ys) .dead := by
  simp only [NudgeQueue.settle, if_neg (Ne.symm alive)]
  rfl

theorem live_put_dead : (q.settle b ((r.put x (.move .dead y)).stop xs)).live =
    (q.settle b (r.stop xs)).live := by
  have parts : ∀ i, i ≠ NudgeBucket.dead →
      ((r.put x (.move .dead y)).stop xs).part i = (r.stop xs).part i := by
    intro i living
    have moved := Spread.part_put_move r x y .dead i
    rw [if_neg (Ne.symm living), append_nil] at moved
    exact moved
  simp only [live, NudgeQueue.settle, parts .pending (by decide),
    parts .inFlight (by decide)]
  rfl

theorem dead_put_dead : (q.settle b ((r.put x (.move .dead y)).stop xs) .dead).Perm
    (y :: q.settle b (r.stop xs) .dead) := by
  have moved : ((r.put x (.move .dead y)).stop xs).part .dead = (r.stop xs).part .dead ++ [y] :=
    Spread.part_put_move r x y .dead .dead
  simp only [NudgeQueue.settle, moved]
  refine List.Perm.trans ?_ (perm_append_singleton y _)
  rw [append_assoc]
  exact List.Perm.refl _

theorem live_put_live {dest : NudgeBucket} (alive : dest ≠ .dead) :
    (q.settle b ((r.put x (.move dest y)).stop xs)).live.Perm
      (y :: (q.settle b (r.stop xs)).live) := by
  have moved : ∀ i, ((r.put x (.move dest y)).stop xs).part i =
      (r.stop xs).part i ++ if dest = i then [y] else [] := Spread.part_put_move r x y dest
  have stays : ((r.put x (.move dest y)).stop xs).kept = (r.stop xs).kept := rfl
  refine perm_iff_count.mpr fun c => ?_
  simp only [live, NudgeQueue.settle, moved, stays, count_append, count_cons]
  cases dest with
  | dead => exact absurd rfl alive
  | pending | inFlight =>
    simp only [if_true, reduceCtorEq, if_false, count_cons, count_nil]
    omega

theorem dead_put_live {dest : NudgeBucket} (alive : dest ≠ .dead) :
    q.settle b ((r.put x (.move dest y)).stop xs) .dead = q.settle b (r.stop xs) .dead := by
  have moved : ((r.put x (.move dest y)).stop xs).part .dead = (r.stop xs).part .dead := by
    have moved := Spread.part_put_move r x y dest .dead
    rw [if_neg alive, append_nil] at moved
    exact moved
  simp only [NudgeQueue.settle, moved]
  rfl

theorem settle_start (q : NudgeQueue) (b : NudgeBucket) :
    q.settle b (({} : Spread NudgeBucket Nudge).stop (q b)) = q := by
  funext i
  by_cases here : i = b
  · subst here
    simp [NudgeQueue.settle, Spread.stop, Spread.part]
  · simp [NudgeQueue.settle, Spread.stop, Spread.part, here]

theorem Mirror.take {s : ShadowStore} (alive : b ≠ .dead)
    (mirror : Mirror owed (q.settle b (r.stop (x :: xs)), s)) :
    Mirrors owed (x :: (q.settle b (r.stop xs)).live) (q.settle b (r.stop xs) .dead) s := by
  refine (Mirrors.rebook mirror ((live_stop_cons alive).symm.map bare)).dead_subset ?_
  intro d mem
  rw [dead_stop alive xs (x :: xs)] at mem
  exact mem

variable {fate : Fate NudgeBucket Nudge}
  {visit : ShadowStore → Nudge → Except ShadowStore (ShadowStore × Fate NudgeBucket Nudge)}
  {w : NudgeQueue × ShadowStore}

theorem Mirror.put {s : ShadowStore} (alive : b ≠ .dead)
    (keeps : FateKeeps owed x (q.settle b (r.stop xs)).live (q.settle b (r.stop xs) .dead) s fate) :
    Mirror owed (q.settle b ((r.put x fate).stop xs), s) := by
  cases fate with
  | keep =>
    have same : (r.put x (.keep : Fate NudgeBucket Nudge)).stop xs = r.stop (x :: xs) := by
      simp [Spread.put, Spread.stop]
    rw [same]
    refine (Mirrors.rebook keeps ((live_stop_cons alive).map bare)).dead_subset ?_
    intro d mem
    rw [← dead_stop alive (x :: xs) xs]
    exact mem
  | move dest y =>
    by_cases dying : dest = .dead
    · subst dying
      have buried : Mirrors owed (q.settle b (r.stop xs)).live (y :: q.settle b (r.stop xs) .dead) s :=
        keeps
      rw [← live_put_dead] at buried
      exact buried.dead_subset fun d mem => dead_put_dead.mem_iff.mp mem
    · have moved : Mirrors owed (y :: (q.settle b (r.stop xs)).live)
          (q.settle b (r.stop xs) .dead) s := by
        cases dest with
        | dead => exact absurd rfl dying
        | pending | inFlight => exact keeps
      refine (moved.rebook ((live_put_live dying).map bare)).dead_subset ?_
      intro d mem
      rw [← dead_put_live dying]
      exact mem
  | drop => exact keeps

def VisitKeeps (owed : List (String × String))
    (visit : ShadowStore → Nudge → Except ShadowStore (ShadowStore × Fate NudgeBucket Nudge)) :
    Prop :=
  ∀ s x living dead, Mirrors owed (x :: living) dead s →
    ∃ s' fate, visit s x = .ok (s', fate) ∧ FateKeeps owed x living dead s' fate

theorem pass_live (alive : b ≠ .dead) (visits : VisitKeeps owed visit) (slow : Nat → Bool)
    (start : Mirror owed w) :
    ∃ r w', pass b visit slow w = .ok (r, w') ∧ Mirror owed w' := by
  have begin : Mirror owed (w.1.settle b (({} : Spread NudgeBucket Nudge).stop (w.1 b)), w.2) := by
    rw [settle_start]
    exact start
  obtain ⟨s', r', scanned, kept⟩ :=
    scan_total (fun r xs s => Mirror owed (w.1.settle b (r.stop xs), s))
      (fun r xs s mirror => by simpa [Spread.stop] using mirror)
      (fun r x xs s mirror => by
        obtain ⟨s', fate, visited, keeps⟩ := visits s x _ _ (mirror.take alive)
        exact ⟨s', fate, visited, Mirror.put alive keeps⟩) begin
  refine ⟨r', (w.1.settle b r', s'), ?_, ?_⟩
  · rw [pass, scanned]
  · simpa [Spread.stop] using kept

/-- The dead a loop over them has not pruned are still there, and nothing has moved. -/
structure Pruning (dead : List Nudge) (r : Spread NudgeBucket Nudge) (rest : List Nudge) : Prop where
  kept : ∀ z ∈ r.kept, z ∈ dead
  rest : ∀ z ∈ rest, z ∈ dead
  moved : r.moved = []

theorem Pruning.put {dead rest : List Nudge} (pruning : Pruning dead r (x :: rest))
    (stays : fate = .keep ∨ fate = .drop) :
    Pruning dead (r.put x fate) rest := by
  have later : ∀ z ∈ rest, z ∈ dead := fun z mem => pruning.rest z (mem_cons_of_mem x mem)
  rcases stays with rfl | rfl
  · refine ⟨?_, later, pruning.moved⟩
    intro z mem
    rcases mem_append.mp mem with mem | mem
    · exact pruning.kept z mem
    · rw [mem_singleton.mp mem]
      exact pruning.rest x mem_cons_self
  · exact ⟨pruning.kept, later, pruning.moved⟩

theorem pass_dead (visits : ∀ s x living dead, x ∈ dead → Mirrors owed living dead s →
      ∃ s' fate, visit s x = .ok (s', fate) ∧ Mirrors owed living dead s' ∧
        (fate = .keep ∨ fate = .drop)) (slow : Nat → Bool) (start : Mirror owed w) :
    ∃ r w', pass .dead visit slow w = .ok (r, w') ∧ Mirror owed w' := by
  have begin : Pruning (w.1 .dead) {} (w.1 .dead) := ⟨by simp, fun z mem => mem, rfl⟩
  obtain ⟨s', r', scanned, pruning, kept⟩ :=
    scan_total (fun r xs s => Pruning (w.1 .dead) r xs ∧ Mirror owed (w.1, s))
      (fun r xs s both => by
        refine ⟨⟨?_, fun _ mem => absurd mem not_mem_nil, both.1.moved⟩, both.2⟩
        intro z mem
        rcases mem_append.mp mem with mem | mem
        · exact both.1.kept z mem
        · exact both.1.rest z mem)
      (fun r x xs s both => by
        obtain ⟨s', fate, visited, keeps, stays⟩ :=
          visits s x _ _ (both.1.rest x mem_cons_self) both.2
        exact ⟨s', fate, visited, both.1.put stays, keeps⟩) ⟨begin, start⟩
  refine ⟨r', (w.1.settle .dead r', s'), by rw [pass, scanned], ?_⟩
  have parts : ∀ i, r'.part i = [] := by
    intro i
    rw [Spread.part, pruning.moved]
    rfl
  have live : (w.1.settle .dead r').live = w.1.live := by
    simp [live, NudgeQueue.settle, parts]
  have dead : w.1.settle .dead r' .dead = r'.kept := by
    simp [NudgeQueue.settle, parts]
  show Mirrors owed (w.1.settle .dead r').live (w.1.settle .dead r' .dead) s'
  rw [live, dead]
  exact Mirrors.dead_subset kept pruning.kept

theorem sift_sets_aside (alive : b ≠ .dead) {fate : Nudge → Fate NudgeBucket Nudge}
    (rebooks : ∀ x dest y, fate x = .move dest y → y.bare = x.bare) {dead : List Nudge}
    (start : Mirrors owed w.1.live dead w.2) :
    ∃ r q, sift b fate w = .ok (r, q, w.2) ∧
      Mirrors ((r.part .dead ++ r.dropped).map pair ++ owed) q.live dead w.2 ∧
      q .dead = w.1 .dead ++ r.part .dead ∧
      (∀ dest y, (dest, y) ∈ r.moved → ∃ x, fate x = .move dest y) ∧
      ∀ x ∈ r.dropped, fate x = .drop := by
  obtain ⟨r, scanned⟩ := scan_pure fate (fun _ => false) 0 w.2 {} (w.1 b)
  have accounts : Accounts bare (fun x f => fate x = f) (w.1 b) r [] :=
    scan_accounts (fun s x s' f visited => by
      cases visited
      exact ⟨rfl, rebooks x⟩) scanned
  have perm : (((w.1.settle b r).live ++ (r.part .dead ++ r.dropped)).map bare).Perm
      (w.1.live.map bare) := by
    refine perm_iff_count.mpr fun c => ?_
    have parts := count_part r c
    have here := perm_iff_count.mp accounts.perm c
    simp only [append_nil, map_append, count_append] at here
    cases b with
    | dead => exact absurd rfl alive
    | pending | inFlight =>
      simp only [live, NudgeQueue.settle, map_append, count_append,
        reduceCtorEq, if_true, if_false]
      omega
  refine ⟨r, w.1.settle b r, ?_, (start.rebook perm).setAsideAll _, ?_, ?_, ?_⟩
  · rw [sift, pass, scanned]
  · rw [NudgeQueue.settle, if_neg (Ne.symm alive)]
  · intro dest y mem
    obtain ⟨x, _, given⟩ := accounts.moved _ mem
    exact ⟨x, given⟩
  · exact fun x mem => (accounts.dropped x mem).2

end Loops

end GasCity
