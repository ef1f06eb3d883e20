import GasCity.EventSequence
import GasCity.EventReadAll

namespace GasCity.EventLog

open KeyedList

variable {s : EventLog} {bs : List (Window × Nat)}

/-- A recorder numbers lines only for the active log and while no rotation is between renaming the
log and its anchor; a rotation begins to scan only when no other one has; it renames only when no
recorder is about to write and its cached number is not behind the log; and the rotated files are
archived in the order of their windows. -/
def Regular (s : EventLog) (e : Nat × LogChoice) : Prop :=
  match s.calls e.1 with
  | .holding file _ _ => s.shared.active = some file ∧ ∀ k, (s.calls k).between = false
  | .sized _ _ _ => ∀ k, k ≠ e.1 → (s.calls k).rotates = false
  | .scanned _ seq _ => s.shared.readLatestActiveSeq ≤ seq ∧ ∀ k, (s.calls k).numbers = false
  | .copied w => ∀ f ∈ s.shared.unarchived, w.first ≤ f.1.first
  | _ => True

theorem LogDir.Chain.sweep {d : LogDir} (chain : d.Chain bs) (w : Window) :
    (d.sweep w).Chain bs ∧ Alike d (d.sweep w) ∧ (d.sweep w).locked = d.locked := by
  unfold LogDir.sweep
  split
  next => exact ⟨chain, Alike.refl _, rfl⟩
  next f found =>
    have there := chain.blocks.inflight f (mem_of_find found)
    obtain ⟨e, mem, _⟩ := chain.head_mem there
    rw [if_neg (List.ne_nil_of_mem mem)]
    exact ⟨chain.same_lines (chain.blocks.enqueue w) rfl rfl rfl rfl,
      ⟨fun _ h => h, rfl, rfl, fun _ h => h⟩, rfl⟩

variable {c : LogChoice}

theorem OrderedBy.next_compression (ordered : s.OrderedBy bs) {j : Nat} {w : Window}
    (regular : s.Regular (j, c))
    (phase : s.calls j = .copying w ∨ s.calls j = .copied w ∨ s.calls j = .archived w) :
    (s.next (j, c)).OrderedBy bs := by
  unfold Regular at regular
  unfold EventLog.next Threads.step
  rcases phase with here | here | here
  · rw [here]
    simp only [LogThread.step]
    split
    next f archived =>
      have removed := ordered.chain.blocks.remove (w := w) (by rw [archived]; rfl)
      exact ordered.moves here (ordered.chain.same_lines removed rfl rfl rfl rfl)
        ⟨fun _ h => h, rfl, rfl, fun _ h => h⟩ rfl rfl id rfl rfl trivial
    next => exact ordered.plain here rfl id rfl rfl trivial
    next f missing found =>
      have name : f.1 = w := key_of_find found
      have there := ordered.chain.blocks.inflight f (mem_of_find found)
      have copied := ordered.chain.blocks.copy (w := w) (i := f.2) (name ▸ there) missing
      exact ordered.moves here (ordered.chain.same_lines copied rfl rfl rfl rfl)
        ⟨fun _ h => h, rfl, rfl, fun _ h => h⟩ rfl rfl id rfl rfl trivial
  · rw [here] at regular ⊢
    simp only [LogThread.step]
    split
    next => exact ordered.plain here rfl id rfl rfl trivial
    next f found =>
      have name : f.1 = w := key_of_find found
      have row : (w, f.2) ∈ s.shared.partials.rows := by
        rw [← name]
        exact mem_of_find found
      have find : ∀ v, (s.shared.archive w f.2).archives.find v =
          if v = w then some (w, f.2) else s.shared.archives.find v := fun v =>
        find_set s.shared.archives (w, f.2) v
      refine ordered.moves here (ordered.chain.archive row regular)
        ⟨fun _ h => h, rfl, rfl, fun v there => ?_⟩ rfl rfl id rfl rfl ?_
      · rw [find]
        split
        next => rfl
        next => exact there
      · show ((s.shared.archive w f.2).archives.find w).isSome
        rw [find, if_pos rfl]
        rfl
  · rw [here]
    have removed := ordered.chain.blocks.remove (w := w) (ordered.known here)
    exact ordered.moves here (ordered.chain.same_lines removed rfl rfl rfl rfl)
      ⟨fun _ h => h, rfl, rfl, fun _ h => h⟩ rfl rfl id rfl rfl trivial

theorem OrderedBy.next_recorder (ordered : s.OrderedBy bs) {j : Nat} (regular : s.Regular (j, c))
    (fresh : (s.calls j).rotates = false)
    (other : ∀ w, s.calls j ≠ .copying w ∧ s.calls j ≠ .copied w ∧ s.calls j ≠ .archived w) :
    (s.next (j, c)).OrderedBy bs := by
  unfold Regular at regular
  unfold EventLog.next Threads.step
  cases here : s.calls j with try simp only [LogThread.step]
  | unopened =>
    cases c with
    | openLog => exact ordered.plain here rfl id rfl rfl ordered.chain.tail_le
    | sweep w =>
      obtain ⟨chain, alike, locked⟩ := LogDir.Chain.sweep ordered.chain w
      exact ordered.moves here chain alike locked rfl id rfl rfl trivial
    | discard w =>
      exact ordered.moves here
        (ordered.chain.same_lines (ordered.chain.blocks.discard w) rfl rfl rfl rfl)
        ⟨fun _ h => h, rfl, rfl, fun _ h => h⟩ rfl rfl id rfl rfl trivial
    | _ => exact ordered.plain here rfl id rfl rfl trivial
  | tailRead seq =>
    exact ordered.plain here rfl id rfl rfl
      (Nat.max_le.mpr ⟨ordered.known here, ordered.chain.archivedSeq_le⟩)
  | listed seq =>
    have alike := alike_openActive s.shared
    refine ordered.moves here ordered.chain.openActive alike (openActive_locked _) rfl id rfl rfl ?_
    have knows := ordered.known here
    exact Knows.alike (x := .idle _ seq) knows alike
  | idle file seq =>
    have knows := ordered.known here
    cases c with
    | record | rotate =>
      dsimp only
      split
      next => exact ordered.plain here rfl id rfl rfl knows
      next => exact ordered.plain here rfl (fun h => h) rfl rfl knows
    | close => exact ordered.plain here rfl (fun h => h) rfl rfl trivial
    | _ => exact ordered.plain here rfl id rfl rfl knows
  | waiting file seq texts =>
    have knows := ordered.known here
    split
    next => exact ordered.plain here rfl (fun h => h) rfl rfl knows
    next =>
      split
      next => exact ordered.plain here rfl id rfl rfl knows
      next free =>
        refine ordered.alike here (ordered.chain.same_lines
          (ordered.chain.blocks.setLock file true) rfl rfl rfl rfl)
          ⟨fun _ h => h, rfl, rfl, fun _ h => h⟩ ?_ knows (fun h => h)
        exact ordered.exclusive.lock (by simpa using free) rfl rfl rfl rfl
  | holding file seq texts =>
    rw [here] at regular
    exact ordered.number here regular.1 regular.2
  | numbered file seq lines => exact ordered.write here
  | wrote file seq =>
    have knows := ordered.known here
    refine ordered.alike here (ordered.chain.same_lines
      (ordered.chain.blocks.setLock file false) rfl rfl rfl rfl)
      ⟨fun _ h => h, rfl, rfl, fun _ h => h⟩ ?_ knows (fun h => h)
    exact ordered.exclusive.unlock here rfl rfl rfl rfl rfl
  | sized file seq ts =>
    have knows := ordered.known here
    rw [here] at regular
    split
    next => exact ordered.plain here rfl (fun h => h) rfl rfl knows
    next e es lines => exact ordered.scan here lines regular
  | scanned | renamed | reopened | anchored =>
    rw [here] at fresh
    cases fresh
  | closed => exact ordered.plain here rfl id rfl rfl trivial
  | resting =>
    cases c with
    | take w =>
      dsimp only
      split
      next =>
        exact ordered.moves here
          (ordered.chain.same_lines (ordered.chain.blocks.dequeue w) rfl rfl rfl rfl)
          ⟨fun _ h => h, rfl, rfl, fun _ h => h⟩ rfl rfl (fun h => h) rfl rfl trivial
      next => exact ordered.plain here rfl id rfl rfl trivial
    | _ => exact ordered.plain here rfl id rfl rfl trivial
  | copying w => exact absurd here (other w).1
  | copied w => exact absurd here (other w).2.1
  | archived w => exact absurd here (other w).2.2

theorem OrderedBy.next_rotation (ordered : s.OrderedBy bs) {j : Nat} (regular : s.Regular (j, c))
    (rotates : (s.calls j).rotates = true) :
    ∃ bs', (s.next (j, c)).OrderedBy bs' := by
  unfold Regular at regular
  unfold EventLog.next Threads.step
  cases here : s.calls j with
  | scanned file seq w =>
    rw [here] at regular
    simp only [LogThread.step]
    split
    next none =>
      have head := (ordered.known here).2.1
      rw [show s.shared.activeLines = [] by unfold LogDir.activeLines; rw [none]; rfl] at head
      cases head
    next i active => exact ⟨_, ordered.rename here active regular.1 regular.2⟩
  | renamed seq w =>
    have knows := ordered.known here
    have alike := alike_openActive s.shared
    refine ⟨bs, ordered.moves here ordered.chain.openActive alike (openActive_locked _) rfl id rfl
      rfl ⟨?_, openActive_active _, ?_⟩⟩
    · show seq = lastSeq s.shared.openActive.2.written
      rw [alike.written]
      exact knows.1
    · show s.shared.openActive.2.activeLines = []
      rw [alike.lines]
      exact knows.2
  | reopened file seq w =>
    obtain ⟨latest, active, empty⟩ := ordered.known here
    have tail : s.shared.readLatestActiveSeq = 0 := by
      unfold LogDir.readLatestActiveSeq
      rw [empty]
      rfl
    refine ⟨bs, ordered.plain here rfl id rfl rfl ⟨?_, active, empty, ?_⟩⟩ <;>
      rw [tail, Nat.max_zero, latest]
  | anchored file seq w anchor => exact ⟨bs, ordered.anchor here⟩
  | _ =>
    rw [here] at rotates
    cases rotates

theorem OrderedBy.next (ordered : s.OrderedBy bs) (e : Nat × LogChoice) (regular : s.Regular e) :
    ∃ bs', (s.next e).OrderedBy bs' := by
  obtain ⟨j, c⟩ := e
  by_cases rotates : (s.calls j).rotates = true
  · exact ordered.next_rotation regular rotates
  · by_cases compresses : ∃ w, s.calls j = .copying w ∨ s.calls j = .copied w ∨
        s.calls j = .archived w
    · obtain ⟨w, phase⟩ := compresses
      exact ⟨bs, ordered.next_compression regular phase⟩
    · refine ⟨bs, ordered.next_recorder regular (by simpa using rotates) fun w => ?_⟩
      exact ⟨fun h => compresses ⟨w, .inl h⟩, fun h => compresses ⟨w, .inr (.inl h)⟩,
        fun h => compresses ⟨w, .inr (.inr h)⟩⟩

theorem ordered_fresh (roles : Nat → Bool) : (fresh roles).OrderedBy [] := by
  have calls : ∀ j, (fresh roles).calls j = .unopened ∨ (fresh roles).calls j = .resting := by
    intro j
    show (if roles j then LogThread.unopened else .resting) = _ ∨ _
    split
    next => exact .inl rfl
    next => exact .inr (by simp [fresh, *])
  have idle : ∀ j, ((fresh roles).calls j).holds = none ∧
      ((fresh roles).calls j).rotates = false ∧ ((fresh roles).calls j).numbers = false := by
    intro j
    rcases calls j with here | here <;> rw [here] <;> exact ⟨rfl, rfl, rfl⟩
  refine ⟨⟨LogDir.blocks_empty, rfl, List.Pairwise.nil, by simp, by simp, List.Pairwise.nil⟩,
    ⟨?_, ?_, ?_, ?_⟩, ?_, fun _ => .inl rfl⟩
  · exact fun j i held => absurd held (by simp [(idle j).1])
  · exact fun j k i held => absurd held (by simp [(idle j).1])
  · exact fun j k rotates => absurd rotates (by simp [(idle j).2.1])
  · exact fun j k numbers => absurd numbers (by simp [(idle j).2.2])
  · intro j
    rcases calls j with here | here <;> rw [here] <;> exact trivial

/-- In every regular run the archives, the rotated files in flight and the active log are read in
the order they were written, with increasing sequence numbers. -/
theorem sequence_increases (roles : Nat → Bool) (events : List (Nat × LogChoice))
    (regular : Along next Regular (fresh roles) events) :
    (events.foldl next (fresh roles)).shared.reading =
        (events.foldl next (fresh roles)).shared.written ∧
      ((events.foldl next (fresh roles)).shared.reading.map fun e => e.seq).Pairwise (· < ·) := by
  have keeps : ∀ (s : EventLog) e, (∃ bs, s.OrderedBy bs) → s.Regular e →
      ∃ bs, (s.next e).OrderedBy bs := by
    rintro s e ⟨bs, ordered⟩ ok
    exact ordered.next e ok
  obtain ⟨bs, ordered⟩ := regular.invariant keeps ⟨[], ordered_fresh roles⟩
  have same := ordered.chain.reading_eq
  refine ⟨same, ?_⟩
  rw [same, List.pairwise_map]
  exact ordered.chain.increasing

theorem compressedOnce_increases :
    (compressedOnce.foldl next (fresh twoRecorders)).shared.reading =
        (compressedOnce.foldl next (fresh twoRecorders)).shared.written ∧
      ((compressedOnce.foldl next (fresh twoRecorders)).shared.reading.map
        fun e => e.seq).Pairwise (· < ·) := by
  refine sequence_increases twoRecorders compressedOnce ?_
  have archiving : ∀ f ∈ ((rotatedOnce ++ [(2, LogChoice.take ⟨7, 1, 1⟩), (2, .go)]).foldl next
      (fresh twoRecorders)).shared.unarchived, 1 ≤ f.1.first := by
    decide +kernel
  refine ⟨trivial, trivial, trivial, trivial, trivial, trivial, trivial, trivial, ⟨rfl, ?_⟩,
    trivial, trivial, trivial, ?_, ⟨by decide +kernel, ?_⟩, trivial, trivial, trivial,
    trivial, trivial, archiving, trivial, trivial⟩
  · rintro (_ | _ | _ | k) <;> rfl
  · rintro (_ | _ | _ | k) other
    · exact absurd rfl other
    all_goals rfl
  · rintro (_ | _ | _ | k) <;> rfl

/-- The second recorder appends to the rotated file, then the first one to the new log. -/
def writtenApart : List (Nat × LogChoice) :=
  rotatedOnce ++ [(1, .record ["b"]), (1, .go), (1, .go), (1, .go), (1, .go),
    (0, .record ["c"]), (0, .go), (0, .go), (0, .go), (0, .go)]

theorem writtenApart_repeats :
    (writtenApart.foldl next (fresh twoRecorders)).shared.written =
        [⟨1, "a"⟩, ⟨2, "events.rotated"⟩, ⟨3, "b"⟩, ⟨3, "c"⟩] ∧
      (writtenApart.foldl next (fresh twoRecorders)).shared.reading =
        [⟨1, "a"⟩, ⟨3, "b"⟩, ⟨2, "events.rotated"⟩, ⟨3, "c"⟩] ∧
      ¬ ((writtenApart.foldl next (fresh twoRecorders)).shared.reading.map
        fun e => e.seq).Pairwise (· < ·) := by
  decide +kernel

end GasCity.EventLog
