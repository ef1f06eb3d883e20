import GasCity.EventRetained

namespace GasCity

open KeyedList List LogThread

instance {σ ε : Type} (next : σ → ε → σ) (ok : σ → ε → Prop) [∀ s e, Decidable (ok s e)] (s : σ)
    (es : List ε) : Decidable (Along next ok s es) := by
  induction es generalizing s with
  | nil => exact isTrue trivial
  | cons e es ih => exact inferInstanceAs (Decidable (_ ∧ _))

namespace LogDir

instance (d : LogDir) (i : Nat) : Decidable (d.OpenTo i) :=
  inferInstanceAs (Decidable (_ ∨ ∃ f ∈ d.rotating.rows, _))

variable {d : LogDir} {bs : List (Window × Nat)}

theorem Stored.readAll_perm (stored : d.Stored) (none : d.rotating.rows = []) :
    d.readAll.Perm d.written := by
  obtain ⟨bs, blocks, perm⟩ := stored
  have all : ∀ b ∈ bs, (d.archives.find b.1).isSome := by
    intro b mem
    rcases blocks.stored b mem with archived | found
    · exact archived
    · have row := mem_of_find found
      rw [none] at row
      cases row
  have archives := blocks.archives_perm
  rw [filter_eq_self.mpr all] at archives
  have sorted : (inOrder d.archives.rows).Perm (bs.map fun b => (b.1, d.contents b.2)) :=
    (perm_insertionSort _ _).trans archives
  have lines := sorted.flatMap_right fun f => f.2
  rw [flatMap_map] at lines
  exact (lines.append_right _).trans perm.symm

/-- What `ReadAll` leaves out are lines of rotated files that are not archived yet. -/
theorem Stored.readAll_missing (stored : d.Stored) :
    ∃ missing, (d.readAll ++ missing).Perm d.written ∧
      ∀ e ∈ missing, ∃ f ∈ d.unarchived, e ∈ d.contents f.2 := by
  obtain ⟨bs, blocks, perm⟩ := stored
  let archived (b : Window × Nat) : Bool := (d.archives.find b.1).isSome
  let lines (bs : List (Window × Nat)) : List LogEntry := bs.flatMap fun b => d.contents b.2
  refine ⟨lines (bs.filter fun b => !archived b), ?_, fun e mem => ?_⟩
  · have sorted : (inOrder d.archives.rows).Perm _ :=
      (perm_insertionSort _ _).trans blocks.archives_perm
    have read := sorted.flatMap_right fun f => f.2
    rw [flatMap_map] at read
    have all : (lines (bs.filter archived) ++ lines (bs.filter fun b => !archived b)).Perm (lines bs) := by
      rw [← flatMap_append]
      exact (filter_append_perm archived bs).flatMap_right _
    rw [readAll, append_assoc]
    refine (read.append perm_append_comm).trans ?_
    rw [← append_assoc]
    exact (all.append_right _).trans perm.symm
  · obtain ⟨b, mem, here⟩ := mem_flatMap.mp mem
    obtain ⟨mem, missing⟩ := mem_filter.mp mem
    have missing : d.archives.find b.1 = none := by simpa [archived] using missing
    have found := (blocks.stored b mem).resolve_left (by simp [missing])
    exact ⟨b, mem_filter.mpr ⟨mem_of_find found, by rw [missing]; rfl⟩, here⟩

end LogDir

namespace EventLog

instance (s : EventLog) (e : Nat × LogChoice) : Decidable (s.Gentle e) := by
  unfold Gentle
  split <;> infer_instance

variable {s : EventLog}

theorem openActive_files (d : LogDir) :
    d.openActive.2.rotating = d.rotating ∧ d.openActive.2.partials = d.partials ∧
      d.openActive.2.archives = d.archives ∧ d.openActive.2.pending = d.pending := by
  unfold LogDir.openActive
  split <;> exact ⟨rfl, rfl, rfl, rfl⟩

theorem Retained.openActive (kept : s.Retained) {j : Nat} {t : LogThread}
    {x : LogThread} (here : s.calls j = x) (owns : t.owns = x.owns) (early : t.pastCopy = false) :
    Retained ⟨s.shared.openActive.2, Function.update s.calls j t⟩ := by
  obtain ⟨rotating, partials, archives, pending⟩ := openActive_files s.shared
  exact kept.same_files kept.stored.openActive rotating partials archives pending here owns early

theorem Retained.setLock (kept : s.Retained) {j file : Nat} {taken : Bool} {t : LogThread}
    {x : LogThread} (here : s.calls j = x) (owns : t.owns = x.owns) (early : t.pastCopy = false) :
    Retained ⟨s.shared.setLock file taken, Function.update s.calls j t⟩ := by
  obtain ⟨bs, blocks, perm⟩ := kept.stored
  exact kept.same_files ⟨bs, blocks.setLock file taken, perm⟩ rfl rfl rfl rfl here owns early

theorem Retained.next (s : EventLog) (e : Nat × LogChoice) (kept : s.Retained)
    (gentle : e.2.sweeps = false ∧ s.Gentle e) : (s.next e).Retained := by
  obtain ⟨j, c⟩ := e
  obtain ⟨unswept, gentle⟩ := gentle
  unfold Gentle at gentle
  unfold EventLog.next Threads.step
  cases here : s.calls j with try simp only [step]
  | unopened =>
    cases c with
    | sweep | discard => cases unswept
    | _ => exact kept.idle here rfl rfl
  | tailRead | holding | reopened | closed => exact kept.idle here rfl rfl
  | listed | renamed => exact kept.openActive here rfl rfl
  | idle file seq =>
    cases c with
    | record | rotate =>
      dsimp only
      split <;> exact kept.idle here rfl rfl
    | _ => exact kept.idle here rfl rfl
  | waiting file seq texts =>
    split
    next => exact kept.idle here rfl rfl
    next =>
      split
      next => exact kept.idle here rfl rfl
      next => exact kept.setLock here rfl rfl
  | numbered file seq lines =>
    rw [here] at gentle
    exact kept.same_files (kept.stored.write gentle lines) rfl rfl rfl rfl here rfl rfl
  | wrote file seq => exact kept.setLock here rfl rfl
  | sized file seq ts =>
    split <;> exact kept.idle here rfl rfl
  | scanned file seq w =>
    rw [here] at gentle
    split
    next => exact kept.openActive here rfl rfl
    next i active => exact kept.rename here active gentle
  | anchored file seq w anchor =>
    rw [here] at gentle
    exact kept.anchor here gentle
  | resting =>
    cases c with
    | take w =>
      dsimp only
      split
      next mem => exact kept.take here mem
      next => exact kept.idle here rfl rfl
    | _ => exact kept.idle here rfl rfl
  | copying w =>
    have mine : (s.calls j).owns = some w := by
      rw [here]
      rfl
    split
    next f archived => exact kept.remove mine (by rw [archived]; rfl)
    next gone => exact kept.abandon mine gone
    next f missing found =>
      have name : f.1 = w := key_of_find found
      refine kept.copy here ?_ missing
      rw [found, ← name]
  | copied w =>
    split
    next missing =>
      have there := kept.copied j w here
      rw [missing] at there
      cases there
    next f found =>
      have name : f.1 = w := key_of_find found
      refine kept.archive here ?_
      rw [found, ← name]
  | archived w =>
    exact kept.remove (by rw [here]; rfl) (kept.archived j w here)

theorem retained_fresh (roles : Nat → Bool) : (fresh roles).Retained := by
  have owns : ∀ j, ((fresh roles).calls j).owns = none := by
    intro j
    show (if roles j then unopened else .resting).owns = none
    split <;> rfl
  have calls : ∀ j, (fresh roles).calls j = .unopened ∨ (fresh roles).calls j = .resting := by
    intro j
    show (if roles j then unopened else .resting) = _ ∨ _
    split
    next => exact .inl rfl
    next => exact .inr (by simp [fresh, *])
  refine ⟨⟨[], LogDir.blocks_empty, List.Perm.nil⟩, ⟨nodup_nil, ?_, ?_⟩, ?_, ?_, ?_, ?_⟩
  · exact fun w mem => absurd mem not_mem_nil
  · exact fun j k w one => absurd (owns j ▸ one) (by simp)
  · exact fun f mem => absurd mem not_mem_nil
  · rintro w (mem | ⟨j, one⟩)
    · cases mem
    · exact absurd (owns j ▸ one) (by simp)
  all_goals
    intro j w here
    rcases calls j with other | other <;> exact absurd (other.symm.trans here) (by simp)

/-- Once no rotated file is left to compress, `ReadAll` gives every line that was written, once. -/
theorem rotation_loses_nothing (roles : Nat → Bool) (events : List (Nat × LogChoice))
    (gentle : Along next (fun s e => e.2.sweeps = false ∧ s.Gentle e) (fresh roles) events)
    (settled : ∀ w, ¬ Held (events.foldl next (fresh roles)).shared.pending
      (events.foldl next (fresh roles)).calls w) :
    (events.foldl next (fresh roles)).shared.readAll.Perm
      (events.foldl next (fresh roles)).shared.written := by
  have kept := gentle.invariant (fun s e kept ok => Retained.next s e kept ok)
    (retained_fresh roles)
  refine kept.stored.readAll_perm ?_
  refine eq_nil_iff_forall_not_mem.mpr fun f mem => ?_
  exact settled f.1 (kept.covered f mem)

def twoRecorders (j : Nat) : Bool := decide (j < 2)

/-- Both recorders open the log, the first one writes a line and rotates. -/
def rotatedOnce : List (Nat × LogChoice) :=
  [(0, .openLog), (0, .go), (0, .go), (1, .openLog), (1, .go), (1, .go),
    (0, .record ["a"]), (0, .go), (0, .go), (0, .go), (0, .go),
    (0, .rotate 7), (0, .go), (0, .go), (0, .go), (0, .go), (0, .go)]

def compressedOnce : List (Nat × LogChoice) :=
  rotatedOnce ++ [(2, .take ⟨7, 1, 1⟩), (2, .go), (2, .go), (2, .go)]

theorem compressedOnce_retained :
    (compressedOnce.foldl next (fresh twoRecorders)).shared.readAll.Perm
      (compressedOnce.foldl next (fresh twoRecorders)).shared.written := by
  refine rotation_loses_nothing twoRecorders compressedOnce (by decide +kernel) ?_
  have idle : (compressedOnce.foldl next (fresh twoRecorders)).shared.pending = [] := by
    decide +kernel
  rintro w (mem | ⟨j, owned⟩)
  · rw [idle] at mem
    cases mem
  · have unowned : ((compressedOnce.foldl next (fresh twoRecorders)).calls j).owns = none := by
      match j with
      | 0 => rfl
      | 1 => rfl
      | 2 => rfl
      | j + 3 => rfl
    exact absurd (unowned.symm.trans owned) (by simp)

/-- At every moment `ReadAll` gives only lines that were written, none more often than it was, and
those it leaves out are in rotated files that wait for their archive. -/
theorem readAll_misses_only_unarchived (roles : Nat → Bool) (events : List (Nat × LogChoice))
    (gentle : Along next (fun s e => e.2.sweeps = false ∧ s.Gentle e) (fresh roles) events) :
    let d := (events.foldl next (fresh roles)).shared
    ∃ missing, (d.readAll ++ missing).Perm d.written ∧
      ∀ e ∈ missing, ∃ f ∈ d.unarchived, e ∈ d.contents f.2 := by
  have kept := gentle.invariant (fun s e kept ok => Retained.next s e kept ok) (retained_fresh roles)
  exact kept.stored.readAll_missing

theorem readAll_misses_only_unarchived_rotated :
    let d := (rotatedOnce.foldl next (fresh twoRecorders)).shared
    d.readAll = [⟨2, "events.rotated"⟩] ∧ ∃ missing, (d.readAll ++ missing).Perm d.written ∧
      ∀ e ∈ missing, ∃ f ∈ d.unarchived, e ∈ d.contents f.2 :=
  ⟨by decide +kernel, readAll_misses_only_unarchived twoRecorders rotatedOnce (by decide +kernel)⟩

/-- The second recorder appends to the rotated file after its compression has read it. -/
def lateWrite : List (Nat × LogChoice) :=
  rotatedOnce ++ [(2, .take ⟨7, 1, 1⟩), (2, .go), (1, .record ["b"]), (1, .go), (1, .go),
    (1, .go), (1, .go), (2, .go), (2, .go)]

theorem lateWrite_is_lost :
    (lateWrite.foldl next (fresh twoRecorders)).shared.written =
        [⟨1, "a"⟩, ⟨2, "events.rotated"⟩, ⟨3, "b"⟩] ∧
      (lateWrite.foldl next (fresh twoRecorders)).shared.pending = [] ∧
      (lateWrite.foldl next (fresh twoRecorders)).shared.rotating.rows = [] ∧
      (lateWrite.foldl next (fresh twoRecorders)).shared.readAll =
        [⟨1, "a"⟩, ⟨2, "events.rotated"⟩] := by
  decide +kernel

end EventLog

end GasCity
