import GasCity.EventOrder

namespace GasCity

open Function List LogThread

namespace LogDir

variable {d : LogDir} {bs : List (Window × Nat)}

theorem Chain.tail_eq (chain : Chain d bs) (filled : d.activeLines ≠ []) :
    d.readLatestActiveSeq = lastSeq d.written := by
  unfold readLatestActiveSeq
  rw [chain.whole, lastSeq_append filled]

theorem Chain.tail_le (chain : Chain d bs) : d.readLatestActiveSeq ≤ lastSeq d.written := by
  by_cases empty : d.activeLines = []
  · unfold readLatestActiveSeq
    rw [empty]
    exact Nat.zero_le _
  · exact Nat.le_of_eq (chain.tail_eq empty)

theorem foldl_max_le {m : Nat} (l : List Nat) {n : Nat} (start : n ≤ m) (all : ∀ x ∈ l, x ≤ m) :
    l.foldl max n ≤ m := by
  induction l generalizing n with
  | nil => exact start
  | cons x l ih =>
    refine ih (Nat.max_le.mpr ⟨start, all x mem_cons_self⟩) ?_
    exact fun y mem => all y (mem_cons_of_mem x mem)

theorem Chain.archivedSeq_le (chain : Chain d bs) : d.archivedSeq ≤ lastSeq d.written := by
  refine foldl_max_le _ (Nat.zero_le _) fun n mem => ?_
  obtain ⟨f, row, rfl⟩ := mem_map.mp mem
  obtain ⟨i, there, _⟩ := chain.blocks.archived f row
  exact chain.lasts _ there

end LogDir

namespace EventLog

variable {s : EventLog} {d : LogDir} {j : Nat} {t x : LogThread} {bs : List (Window × Nat)}
  {w : Window} {file seq : Nat}

theorem OrderedBy.known (ordered : s.OrderedBy bs) (here : s.calls j = x) : Knows s.shared x :=
  here ▸ ordered.knows j

theorem OrderedBy.moves (ordered : s.OrderedBy bs) (here : s.calls j = x) (chain : d.Chain bs)
    (alike : Alike s.shared d) (locked : d.locked = s.shared.locked) (holds : t.holds = x.holds)
    (rotates : t.rotates = true → x.rotates = true) (numbers : t.numbers = x.numbers)
    (between : t.between = x.between) (mine : Knows d t) :
    OrderedBy ⟨d, update s.calls j t⟩ bs := by
  have same := ordered.exclusive.keep (t := t) here holds (fun yes => .inl (rotates yes))
    (fun yes => .inl (numbers.symm.trans yes)) (fun yes => .inl (between.symm.trans yes))
    (by
      intro yes
      have apart := ordered.exclusive.apart j j
      rw [here] at apart
      exact between.trans (apart (numbers.symm.trans yes)))
  refine ⟨chain, by rw [locked]; exact same, ?_, ?_⟩
  · exact knows_update mine fun k _ => (ordered.knows k).alike alike
  · intro empty
    rw [alike.written]
    rcases ordered.filled (alike.lines.symm.trans empty) with none | was
    · exact .inl none
    · exact .inr (between_update here (fun was => between.trans was) was)

theorem OrderedBy.plain (ordered : s.OrderedBy bs) (here : s.calls j = x)
    (holds : t.holds = x.holds) (rotates : t.rotates = true → x.rotates = true)
    (numbers : t.numbers = x.numbers) (between : t.between = x.between) (mine : Knows s.shared t) :
    OrderedBy ⟨s.shared, update s.calls j t⟩ bs :=
  ordered.moves here ordered.chain (Alike.refl _) rfl holds rotates numbers between mine

theorem alike_openActive (d : LogDir) : Alike d d.openActive.2 := by
  refine ⟨?_, LogDir.Chain.activeLines_openActive, ?_, ?_⟩
  · intro i active
    unfold LogDir.openActive
    rw [active]
    exact active
  · unfold LogDir.openActive
    split <;> rfl
  · intro w there
    unfold LogDir.openActive
    split <;> exact there

theorem openActive_active (d : LogDir) : d.openActive.2.active = some d.openActive.1 := by
  unfold LogDir.openActive
  split
  next i active => exact active
  next => rfl

theorem openActive_locked (d : LogDir) : d.openActive.2.locked = d.locked := by
  unfold LogDir.openActive
  split <;> rfl

/-- A recorder numbers its lines when its file is the active log and no rotation is between two
files. -/
theorem OrderedBy.number (ordered : s.OrderedBy bs) {texts : List String}
    (here : s.calls j = .holding file seq texts) (active : s.shared.active = some file)
    (still : ∀ k, (s.calls k).between = false) :
    OrderedBy ⟨s.shared, update s.calls j
      (.numbered file (max seq s.shared.readLatestActiveSeq + texts.length)
        (numberFrom (max seq s.shared.readLatestActiveSeq) texts))⟩ bs := by
  have cached : seq ≤ lastSeq s.shared.written := ordered.known here
  have latest : max seq s.shared.readLatestActiveSeq = lastSeq s.shared.written := by
    have tail : s.shared.readLatestActiveSeq = lastSeq s.shared.written := by
      by_cases empty : s.shared.activeLines = []
      · rcases ordered.filled empty with none | ⟨k, moving⟩
        · unfold LogDir.readLatestActiveSeq
          rw [empty, none]
        · exact absurd moving (by simp [still k])
      · exact ordered.chain.tail_eq empty
    rw [tail]
    exact Nat.max_eq_right cached
  rw [latest]
  refine ordered.alike here ordered.chain (Alike.refl _) ?_ ⟨active, texts, rfl, rfl⟩
    (fun was => by cases was)
  exact ordered.exclusive.keep here rfl (fun yes => by cases yes) (fun _ => .inr still)
    (fun yes => by cases yes) fun _ => rfl

theorem OrderedBy.scan (ordered : s.OrderedBy bs) {ts : Nat} {e : LogEntry} {es : List LogEntry}
    (here : s.calls j = .sized file seq ts) (lines : s.shared.activeLines = e :: es)
    (alone : ∀ k, k ≠ j → (s.calls k).rotates = false) :
    OrderedBy ⟨s.shared, update s.calls j
      (.scanned file seq ⟨ts, e.seq, max (lastSeq (e :: es)) e.seq⟩)⟩ bs := by
  have cached : seq ≤ lastSeq s.shared.written := ordered.known here
  have last : max (lastSeq (e :: es)) e.seq ≤ lastSeq s.shared.written := by
    have tail := ordered.chain.tail_le
    unfold LogDir.readLatestActiveSeq at tail
    rw [lines] at tail
    refine Nat.max_le.mpr ⟨tail, ordered.chain.increasing.le_lastSeq ?_⟩
    rw [ordered.chain.whole, lines]
    exact mem_append_right _ mem_cons_self
  refine ordered.alike here ordered.chain (Alike.refl _) ?_ ⟨cached, ?_, last⟩
    (fun was => by cases was)
  · exact ordered.exclusive.keep here rfl (fun _ => .inr alone) (fun yes => by cases yes)
      (fun yes => by cases yes) fun _ => rfl
  · rw [lines]
    rfl

/-- After a write the other threads know what they knew, when none of them is about to write or
between two files. -/
theorem Knows.write {lines : List LogEntry} {i : Nat} (knows : Knows d x)
    (higher : ∀ e ∈ lines, lastSeq d.written < e.seq) (increasing : Increasing lines)
    (active : d.active = some i) (waits : x.numbers = false) (still : x.between = false) :
    Knows (d.write i lines) x := by
  have later := LogDir.Chain.le_lastSeq_write (i := i) higher increasing
  cases x with
  | numbered => cases waits
  | renamed | reopened | anchored => cases still
  | scanned file seq w =>
    obtain ⟨cached, head, last⟩ := knows
    refine ⟨Nat.le_trans cached later, ?_, Nat.le_trans last later⟩
    obtain ⟨e, top, first⟩ := Option.map_eq_some_iff.mp head
    rw [LogDir.Chain.activeLines_write active, head?_append, top]
    exact congrArg some first
  | archived w => exact knows
  | tailRead | listed | idle | waiting | holding | wrote | sized => exact Nat.le_trans knows later
  | _ => exact trivial

theorem OrderedBy.write (ordered : s.OrderedBy bs) {lines : List LogEntry}
    (here : s.calls j = .numbered file seq lines) :
    OrderedBy ⟨s.shared.write file lines, update s.calls j (.wrote file seq)⟩ bs := by
  obtain ⟨active, texts, rfl, rfl⟩ := ordered.known here
  have higher : ∀ e ∈ numberFrom (lastSeq s.shared.written) texts,
      lastSeq s.shared.written < e.seq := fun e mem => numberFrom_higher mem
  have increasing := numberFrom_increasing (lastSeq s.shared.written) texts
  have still : ∀ k, (s.calls k).between = false := by
    intro k
    refine ordered.exclusive.apart j k ?_
    rw [here]
    rfl
  have alone : ∀ k, k ≠ j → (s.calls k).numbers = false := by
    intro k other
    by_contra numbers
    refine other ?_
    cases there : s.calls k with
    | numbered file' seq' lines' =>
      have same : file' = file := Option.some.inj ((ordered.known there).1.symm.trans active)
      refine ordered.exclusive.holder k j file ?_ ?_
      · rw [there, same]
        rfl
      · rw [here]
        rfl
    | _ =>
      rw [there] at numbers
      exact absurd rfl numbers
  refine ⟨ordered.chain.write active higher increasing, ?_, ?_, ?_⟩
  · exact ordered.exclusive.keep here rfl (fun yes => by cases yes) (fun yes => by cases yes)
      (fun yes => by cases yes) fun _ => rfl
  · refine knows_update ?_ fun k other =>
      (ordered.knows k).write higher increasing active (alone k other) (still k)
    exact Nat.le_of_eq (lastSeq_append_numberFrom _ _).symm
  · intro empty
    have appended : (s.shared.write file (numberFrom (lastSeq s.shared.written) texts)).activeLines =
        s.shared.activeLines ++ _ := LogDir.Chain.activeLines_write active
    obtain ⟨old, new⟩ := append_eq_nil_iff.mp (appended.symm.trans empty)
    rcases ordered.filled old with none | ⟨k, moving⟩
    · refine .inl ?_
      show s.shared.written ++ _ = []
      rw [none, nil_append]
      rw [none] at new
      exact new
    · exact absurd moving (by simp [still k])

theorem OrderedBy.rename (ordered : s.OrderedBy bs) {i : Nat}
    (here : s.calls j = .scanned file seq w) (active : s.shared.active = some i)
    (current : s.shared.readLatestActiveSeq ≤ seq) (quiet : ∀ k, (s.calls k).numbers = false) :
    OrderedBy ⟨s.shared.rename i w, update s.calls j (.renamed seq w)⟩
      (bs ++ [(w, i)]) := by
  obtain ⟨cached, head, last⟩ := ordered.known here
  have alone : ∀ k, k ≠ j → (s.calls k).rotates = false := by
    intro k other
    by_contra rotates
    refine other (ordered.exclusive.rotation k j (by simpa using rotates) ?_)
    rw [here]
    rfl
  have filled : s.shared.activeLines ≠ [] := by
    intro empty
    rw [empty] at head
    cases head
  have latest : seq = lastSeq s.shared.written := by
    rw [ordered.chain.tail_eq filled] at current
    omega
  refine ⟨ordered.chain.rename active head last, ?_, ?_, ?_⟩
  · exact ordered.exclusive.keep here rfl (fun _ => .inl rfl)
      (fun yes => by cases yes) (fun _ => .inr quiet)
      (fun yes => by cases yes)
  · refine knows_update ⟨latest, rfl⟩ fun k other => ?_
    have waits := quiet k
    have resting := alone k other
    cases there : s.calls k with
    | numbered =>
      rw [there] at waits
      cases waits
    | scanned | renamed | reopened | anchored =>
      rw [there] at resting
      cases resting
    | _ => exact ordered.known there
  · refine fun _ => .inr ⟨j, ?_⟩
    show (update s.calls j (.renamed seq w) j).between = true
    rw [update_self]
    rfl

theorem OrderedBy.anchor (ordered : s.OrderedBy bs) {e : LogEntry}
    (here : s.calls j = .anchored file seq w e) :
    OrderedBy ⟨(s.shared.write file [e]).enqueue w,
      update s.calls j (.idle file seq)⟩ bs := by
  obtain ⟨rfl, active, _, number⟩ := ordered.known here
  have higher : ∀ x ∈ [e], lastSeq s.shared.written < x.seq := by
    intro x mem
    rw [mem_singleton.mp mem, number]
    exact Nat.lt_succ_self _
  have increasing : Increasing [e] := pairwise_singleton _ _
  have mine : (s.calls j).between = true := by
    rw [here]
    rfl
  have rotates : ∀ k, (s.calls k).between = true → (s.calls k).rotates = true := by
    intro k moving
    cases there : s.calls k with
    | scanned => rfl
    | _ =>
      rw [there] at moving
      exact moving
  have still : ∀ k, k ≠ j → (s.calls k).between = false := by
    intro k other
    by_contra moving
    have moves : (s.calls k).between = true := by simpa using moving
    exact other (ordered.exclusive.rotation k j (rotates k moves) (rotates j mine))
  have quiet : ∀ k, (s.calls k).numbers = false := by
    intro k
    by_contra numbers
    have apart := ordered.exclusive.apart k j (by simpa using numbers)
    exact absurd mine (by simp [apart])
  have written := ordered.chain.write active higher increasing
  refine ⟨written.same_lines (written.blocks.enqueue w) rfl rfl rfl rfl, ?_, ?_, ?_⟩
  · exact ordered.exclusive.keep here rfl (fun yes => by cases yes) (fun yes => by cases yes)
      (fun yes => by cases yes) fun _ => rfl
  · refine knows_update ?_ fun k other => ?_
    · show lastSeq s.shared.written + 1 ≤ lastSeq (s.shared.written ++ [e])
      rw [lastSeq_append_singleton, number]
    · exact ((ordered.knows k).write higher increasing active (quiet k) (still k other)).alike
        ⟨fun _ h => h, rfl, rfl, fun _ h => h⟩
  · intro empty
    have appended : (s.shared.write file [e]).activeLines = s.shared.activeLines ++ [e] :=
      LogDir.Chain.activeLines_write active
    exact absurd (appended.symm.trans empty) (by simp)

end EventLog

end GasCity
