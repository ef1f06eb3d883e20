import GasCity.EventBlocks

namespace GasCity

open Function KeyedList List

section Lines

variable {lines more : List LogEntry} {e : LogEntry} {n : Nat} {texts : List String}

def Increasing (lines : List LogEntry) : Prop := lines.Pairwise fun a b => a.seq < b.seq

theorem lastSeq_append (nonempty : more ≠ []) : lastSeq (lines ++ more) = lastSeq more := by
  unfold lastSeq
  rw [getLast?_append_of_ne_nil _ nonempty]

theorem lastSeq_append_singleton : lastSeq (lines ++ [e]) = e.seq := by
  rw [lastSeq_append (by simp)]
  rfl

theorem Increasing.le_lastSeq (increasing : Increasing lines) (mem : e ∈ lines) :
    e.seq ≤ lastSeq lines := by
  rcases eq_nil_or_concat lines with rfl | ⟨before, last, rfl⟩
  · cases mem
  · rw [concat_eq_append] at increasing mem ⊢
    rw [lastSeq_append_singleton]
    rcases mem_append.mp mem with old | new
    · exact Nat.le_of_lt ((pairwise_append.mp increasing).2.2 e old last mem_cons_self)
    · rw [mem_singleton.mp new]

theorem Increasing.append (increasing : Increasing lines) (after : Increasing more)
    (higher : ∀ e ∈ more, lastSeq lines < e.seq) : Increasing (lines ++ more) := by
  refine pairwise_append.mpr ⟨increasing, after, fun a old b new => ?_⟩
  exact Nat.lt_of_le_of_lt (increasing.le_lastSeq old) (higher b new)

theorem numberFrom_higher (mem : e ∈ numberFrom n texts) : n < e.seq := by
  induction texts generalizing n with
  | nil => cases mem
  | cons text texts ih =>
    rcases mem_cons.mp mem with rfl | rest
    · exact Nat.lt_succ_self n
    · have := ih rest
      omega

theorem numberFrom_increasing (n : Nat) (texts : List String) :
    Increasing (numberFrom n texts) := by
  induction texts generalizing n with
  | nil => exact List.Pairwise.nil
  | cons text texts ih =>
    exact pairwise_cons.mpr ⟨fun e mem => numberFrom_higher mem, ih (n + 1)⟩

theorem lastSeq_append_numberFrom (lines : List LogEntry) (texts : List String) :
    lastSeq (lines ++ numberFrom (lastSeq lines) texts) = lastSeq lines + texts.length := by
  induction texts generalizing lines with
  | nil => simp [numberFrom]
  | cons text texts ih =>
    have one : lastSeq (lines ++ [⟨lastSeq lines + 1, text⟩]) = lastSeq lines + 1 :=
      lastSeq_append_singleton
    have rest := ih (lines ++ [⟨lastSeq lines + 1, text⟩])
    rw [one, append_assoc] at rest
    show lastSeq (lines ++ ([_] ++ numberFrom (lastSeq lines + 1) texts)) = _
    rw [length_cons]
    omega

end Lines

theorem filter_append_filter_not {α : Type} {p : α → Bool} {l : List α}
    (first : l.Pairwise fun a b => p b = true → p a = true) :
    l.filter p ++ l.filter (fun a => !p a) = l := by
  induction l with
  | nil => rfl
  | cons a l ih =>
    obtain ⟨here, rest⟩ := pairwise_cons.mp first
    by_cases yes : p a = true
    · rw [filter_cons_of_pos yes, filter_cons_of_neg (by simp [yes]), cons_append,
        ih rest]
    · have none : l.filter p = [] := by
        refine filter_eq_nil_iff.mpr fun b mem holds => yes (here b mem holds)
      have all := ih rest
      rw [none, nil_append] at all
      rw [filter_cons_of_neg yes, none, filter_cons_of_pos (by simp [yes]), all]
      rfl

namespace LogDir

variable {d : LogDir} {bs : List (Window × Nat)} {w : Window} {i : Nat}

/-- The blocks, oldest first, and the active log hold the lines in the order they were written,
with increasing sequence numbers, and the archived blocks are the oldest. -/
structure Chain (d : LogDir) (bs : List (Window × Nat)) : Prop where
  blocks : Blocks d bs
  whole : d.written = bs.flatMap (fun b => d.contents b.2) ++ d.activeLines
  increasing : Increasing d.written
  heads : ∀ b ∈ bs, ((d.contents b.2).head?.map fun e => e.seq) = some b.1.first
  lasts : ∀ b ∈ bs, b.1.last ≤ lastSeq d.written
  oldest : bs.Pairwise fun a b => (d.archives.find b.1).isSome → (d.archives.find a.1).isSome

namespace Chain

theorem head_mem (chain : Chain d bs) {b : Window × Nat} (mem : b ∈ bs) :
    ∃ e ∈ d.contents b.2, e.seq = b.1.first := by
  obtain ⟨e, head, first⟩ := Option.map_eq_some_iff.mp (chain.heads b mem)
  exact ⟨e, mem_of_head? head, first⟩

theorem firsts (chain : Chain d bs) : bs.Pairwise fun a b => a.1.first < b.1.first := by
  have increasing := chain.increasing
  rw [chain.whole] at increasing
  have blocks := (pairwise_flatMap.mp (pairwise_append.mp increasing).1).2
  refine List.Pairwise.imp_of_mem ?_ blocks
  intro a b there there' before
  obtain ⟨x, mem, first⟩ := chain.head_mem there
  obtain ⟨y, mem', first'⟩ := chain.head_mem there'
  rw [← first, ← first']
  exact before x mem y mem'

theorem inOrder_eq {α : Type} {files sorted : List (Window × α)} (perm : files.Perm sorted)
    (increasing : sorted.Pairwise fun a b => a.1.first < b.1.first) : inOrder files = sorted := by
  have same : (inOrder files).Perm sorted := (perm_insertionSort _ _).trans perm
  have ordered : sorted.Pairwise fun a b => a.1.first ≤ b.1.first :=
    increasing.imp fun h => Nat.le_of_lt h
  refine List.Perm.eq_of_pairwise ?_ ?_ ordered same
  · intro a b mem mem' one two
    have firsts : Set.InjOn (fun f : Window × α => f.1.first) { f | f ∈ sorted } := by
      have nodup : (sorted.map fun f => f.1.first).Nodup :=
        (pairwise_map.mpr increasing).imp fun h => Nat.ne_of_lt h
      exact fun x hx y hy h => inj_on_of_nodup_map nodup hx hy h
    exact firsts (same.mem_iff.mp mem) mem' (Nat.le_antisymm one two)
  · have total : Std.Total (fun a b : Window × α => a.1.first ≤ b.1.first) :=
      ⟨fun a b => Nat.le_total _ _⟩
    exact pairwise_insertionSort _ files

theorem reading_eq (chain : Chain d bs) : d.reading = d.written := by
  have split := filter_append_filter_not (p := fun b : Window × Nat => (d.archives.find b.1).isSome)
    chain.oldest
  have archives := inOrder_eq chain.blocks.archives_perm (by
    rw [pairwise_map]
    exact chain.firsts.filter _)
  have inflight := inOrder_eq chain.blocks.unarchived_perm (chain.firsts.filter _)
  have flags : (fun b : Window × Nat => (d.archives.find b.1).isNone) =
      fun b => !(d.archives.find b.1).isSome := by
    funext b
    cases d.archives.find b.1 <;> rfl
  unfold reading
  rw [archives, inflight, flags, chain.whole, flatMap_map]
  conv => rhs; rw [← split, flatMap_append]

theorem same_lines {d' : LogDir} (chain : Chain d bs) (blocks : Blocks d' bs)
    (contents : d'.contents = d.contents) (active : d'.active = d.active)
    (archives : d'.archives = d.archives) (written : d'.written = d.written) : Chain d' bs := by
  have lines : d'.activeLines = d.activeLines := by
    unfold activeLines
    rw [active, contents]
  refine ⟨blocks, ?_, ?_, ?_, ?_, ?_⟩
  · rw [written, contents, lines]
    exact chain.whole
  · rw [written]
    exact chain.increasing
  · rw [contents]
    exact chain.heads
  · rw [written]
    exact chain.lasts
  · rw [archives]
    exact chain.oldest

theorem le_lastSeq_write {lines : List LogEntry}
    (higher : ∀ e ∈ lines, lastSeq d.written < e.seq) (increasing : Increasing lines) :
    lastSeq d.written ≤ lastSeq (d.write i lines).written := by
  show lastSeq d.written ≤ lastSeq (d.written ++ lines)
  by_cases empty : lines = []
  · rw [empty, append_nil]
  · rw [lastSeq_append empty]
    obtain ⟨e, mem⟩ := exists_mem_of_ne_nil lines empty
    exact Nat.le_trans (Nat.le_of_lt (higher e mem)) (increasing.le_lastSeq mem)

theorem activeLines_write {lines : List LogEntry} (active : d.active = some i) :
    (d.write i lines).activeLines = d.activeLines ++ lines := by
  unfold activeLines
  rw [show (d.write i lines).active = some i from active, active]
  exact update_self _ _ _

theorem write (chain : Chain d bs) (active : d.active = some i) {lines : List LogEntry}
    (higher : ∀ e ∈ lines, lastSeq d.written < e.seq) (increasing : Increasing lines) :
    Chain (d.write i lines) bs := by
  have kept : ∀ b ∈ bs, (d.write i lines).contents b.2 = d.contents b.2 := by
    intro b mem
    refine update_of_ne ?_ _ _
    exact fun same => chain.blocks.apart b mem (same ▸ active)
  refine ⟨chain.blocks.write_active active lines, ?_, chain.increasing.append increasing higher,
    ?_, ?_, chain.oldest⟩
  · rw [activeLines_write active, flatMap_congr kept, ← append_assoc, ← chain.whole]
    rfl
  · intro b mem
    rw [kept b mem]
    exact chain.heads b mem
  · intro b mem
    exact Nat.le_trans (chain.lasts b mem) (le_lastSeq_write higher increasing)

theorem activeLines_openActive : d.openActive.2.activeLines = d.activeLines := by
  unfold LogDir.openActive
  cases active : d.active with
  | some i => rfl
  | none =>
    have old : d.activeLines = [] := by
      unfold activeLines
      rw [active]
      rfl
    rw [old]
    simp [activeLines]

theorem openActive (chain : Chain d bs) : Chain d.openActive.2 bs := by
  have kept : ∀ b ∈ bs, d.openActive.2.contents b.2 = d.contents b.2 := by
    intro b mem
    unfold LogDir.openActive
    split
    next => rfl
    next => exact update_of_ne (Nat.ne_of_lt (chain.blocks.used b mem)) _ _
  have rest : d.openActive.2.written = d.written ∧ d.openActive.2.archives = d.archives := by
    unfold LogDir.openActive
    split <;> exact ⟨rfl, rfl⟩
  refine ⟨chain.blocks.openActive, ?_, ?_, ?_, ?_, ?_⟩
  · rw [rest.1, activeLines_openActive, flatMap_congr kept]
    exact chain.whole
  · rw [rest.1]
    exact chain.increasing
  · intro b mem
    rw [kept b mem]
    exact chain.heads b mem
  · rw [rest.1]
    exact chain.lasts
  · rw [rest.2]
    exact chain.oldest

theorem before_active (chain : Chain d bs) {e : LogEntry} (mem : e ∈ d.activeLines)
    {b : Window × Nat} (there : b ∈ bs) : b.1.first < e.seq := by
  have increasing := chain.increasing
  rw [chain.whole] at increasing
  obtain ⟨x, old, first⟩ := chain.head_mem there
  rw [← first]
  exact (pairwise_append.mp increasing).2.2 x (mem_flatMap.mpr ⟨b, there, old⟩) e mem

theorem rename (chain : Chain d bs) (active : d.active = some i)
    (head : (d.activeLines.head?.map fun e => e.seq) = some w.first)
    (last : w.last ≤ lastSeq d.written) : Chain (d.rename i w) (bs ++ [(w, i)]) := by
  have lines : d.activeLines = d.contents i := by
    unfold activeLines
    rw [active]
    rfl
  obtain ⟨e, top, first⟩ := Option.map_eq_some_iff.mp head
  have unused : ∀ b ∈ bs, b.1 ≠ w := by
    rintro b mem rfl
    have := chain.before_active (mem_of_head? top) mem
    omega
  have missing : d.archives.find w = none := by
    refine find_eq_none_iff.mpr fun mem => ?_
    obtain ⟨f, row, name⟩ := mem_map.mp mem
    obtain ⟨j, there, _⟩ := chain.blocks.archived f row
    exact unused _ there name
  refine ⟨chain.blocks.rename active unused, ?_, chain.increasing, ?_, ?_, ?_⟩
  · show d.written = _ ++ []
    rw [append_nil, flatMap_append, flatMap_singleton, chain.whole, lines]
    rfl
  · intro b mem
    rcases mem_append.mp mem with old | new
    · exact chain.heads b old
    · rw [mem_singleton.mp new]
      show ((d.contents i).head?.map fun e => e.seq) = some w.first
      rw [← lines]
      exact head
  · intro b mem
    rcases mem_append.mp mem with old | new
    · exact chain.lasts b old
    · rw [mem_singleton.mp new]
      exact last
  · refine pairwise_append.mpr ⟨chain.oldest, pairwise_singleton _ _, ?_⟩
    intro a _ b new archived
    rw [mem_singleton.mp new] at archived
    exact absurd archived (by simp [LogDir.rename, missing])

theorem archive (chain : Chain d bs) {lines : List LogEntry} (mem : (w, lines) ∈ d.partials.rows)
    (oldest : ∀ f ∈ d.unarchived, w.first ≤ f.1.first) : Chain (d.archive w lines) bs := by
  have find : ∀ v, (d.archive w lines).archives.find v =
      if v = w then some (w, lines) else d.archives.find v := fun v =>
    find_set d.archives (w, lines) v
  refine { chain with blocks := chain.blocks.archive mem, oldest := ?_ }
  refine List.Pairwise.imp_of_mem ?_ (chain.oldest.and chain.firsts)
  rintro a b there _ ⟨old, before⟩ archived
  rw [find] at archived ⊢
  split
  next => rfl
  next other =>
    by_cases same : b.1 = w
    · rcases h : d.archives.find a.1 with _ | f
      · have row : a ∈ d.unarchived := by
          rcases chain.blocks.stored a there with yes | found
          · rw [h] at yes
            cases yes
          · exact mem_filter.mpr ⟨mem_of_find found, by rw [h]; rfl⟩
        have := oldest a row
        rw [same] at before
        omega
      · rfl
    · rw [if_neg same] at archived
      exact old archived

end Chain

end LogDir

end GasCity
