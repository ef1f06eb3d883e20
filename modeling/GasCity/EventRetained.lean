import GasCity.EventBlocks

namespace GasCity

open Function KeyedList List

def LogThread.owns : LogThread → Option Window
  | .renamed _ w | .reopened _ _ w | .anchored _ _ w _ | .copying w | .copied w | .archived w =>
    some w
  | _ => none

def LogThread.pastCopy : LogThread → Bool
  | .copied _ | .archived _ => true
  | _ => false

structure Custody (pending : List Window) (calls : Nat → LogThread) : Prop where
  nodup : pending.Nodup
  free : ∀ w ∈ pending, ∀ j, (calls j).owns ≠ some w
  unique : ∀ j k w, (calls j).owns = some w → (calls k).owns = some w → j = k

/-- A rotated file waits for its compression or has a thread that takes care of it. -/
def Held (pending : List Window) (calls : Nat → LogThread) (w : Window) : Prop :=
  w ∈ pending ∨ ∃ j, (calls j).owns = some w

namespace Custody

variable {pending : List Window} {calls : Nat → LogThread} {j : Nat} {t : LogThread} {w v : Window}

theorem owns_update (calls : Nat → LogThread) (j k : Nat) (t : LogThread) :
    (update calls j t k).owns = if k = j then t.owns else (calls k).owns := by
  by_cases same : k = j
  · rw [same, update_self, if_pos rfl]
  · rw [update_of_ne same, if_neg same]

variable (custody : Custody pending calls)

include custody

theorem keep (same : t.owns = (calls j).owns) :
    Custody pending (update calls j t) ∧
      ∀ v, Held pending (update calls j t) v ↔ Held pending calls v := by
  have owns : ∀ k, (update calls j t k).owns = (calls k).owns := by
    intro k
    rw [owns_update]
    split
    next here => rw [here, same]
    next => rfl
  refine ⟨⟨custody.nodup, ?_, ?_⟩, fun v => ?_⟩
  · intro w mem k
    rw [owns]
    exact custody.free w mem k
  · intro k l w
    rw [owns, owns]
    exact custody.unique k l w
  · unfold Held
    simp only [owns]

theorem finish (mine : (calls j).owns = some w)
    (done : t.owns = none) :
    Custody pending (update calls j t) ∧
      ∀ v, Held pending (update calls j t) v ↔ Held pending calls v ∧ v ≠ w := by
  have owns : ∀ k v, (update calls j t k).owns = some v ↔
      (calls k).owns = some v ∧ v ≠ w := by
    intro k v
    rw [owns_update]
    split
    next here =>
      rw [done, here, mine]
      simp only [reduceCtorEq, Option.some.injEq, false_iff, not_and, not_not]
      exact fun same => same.symm
    next other =>
      refine ⟨fun here => ⟨here, ?_⟩, fun both => both.1⟩
      rintro rfl
      exact other (custody.unique k j v here mine)
  refine ⟨⟨custody.nodup, ?_, ?_⟩, fun v => ?_⟩
  · intro v mem k here
    exact custody.free v mem k ((owns k v).mp here).1
  · intro k l v one two
    exact custody.unique k l v ((owns k v).mp one).1 ((owns l v).mp two).1
  · constructor
    · rintro (mem | ⟨k, here⟩)
      · refine ⟨.inl mem, ?_⟩
        rintro rfl
        exact custody.free v mem j mine
      · obtain ⟨there, other⟩ := (owns k v).mp here
        exact ⟨.inr ⟨k, there⟩, other⟩
    · rintro ⟨mem | ⟨k, here⟩, other⟩
      · exact .inl mem
      · exact .inr ⟨k, (owns k v).mpr ⟨here, other⟩⟩

theorem gain (new : ¬ Held pending calls w)
    (none : (calls j).owns = Option.none) (mine : t.owns = some w) :
    Custody pending (update calls j t) ∧
      ∀ v, Held pending (update calls j t) v ↔ Held pending calls v ∨ v = w := by
  have owns : ∀ k v, (update calls j t k).owns = some v ↔
      (calls k).owns = some v ∨ k = j ∧ v = w := by
    intro k v
    rw [owns_update]
    split
    next here =>
      rw [mine, here, none]
      simp [eq_comm]
    next other => simp [other]
  refine ⟨⟨custody.nodup, ?_, ?_⟩, fun v => ?_⟩
  · intro v mem k here
    rcases (owns k v).mp here with old | ⟨_, rfl⟩
    · exact custody.free v mem k old
    · exact new (.inl mem)
  · intro k l v one two
    rcases (owns k v).mp one with old | ⟨rfl, rfl⟩
    · rcases (owns l v).mp two with old' | ⟨rfl, rfl⟩
      · exact custody.unique k l v old old'
      · exact absurd (.inr ⟨k, old⟩) new
    · rcases (owns l v).mp two with old' | ⟨rfl, _⟩
      · exact absurd (.inr ⟨l, old'⟩) new
      · rfl
  · constructor
    · rintro (mem | ⟨k, here⟩)
      · exact .inl (.inl mem)
      · rcases (owns k v).mp here with old | ⟨_, same⟩
        · exact .inl (.inr ⟨k, old⟩)
        · exact .inr same
    · rintro ((mem | ⟨k, here⟩) | same)
      · exact .inl mem
      · exact .inr ⟨k, (owns k v).mpr (.inl here)⟩
      · exact .inr ⟨j, (owns j v).mpr (.inr ⟨rfl, same⟩)⟩

theorem hand (mine : (calls j).owns = some w)
    (done : t.owns = none) :
    Custody (w :: pending) (update calls j t) ∧
      ∀ v, Held (w :: pending) (update calls j t) v ↔ Held pending calls v := by
  obtain ⟨left, held⟩ := custody.finish mine done
  have absent : ¬ Held pending (update calls j t) w := fun h => ((held w).mp h).2 rfl
  refine ⟨⟨?_, ?_, left.unique⟩, fun v => ?_⟩
  · exact nodup_cons.mpr ⟨fun mem => absent (.inl mem), left.nodup⟩
  · intro v mem k here
    rcases mem_cons.mp mem with rfl | old
    · exact absent (.inr ⟨k, here⟩)
    · exact left.free v old k here
  · have split : Held (w :: pending) (update calls j t) v ↔
        v = w ∨ Held pending (update calls j t) v := by
      unfold Held
      rw [mem_cons, or_assoc]
    rw [split, held]
    by_cases same : v = w
    · rw [same]
      exact ⟨fun _ => .inr ⟨j, mine⟩, fun _ => .inl rfl⟩
    · simp [same]

theorem take (mem : w ∈ pending)
    (none : (calls j).owns = Option.none) (mine : t.owns = some w) :
    Custody (pending.erase w) (update calls j t) ∧
      ∀ v, Held (pending.erase w) (update calls j t) v ↔ Held pending calls v := by
  have fewer : Custody (pending.erase w) calls :=
    ⟨custody.nodup.erase w, fun v mem => custody.free v (mem_of_mem_erase mem), custody.unique⟩
  have new : ¬ Held (pending.erase w) calls w := by
    rintro (mem' | ⟨k, here⟩)
    · exact (List.Nodup.not_mem_erase custody.nodup) mem'
    · exact custody.free w mem k here
  obtain ⟨taken, held⟩ := fewer.gain new none mine
  refine ⟨taken, fun v => (held v).trans ?_⟩
  unfold Held
  by_cases same : v = w
  · rw [same]
    exact ⟨fun _ => .inl mem, fun _ => .inr rfl⟩
  · simp [same]

end Custody

namespace LogDir

variable {d : LogDir} {i : Nat} {w : Window}

/-- The file is the active log, or a rotated one that no compression has read. -/
def OpenTo (d : LogDir) (i : Nat) : Prop :=
  d.active = some i ∨
    ∃ f ∈ d.rotating.rows, f.2 = i ∧ d.archives.find f.1 = none ∧ d.partials.find f.1 = none

/-- Every line that was written is in a block or in the active log, once. -/
def Stored (d : LogDir) : Prop :=
  ∃ bs, Blocks d bs ∧
    d.written.Perm (bs.flatMap (fun b => d.contents b.2) ++ d.activeLines)

theorem activeLines_eq (active : d.active = some i) : d.activeLines = d.contents i := by
  unfold activeLines
  rw [active]
  rfl

theorem flatMap_update_perm {bs : List (Window × Nat)} (distinct : (bs.map fun b => b.2).Nodup)
    (mem : (w, i) ∈ bs) (contents : Nat → List LogEntry) (lines : List LogEntry) :
    (bs.flatMap fun b => update contents i (contents i ++ lines) b.2).Perm
      ((bs.flatMap fun b => contents b.2) ++ lines) := by
  obtain ⟨before, after, rfl⟩ := append_of_mem mem
  rw [map_append, map_cons] at distinct
  have old : ∀ b ∈ before, b.2 ≠ i := by
    intro b there same
    exact (nodup_append.mp distinct).2.2 b.2 (mem_map_of_mem there) i
      mem_cons_self same
  have young : ∀ b ∈ after, b.2 ≠ i := by
    intro b there same
    exact (nodup_cons.mp (nodup_append.mp distinct).2.1).1
      (mem_map.mpr ⟨b, there, same⟩)
  have keep : ∀ l : List (Window × Nat), (∀ b ∈ l, b.2 ≠ i) →
      (l.flatMap fun b => update contents i (contents i ++ lines) b.2) =
        l.flatMap fun b => contents b.2 := by
    intro l other
    refine flatMap_congr fun b there => ?_
    exact update_of_ne (other b there) _ _
  simp only [flatMap_append, flatMap_cons, keep before old, keep after young,
    update_self, append_assoc]
  refine List.Perm.append_left _ (List.Perm.append_left _ ?_)
  exact perm_append_comm

theorem Stored.write (stored : d.Stored) (openTo : d.OpenTo i) (lines : List LogEntry) :
    (d.write i lines).Stored := by
  obtain ⟨bs, blocks, perm⟩ := stored
  rcases openTo with active | ⟨f, row, inode, unarchived, uncopied⟩
  · refine ⟨bs, blocks.write_active active lines, ?_⟩
    have same : (bs.flatMap fun b => (d.write i lines).contents b.2) =
        bs.flatMap fun b => d.contents b.2 := by
      refine flatMap_congr fun b mem => update_of_ne ?_ _ _
      exact fun here => blocks.apart b mem (here ▸ active)
    have lines' : (d.write i lines).activeLines = d.activeLines ++ lines := by
      rw [activeLines_eq active, activeLines_eq (d := d.write i lines) active]
      exact update_self _ _ _
    rw [same, lines', ← append_assoc]
    exact perm.append_right lines
  · have mem : (f.1, i) ∈ bs := by
      rw [← inode]
      exact blocks.inflight f row
    refine ⟨bs, blocks.write lines ?_, ?_⟩
    · intro b there same
      have name : b.1 = f.1 := by
        refine blocks.name_unique (i := i) ?_ mem
        rw [← same]
        exact there
      rw [name]
      exact ⟨unarchived, uncopied⟩
    · have lines' : (d.write i lines).activeLines = d.activeLines := by
        cases active : d.active with
        | none =>
          unfold activeLines
          rw [active, show (d.write i lines).active = none from active]
          rfl
        | some j =>
          rw [activeLines_eq active, activeLines_eq (d := d.write i lines) active]
          refine update_of_ne ?_ _ _
          rintro rfl
          exact blocks.apart _ mem active
      rw [lines']
      refine (perm.append_right lines).trans ?_
      refine List.Perm.trans ?_
        ((flatMap_update_perm blocks.distinct mem d.contents lines).symm.append_right _)
      rw [append_assoc, append_assoc]
      exact List.Perm.append_left _ perm_append_comm

theorem Stored.openActive (stored : d.Stored) : d.openActive.2.Stored := by
  obtain ⟨bs, blocks, perm⟩ := stored
  refine ⟨bs, blocks.openActive, ?_⟩
  unfold LogDir.openActive
  cases active : d.active with
  | some i => exact perm
  | none =>
    have same : (bs.flatMap fun b => update d.contents d.inodes [] b.2) =
        bs.flatMap fun b => d.contents b.2 := by
      refine flatMap_congr fun b mem => update_of_ne ?_ _ _
      exact Nat.ne_of_lt (blocks.used b mem)
    have empty : d.activeLines = [] := by
      unfold activeLines
      rw [active]
      rfl
    rw [empty] at perm
    simp only [activeLines, Option.map_some, Option.getD_some, update_self]
    rw [same]
    exact perm

theorem Stored.rename (stored : d.Stored) (active : d.active = some i)
    (unused : d.rotating.find w = none ∧ d.archives.find w = none) : (d.rename i w).Stored := by
  obtain ⟨bs, blocks, perm⟩ := stored
  refine ⟨bs ++ [(w, i)], blocks.rename active ?_, ?_⟩
  · rintro b mem rfl
    rcases blocks.stored b mem with archived | found
    · rw [unused.2] at archived
      cases archived
    · rw [unused.1] at found
      cases found
  · rw [activeLines_eq active] at perm
    have empty : (d.rename i w).activeLines = [] := rfl
    rw [empty, append_nil, flatMap_append, flatMap_singleton]
    exact perm

end LogDir

def LogChoice.sweeps : LogChoice → Bool
  | .sweep _ | .discard _ => true
  | _ => false

namespace EventLog

variable {s : EventLog} {j : Nat} {t : LogThread} {d : LogDir} {w : Window}

/-- No write goes to a file that its compression has read, and no file is renamed to a name that is
taken. -/
def Gentle (s : EventLog) (e : Nat × LogChoice) : Prop :=
  match s.calls e.1 with
  | .numbered file _ _ | .anchored file _ _ _ => s.shared.OpenTo file
  | .scanned _ _ w => s.shared.rotating.find w = none ∧ s.shared.archives.find w = none
  | _ => True

/-- Every line that was written is stored once, and every rotated file is taken care of. -/
structure Retained (s : EventLog) : Prop where
  stored : s.shared.Stored
  custody : Custody s.shared.pending s.calls
  covered : ∀ f ∈ s.shared.rotating.rows, Held s.shared.pending s.calls f.1
  present : ∀ w, Held s.shared.pending s.calls w →
    (s.shared.rotating.find w).isSome ∨ (s.shared.archives.find w).isSome
  copied : ∀ j w, s.calls j = .copied w → (s.shared.partials.find w).isSome
  archived : ∀ j w, s.calls j = .archived w → (s.shared.archives.find w).isSome

variable {x : LogThread}

theorem old_of_update {calls : Nat → LogThread} {k : Nat} (there : update calls j t k = x)
    (new : t ≠ x) : k ≠ j ∧ calls k = x := by
  by_cases same : k = j
  · rw [same, update_self] at there
    exact absurd there new
  · exact ⟨same, (update_of_ne same t calls).symm.trans there⟩

variable (kept : s.Retained)

include kept

theorem Retained.of_held (stored : d.Stored)
    (rotating : d.rotating = s.shared.rotating) (partials : d.partials = s.shared.partials)
    (archives : d.archives = s.shared.archives)
    (cared : Custody d.pending (update s.calls j t) ∧
      ∀ v, Held d.pending (update s.calls j t) v ↔ Held s.shared.pending s.calls v)
    (early : t.pastCopy = false) : Retained ⟨d, update s.calls j t⟩ := by
  obtain ⟨custody, held⟩ := cared
  refine ⟨stored, custody, fun f mem => (held _).mpr (kept.covered f (rotating ▸ mem)), ?_, ?_, ?_⟩
  · intro w here
    rw [rotating, archives]
    exact kept.present w ((held w).mp here)
  · intro k w here
    rw [partials]
    refine kept.copied k w (old_of_update here ?_).2
    rintro rfl
    cases early
  · intro k w here
    rw [archives]
    refine kept.archived k w (old_of_update here ?_).2
    rintro rfl
    cases early

theorem Retained.same_files (stored : d.Stored)
    (rotating : d.rotating = s.shared.rotating) (partials : d.partials = s.shared.partials)
    (archives : d.archives = s.shared.archives) (pending : d.pending = s.shared.pending)
    (here : s.calls j = x) (owns : t.owns = x.owns) (early : t.pastCopy = false) :
    Retained ⟨d, update s.calls j t⟩ := by
  refine kept.of_held stored rotating partials archives ?_ early
  rw [pending]
  exact kept.custody.keep (owns.trans (congrArg LogThread.owns here.symm))

theorem Retained.idle (here : s.calls j = x) (owns : t.owns = x.owns)
    (early : t.pastCopy = false) :
    Retained ⟨s.shared, update s.calls j t⟩ :=
  kept.same_files kept.stored rfl rfl rfl rfl here owns early

theorem Retained.rename {file seq i : Nat}
    (here : s.calls j = .scanned file seq w) (active : s.shared.active = some i)
    (unused : s.shared.rotating.find w = none ∧ s.shared.archives.find w = none) :
    Retained ⟨s.shared.rename i w, update s.calls j (.renamed seq w)⟩ := by
  have new : ¬ Held s.shared.pending s.calls w := by
    intro held
    rcases kept.present w held with there | there
    · rw [unused.1] at there
      cases there
    · rw [unused.2] at there
      cases there
  obtain ⟨custody, held⟩ := kept.custody.gain (t := .renamed seq w) new (by rw [here]; rfl) rfl
  have find : ∀ v, (s.shared.rename i w).rotating.find v =
      if v = w then some (w, i) else s.shared.rotating.find v := fun v =>
    find_set s.shared.rotating (w, i) v
  refine ⟨kept.stored.rename active unused, custody, ?_, ?_, ?_, ?_⟩
  · intro f mem
    rcases mem_cons.mp mem with rfl | old
    · exact (held _).mpr (.inr rfl)
    · exact (held _).mpr (.inl (kept.covered f (mem_of_mem_filter old)))
  · intro v there
    rw [find]
    split
    next => exact .inl rfl
    next other => exact kept.present v (((held v).mp there).resolve_right other)
  · exact fun k v there => kept.copied k v (old_of_update there (by simp)).2
  · exact fun k v there => kept.archived k v (old_of_update there (by simp)).2

theorem Retained.anchor {file seq : Nat} {e : LogEntry}
    (here : s.calls j = .anchored file seq w e) (openTo : s.shared.OpenTo file) :
    Retained ⟨(s.shared.write file [e]).enqueue w,
      update s.calls j (.idle file seq)⟩ := by
  have stored : ((s.shared.write file [e]).enqueue w).Stored := by
    obtain ⟨bs, blocks, perm⟩ := kept.stored.write openTo [e]
    exact ⟨bs, blocks.enqueue w, perm⟩
  exact kept.of_held stored rfl rfl rfl (kept.custody.hand (by rw [here]; rfl) rfl) rfl

theorem Retained.take (here : s.calls j = .resting)
    (mem : w ∈ s.shared.pending) :
    Retained ⟨s.shared.dequeue w, update s.calls j (.copying w)⟩ := by
  obtain ⟨bs, blocks, perm⟩ := kept.stored
  exact kept.of_held ⟨bs, blocks.dequeue w, perm⟩ rfl rfl rfl
    (kept.custody.take mem (by rw [here]; rfl) rfl) rfl

theorem Retained.copy {i : Nat} (here : s.calls j = .copying w)
    (found : s.shared.rotating.find w = some (w, i)) (missing : s.shared.archives.find w = none) :
    Retained ⟨s.shared.copy i w, update s.calls j (.copied w)⟩ := by
  obtain ⟨custody, held⟩ := kept.custody.keep (j := j) (t := .copied w) (by rw [here]; rfl)
  obtain ⟨bs, blocks, perm⟩ := kept.stored
  have there := blocks.inflight _ (mem_of_find found)
  refine ⟨⟨bs, blocks.copy there missing, perm⟩, custody,
    fun f mem => (held _).mpr (kept.covered f mem),
    fun v there => kept.present v ((held v).mp there), ?_, ?_⟩
  · intro k v there
    show ((s.shared.partials.set (w, s.shared.contents i)).find v).isSome
    rw [find_set]
    split
    next => rfl
    next other =>
      refine kept.copied k v (old_of_update there ?_).2
      exact fun same => other (LogThread.copied.inj same).symm
  · exact fun k v there => kept.archived k v (old_of_update there (by simp)).2

theorem Retained.archive {lines : List LogEntry}
    (here : s.calls j = .copied w) (found : s.shared.partials.find w = some (w, lines)) :
    Retained ⟨s.shared.archive w lines, update s.calls j (.archived w)⟩ := by
  have mine : (s.calls j).owns = some w := by
    rw [here]
    rfl
  obtain ⟨custody, held⟩ := kept.custody.keep (j := j) (t := .archived w) mine.symm
  obtain ⟨bs, blocks, perm⟩ := kept.stored
  have find : ∀ v, (s.shared.archive w lines).archives.find v =
      if v = w then some (w, lines) else s.shared.archives.find v := fun v =>
    find_set s.shared.archives (w, lines) v
  refine ⟨⟨bs, blocks.archive (mem_of_find found), perm⟩, custody,
    fun f mem => (held _).mpr (kept.covered f mem), ?_, ?_, ?_⟩
  · intro v there
    rw [find]
    split
    next => exact .inr rfl
    next => exact kept.present v ((held v).mp there)
  · intro k v there
    obtain ⟨other, old⟩ := old_of_update there (by simp)
    have apart : v ≠ w := by
      rintro rfl
      exact other (kept.custody.unique k j v (by rw [old]; rfl) mine)
    show ((s.shared.partials.erase w).find v).isSome
    rw [find_erase, if_neg apart]
    exact kept.copied k v old
  · intro k v there
    rw [find]
    split
    next => rfl
    next other =>
      refine kept.archived k v (old_of_update there ?_).2
      exact fun same => other (LogThread.archived.inj same).symm

theorem Retained.remove (mine : (s.calls j).owns = some w)
    (archived : (s.shared.archives.find w).isSome) :
    Retained ⟨s.shared.remove w, update s.calls j .resting⟩ := by
  obtain ⟨custody, held⟩ := kept.custody.finish (t := .resting) mine rfl
  obtain ⟨bs, blocks, perm⟩ := kept.stored
  refine ⟨⟨bs, blocks.remove archived, perm⟩, custody, ?_, ?_, ?_, ?_⟩
  · intro f mem
    obtain ⟨old, other⟩ := mem_filter.mp mem
    exact (held _).mpr ⟨kept.covered f old, of_decide_eq_true other⟩
  · intro v there
    obtain ⟨old, other⟩ := (held v).mp there
    show ((s.shared.rotating.erase w).find v).isSome ∨ (s.shared.archives.find v).isSome
    rw [find_erase, if_neg other]
    exact kept.present v old
  · exact fun k v there => kept.copied k v (old_of_update there (by simp)).2
  · exact fun k v there => kept.archived k v (old_of_update there (by simp)).2

theorem Retained.abandon (mine : (s.calls j).owns = some w)
    (gone : s.shared.rotating.find w = none) :
    Retained ⟨s.shared, update s.calls j .resting⟩ := by
  obtain ⟨custody, held⟩ := kept.custody.finish (t := .resting) mine rfl
  refine ⟨kept.stored, custody, ?_, fun v there => kept.present v ((held v).mp there).1, ?_, ?_⟩
  · intro f mem
    refine (held _).mpr ⟨kept.covered f mem, ?_⟩
    rintro rfl
    rw [find_key_of_mem mem] at gone
    cases gone
  · exact fun k v there => kept.copied k v (old_of_update there (by simp)).2
  · exact fun k v there => kept.archived k v (old_of_update there (by simp)).2

end EventLog

end GasCity
