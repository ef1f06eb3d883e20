import Mathlib.Data.List.Sort
import GasCity.EventLog

namespace GasCity

open Function KeyedList List

namespace LogDir

variable {d : LogDir} {bs : List (Window × Nat)} {w : Window} {i : Nat}

def inOrder {α : Type} (files : List (Window × α)) : List (Window × α) :=
  files.insertionSort fun a b => a.1.first ≤ b.1.first

def readAll (d : LogDir) : List LogEntry :=
  (inOrder d.archives.rows).flatMap (fun f => f.2) ++ d.activeLines

def unarchived (d : LogDir) : List (Window × Nat) :=
  d.rotating.rows.filter fun f => (d.archives.find f.1).isNone

def reading (d : LogDir) : List LogEntry :=
  (inOrder d.archives.rows).flatMap (fun f => f.2) ++
    (inOrder d.unarchived).flatMap (fun f => d.contents f.2) ++ d.activeLines

/-- What has become of the rotated files: each of them, under its name and with its inode, is
archived with the lines of its inode or is still there, and a partial archive has its lines. -/
structure Blocks (d : LogDir) (bs : List (Window × Nat)) : Prop where
  names : (bs.map fun b => b.1).Nodup
  distinct : (bs.map fun b => b.2).Nodup
  used : ∀ b ∈ bs, b.2 < d.inodes
  here : ∀ i, d.active = some i → i < d.inodes
  apart : ∀ b ∈ bs, d.active ≠ some b.2
  archived : ∀ f ∈ d.archives.rows, ∃ i, (f.1, i) ∈ bs ∧ d.contents i = f.2
  inflight : ∀ f ∈ d.rotating.rows, f ∈ bs
  stored : ∀ b ∈ bs, (d.archives.find b.1).isSome ∨ d.rotating.find b.1 = some b
  partials : ∀ f ∈ d.partials.rows, d.archives.find f.1 = none ∧
    ∃ i, (f.1, i) ∈ bs ∧ d.contents i = f.2

theorem blocks_empty : Blocks {} [] where
  names := nodup_nil
  distinct := nodup_nil
  used := by simp
  here := by simp
  apart := by simp
  archived := by simp [empty]
  inflight := by simp [empty]
  stored := by simp
  partials := by simp [empty]

namespace Blocks

variable (blocks : Blocks d bs)

include blocks

theorem inode_unique {j : Nat} (one : (w, i) ∈ bs) (two : (w, j) ∈ bs) :
    i = j := by
  have same := inj_on_of_nodup_map blocks.names one two rfl
  exact (Prod.mk.inj same).2

theorem name_unique {v : Window} (one : (w, i) ∈ bs) (two : (v, i) ∈ bs) :
    w = v := by
  have same := inj_on_of_nodup_map blocks.distinct one two rfl
  exact (Prod.mk.inj same).1

theorem setLock (j : Nat) (taken : Bool) :
    Blocks (d.setLock j taken) bs :=
  { blocks with }

theorem enqueue (v : Window) : Blocks (d.enqueue v) bs :=
  { blocks with }

theorem dequeue (v : Window) : Blocks (d.dequeue v) bs :=
  { blocks with }

theorem write (lines : List LogEntry)
    (uncopied : ∀ b ∈ bs, b.2 = i → d.archives.find b.1 = none ∧ d.partials.find b.1 = none) :
    Blocks (d.write i lines) bs := by
  refine { blocks with archived := ?_, partials := ?_ }
  · intro f mem
    obtain ⟨j, there, same⟩ := blocks.archived f mem
    refine ⟨j, there, ?_⟩
    have other : j ≠ i := by
      rintro rfl
      have found : d.archives.find f.1 = some f := find_key_of_mem mem
      exact absurd (found.symm.trans (uncopied _ there rfl).1) (by simp)
    exact (update_of_ne other _ _).trans same
  · intro f mem
    obtain ⟨missing, j, there, same⟩ := blocks.partials f mem
    refine ⟨missing, j, there, ?_⟩
    have other : j ≠ i := by
      rintro rfl
      have found : d.partials.find f.1 = some f := find_key_of_mem mem
      exact absurd (found.symm.trans (uncopied _ there rfl).2) (by simp)
    exact (update_of_ne other _ _).trans same

theorem write_active (active : d.active = some i) (lines : List LogEntry) :
    Blocks (d.write i lines) bs :=
  blocks.write lines fun b mem same => absurd (same ▸ active) (blocks.apart b mem)

theorem openActive : Blocks d.openActive.2 bs := by
  unfold LogDir.openActive
  cases active : d.active with
  | some i => exact blocks
  | none =>
    have kept : ∀ j, j < d.inodes → update d.contents d.inodes [] j = d.contents j :=
      fun j below => update_of_ne (Nat.ne_of_lt below) _ _
    refine { blocks with used := ?_, here := ?_, apart := ?_, archived := ?_, partials := ?_ }
    · exact fun b mem => Nat.lt_succ_of_lt (blocks.used b mem)
    · intro i same
      cases Option.some.inj same
      exact Nat.lt_succ_self _
    · intro b mem same
      have := blocks.used b mem
      have := Option.some.inj same
      omega
    · intro f mem
      obtain ⟨j, there, same⟩ := blocks.archived f mem
      exact ⟨j, there, (kept j (blocks.used _ there)).trans same⟩
    · intro f mem
      obtain ⟨missing, j, there, same⟩ := blocks.partials f mem
      exact ⟨missing, j, there, (kept j (blocks.used _ there)).trans same⟩

theorem rename (active : d.active = some i)
    (unused : ∀ b ∈ bs, b.1 ≠ w) : Blocks (d.rename i w) (bs ++ [(w, i)]) := by
  have find : ∀ v, (d.rename i w).rotating.find v =
      if v = w then some (w, i) else d.rotating.find v := fun v =>
    find_set d.rotating (w, i) v
  have apart : ∀ b ∈ bs, b.2 ≠ i := fun b mem same =>
    blocks.apart b mem (same ▸ active)
  refine ⟨?_, ?_, ?_, ?_, ?_, ?_, ?_, ?_, ?_⟩
  · rw [map_append]
    refine nodup_append.mpr ⟨blocks.names, nodup_singleton _, ?_⟩
    intro v mem u last
    obtain ⟨b, there, rfl⟩ := mem_map.mp mem
    rw [mem_singleton.mp last]
    exact unused b there
  · rw [map_append]
    refine nodup_append.mpr ⟨blocks.distinct, nodup_singleton _, ?_⟩
    intro v mem u last
    obtain ⟨b, there, rfl⟩ := mem_map.mp mem
    rw [mem_singleton.mp last]
    exact apart b there
  · intro b mem
    rcases mem_append.mp mem with old | new
    · exact blocks.used b old
    · rw [mem_singleton.mp new]
      exact blocks.here i active
  · exact fun j same => absurd same (by simp [LogDir.rename])
  · exact fun b _ same => absurd same (by simp [LogDir.rename])
  · intro f mem
    obtain ⟨j, there, same⟩ := blocks.archived f mem
    exact ⟨j, mem_append_left _ there, same⟩
  · intro f mem
    rcases mem_cons.mp mem with rfl | old
    · exact mem_append_right _ mem_cons_self
    · exact mem_append_left _ (blocks.inflight f (mem_of_mem_filter old))
  · intro b mem
    rcases mem_append.mp mem with old | new
    · rw [find, if_neg (unused b old)]
      exact blocks.stored b old
    · rw [mem_singleton.mp new, find, if_pos rfl]
      exact .inr rfl
  · intro f mem
    obtain ⟨missing, j, there, same⟩ := blocks.partials f mem
    exact ⟨missing, j, mem_append_left _ there, same⟩

theorem copy (there : (w, i) ∈ bs) (missing : d.archives.find w = none) :
    Blocks (d.copy i w) bs := by
  refine { blocks with partials := ?_ }
  intro f mem
  rcases mem_cons.mp mem with rfl | old
  · exact ⟨missing, i, there, rfl⟩
  · exact blocks.partials f (mem_of_mem_filter old)

theorem discard (v : Window) : Blocks (d.discard v) bs :=
  { blocks with partials := fun f mem => blocks.partials f (mem_of_mem_filter mem) }

theorem archive {lines : List LogEntry} (mem : (w, lines) ∈ d.partials.rows) :
    Blocks (d.archive w lines) bs := by
  obtain ⟨_, i, there, same⟩ := blocks.partials _ mem
  have find : ∀ v, (d.archive w lines).archives.find v =
      if v = w then some (w, lines) else d.archives.find v := fun v =>
    find_set d.archives (w, lines) v
  refine { blocks with archived := ?_, stored := ?_, partials := ?_ }
  · intro f mem'
    rcases mem_cons.mp mem' with rfl | old
    · exact ⟨i, there, same⟩
    · exact blocks.archived f (mem_of_mem_filter old)
  · intro b mem'
    rw [find]
    split
    next => exact .inl rfl
    next => exact blocks.stored b mem'
  · intro f mem'
    have other : f.1 ≠ w := of_decide_eq_true (mem_filter.mp mem').2
    rw [find, if_neg other]
    exact blocks.partials f (mem_of_mem_filter mem')

theorem remove (archived : (d.archives.find w).isSome) :
    Blocks (d.remove w) bs := by
  refine { blocks with
    inflight := fun f mem => blocks.inflight f (mem_of_mem_filter mem), stored := ?_ }
  intro b mem
  by_cases same : b.1 = w
  · rw [same]
    exact .inl archived
  · rcases blocks.stored b mem with there | there
    · exact .inl there
    · refine .inr ?_
      show (d.rotating.erase w).find b.1 = some b
      rw [find_erase, if_neg same]
      exact there

theorem archives_perm : d.archives.rows.Perm
      ((bs.filter fun b => (d.archives.find b.1).isSome).map fun b => (b.1, d.contents b.2)) := by
  refine (perm_ext_iff_of_nodup (d.archives.nodup.of_map _) ?_).mpr fun f => ?_
  · have names := blocks.names.sublist (List.Sublist.map (fun b : Window × Nat => b.1)
      (filter_sublist (p := fun b => (d.archives.find b.1).isSome)))
    refine List.Nodup.of_map (fun f : Window × List LogEntry => f.1) ?_
    rw [map_map]
    exact names
  · rw [mem_map]
    constructor
    · intro mem
      obtain ⟨i, there, same⟩ := blocks.archived f mem
      refine ⟨(f.1, i), mem_filter.mpr ⟨there, ?_⟩, by rw [same]⟩
      rw [find_key_of_mem mem]
      rfl
    · rintro ⟨b, mem, rfl⟩
      obtain ⟨there, archived⟩ := mem_filter.mp mem
      obtain ⟨f, found⟩ := Option.isSome_iff_exists.mp archived
      have name := key_of_find found
      have row := mem_of_find found
      obtain ⟨i, there', same⟩ := blocks.archived f row
      rw [name] at there'
      have inode := blocks.inode_unique there' there
      rw [← name, ← inode, same]
      exact row

theorem unarchived_perm : d.unarchived.Perm (bs.filter fun b => (d.archives.find b.1).isNone) := by
  refine (perm_ext_iff_of_nodup ((d.rotating.nodup.of_map _).filter _)
    ((blocks.names.of_map _).filter _)).mpr fun b => ?_
  rw [mem_filter, mem_filter]
  refine and_congr_left fun missing => ⟨fun mem => blocks.inflight b mem, fun mem => ?_⟩
  rcases blocks.stored b mem with archived | found
  · exact absurd missing (by simpa using Option.isSome_iff_ne_none.mp archived)
  · exact mem_of_find found

end Blocks

end LogDir

end GasCity
