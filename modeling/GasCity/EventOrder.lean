import GasCity.EventChain

namespace GasCity

open Function

namespace LogThread

def holds : LogThread → Option Nat
  | .holding file _ _ | .numbered file _ _ | .wrote file _ => some file
  | _ => none

def numbers : LogThread → Bool
  | .numbered _ _ _ => true
  | _ => false

/-- A rotation that has renamed the log and not written its anchor. -/
def between : LogThread → Bool
  | .renamed _ _ | .reopened _ _ _ | .anchored _ _ _ _ => true
  | _ => false

def rotates : LogThread → Bool
  | .scanned _ _ _ => true
  | t => t.between

end LogThread

structure Exclusive (locked : Nat → Bool) (calls : Nat → LogThread) : Prop where
  locks : ∀ j i, (calls j).holds = some i → locked i = true
  holder : ∀ j k i, (calls j).holds = some i → (calls k).holds = some i → j = k
  rotation : ∀ j k, (calls j).rotates = true → (calls k).rotates = true → j = k
  apart : ∀ j k, (calls j).numbers = true → (calls k).between = false

namespace Exclusive

variable {locked : Nat → Bool} {calls : Nat → LogThread} {j : Nat} {t x : LogThread}

theorem at_update {α : Type} (f : LogThread → α) (calls : Nat → LogThread) (j k : Nat)
    (t : LogThread) :
    f (update calls j t k) = if k = j then f t else f (calls k) := by
  by_cases same : k = j
  · rw [same, update_self, if_pos rfl]
  · rw [update_of_ne same, if_neg same]

variable (exclusive : Exclusive locked calls)

include exclusive

theorem update_apart
    (rotates : t.rotates = true → (calls j).rotates = true ∨ ∀ k, k ≠ j → (calls k).rotates = false)
    (numbers : t.numbers = true → (calls j).numbers = true ∨ ∀ k, (calls k).between = false)
    (between : t.between = true → (calls j).between = true ∨ ∀ k, (calls k).numbers = false)
    (one : t.numbers = true → t.between = false) :
    (∀ k l, (update calls j t k).rotates = true → (update calls j t l).rotates = true → k = l) ∧
      ∀ k l, (update calls j t k).numbers = true → (update calls j t l).between = false := by
  constructor
  · intro k l
    rw [at_update LogThread.rotates, at_update LogThread.rotates]
    split
    next one =>
      split
      next two => exact fun _ _ => one.trans two.symm
      next two =>
        intro mine other
        rcases rotates mine with was | alone
        · exact one.trans (exclusive.rotation j l was other)
        · exact absurd other (by simp [alone l two])
    next one =>
      split
      next two =>
        intro other mine
        rcases rotates mine with was | alone
        · exact (exclusive.rotation k j other was).trans two.symm
        · exact absurd other (by simp [alone k one])
      next => exact exclusive.rotation k l
  · intro k l
    rw [at_update LogThread.numbers, at_update LogThread.between]
    split
    next =>
      split
      next => exact one
      next =>
        intro mine
        rcases numbers mine with was | alone
        · exact exclusive.apart j l was
        · exact alone l
    next =>
      split
      next =>
        intro other
        by_contra mine
        rcases between (by simpa using mine) with was | alone
        · exact absurd was (by simp [exclusive.apart k j other])
        · exact absurd other (by simp [alone k])
      next => exact exclusive.apart k l

/-- A thread goes on and keeps its lock. It may begin to write when no rotation is between two
files, to rotate when no other thread rotates, and to rename when no thread is about to write. -/
theorem keep (here : calls j = x) (holds : t.holds = x.holds)
    (rotates : t.rotates = true → x.rotates = true ∨ ∀ k, k ≠ j → (calls k).rotates = false)
    (numbers : t.numbers = true → x.numbers = true ∨ ∀ k, (calls k).between = false)
    (between : t.between = true → x.between = true ∨ ∀ k, (calls k).numbers = false)
    (one : t.numbers = true → t.between = false) :
    Exclusive locked (update calls j t) := by
  subst here
  have held : ∀ k, (update calls j t k).holds = (calls k).holds := by
    intro k
    rw [at_update LogThread.holds]
    split
    next same => rw [same, holds]
    next => rfl
  obtain ⟨rotation, apart⟩ := exclusive.update_apart rotates numbers between one
  refine ⟨?_, ?_, rotation, apart⟩
  · intro k i
    rw [held]
    exact exclusive.locks k i
  · intro k l i
    rw [held, held]
    exact exclusive.holder k l i

theorem lock {i : Nat} (free : locked i = false)
    (mine : t.holds = some i)
    (rotates : t.rotates = false) (numbers : t.numbers = false) (between : t.between = false) :
    Exclusive (update locked i true) (update calls j t) := by
  have held : ∀ k l, (update calls j t k).holds = some l ↔
      (k ≠ j ∧ (calls k).holds = some l) ∨ (k = j ∧ l = i) := by
    intro k l
    rw [at_update LogThread.holds]
    split
    next same =>
      rw [mine]
      simp [same, eq_comm]
    next other => simp [other]
  obtain ⟨rotation, apart⟩ := exclusive.update_apart (j := j) (t := t) (by simp [rotates]) (by simp [numbers])
    (by simp [between]) fun _ => between
  refine ⟨?_, ?_, rotation, apart⟩
  · intro k l there
    rcases (held k l).mp there with ⟨_, old⟩ | ⟨_, rfl⟩
    · have taken := exclusive.locks k l old
      by_cases same : l = i
      · rw [same] at taken
        exact absurd taken (by simp [free])
      · rw [update_of_ne same]
        exact taken
    · exact update_self _ _ _
  · intro k l m one two
    rcases (held k m).mp one with ⟨_, old⟩ | ⟨here', rfl⟩
    · rcases (held l m).mp two with ⟨_, old'⟩ | ⟨_, rfl⟩
      · exact exclusive.holder k l m old old'
      · exact absurd (exclusive.locks k m old) (by simp [free])
    · rcases (held l m).mp two with ⟨_, old'⟩ | ⟨here'', _⟩
      · exact absurd (exclusive.locks l m old') (by simp [free])
      · exact here'.trans here''.symm

theorem unlock {i : Nat} (here : calls j = x)
    (mine : x.holds = some i) (none : t.holds = none)
    (rotates : t.rotates = false) (numbers : t.numbers = false) (between : t.between = false) :
    Exclusive (update locked i false) (update calls j t) := by
  subst here
  have held : ∀ k l, (update calls j t k).holds = some l →
      k ≠ j ∧ (calls k).holds = some l := by
    intro k l
    rw [at_update LogThread.holds]
    split
    next => exact fun yes => absurd yes (by simp [none])
    next other => exact fun there => ⟨other, there⟩
  obtain ⟨rotation, apart⟩ := exclusive.update_apart (j := j) (t := t) (by simp [rotates]) (by simp [numbers])
    (by simp [between]) fun _ => between
  refine ⟨?_, ?_, rotation, apart⟩
  · intro k l there
    obtain ⟨other, old⟩ := held k l there
    by_cases same : l = i
    · rw [same] at old
      exact absurd (exclusive.holder k j i old mine) other
    · rw [update_of_ne same]
      exact exclusive.locks k l old
  · exact fun k l m one two => exclusive.holder k l m (held k m one).2 (held l m two).2

end Exclusive

namespace EventLog

variable {s : EventLog} {d d' : LogDir} {j : Nat} {t x : LogThread} {bs : List (Window × Nat)}

def Knows (d : LogDir) : LogThread → Prop
  | .tailRead seq | .listed seq | .idle _ seq | .waiting _ seq _ | .holding _ seq _ | .wrote _ seq
  | .sized _ seq _ => seq ≤ lastSeq d.written
  | .numbered file seq lines => d.active = some file ∧
      ∃ texts, lines = numberFrom (lastSeq d.written) texts ∧
        seq = lastSeq d.written + texts.length
  | .scanned _ seq w => seq ≤ lastSeq d.written ∧
      (d.activeLines.head?.map fun e => e.seq) = some w.first ∧ w.last ≤ lastSeq d.written
  | .renamed seq _ => seq = lastSeq d.written ∧ d.activeLines = []
  | .reopened file seq _ => seq = lastSeq d.written ∧ d.active = some file ∧ d.activeLines = []
  | .anchored file seq _ anchor => seq = lastSeq d.written + 1 ∧ d.active = some file ∧
      d.activeLines = [] ∧ anchor.seq = lastSeq d.written + 1
  | .archived w => (d.archives.find w).isSome
  | _ => True

/-- The log is in order: its lines are a chain of blocks, its recorders keep apart, each thread
knows where it is, and the active log is empty only before the first line or in a rotation. -/
structure OrderedBy (s : EventLog) (bs : List (Window × Nat)) : Prop where
  chain : s.shared.Chain bs
  exclusive : Exclusive s.shared.locked s.calls
  knows : ∀ j, Knows s.shared (s.calls j)
  filled : s.shared.activeLines = [] →
    s.shared.written = [] ∨ ∃ k, (s.calls k).between = true

structure Alike (d d' : LogDir) : Prop where
  active : ∀ i, d.active = some i → d'.active = some i
  lines : d'.activeLines = d.activeLines
  written : d'.written = d.written
  archives : ∀ w, (d.archives.find w).isSome → (d'.archives.find w).isSome

theorem Alike.refl (d : LogDir) : Alike d d := ⟨fun _ h => h, rfl, rfl, fun _ h => h⟩

theorem Knows.alike (knows : Knows d x) (alike : Alike d d') : Knows d' x := by
  obtain ⟨active, lines, written, archives⟩ := alike
  cases x with
  | numbered file seq ls =>
    refine ⟨active _ knows.1, ?_⟩
    rw [written]
    exact knows.2
  | scanned | renamed =>
    unfold Knows
    rw [written, lines]
    exact knows
  | reopened | anchored =>
    unfold Knows
    rw [written, lines]
    exact ⟨knows.1, active _ knows.2.1, knows.2.2⟩
  | archived w => exact archives w knows
  | tailRead | listed | idle | waiting | holding | wrote | sized =>
    unfold Knows
    rw [written]
    exact knows
  | _ => exact trivial

theorem knows_update {calls : Nat → LogThread} (mine : Knows d t)
    (others : ∀ k, k ≠ j → Knows d (calls k)) (k : Nat) :
    Knows d (update calls j t k) := by
  by_cases same : k = j
  · rw [same, update_self]
    exact mine
  · rw [update_of_ne same]
    exact others k same

theorem between_update {calls : Nat → LogThread} (here : calls j = x)
    (stays : x.between = true → t.between = true)
    (was : ∃ k, (calls k).between = true) :
    ∃ k, (update calls j t k).between = true := by
  obtain ⟨k, there⟩ := was
  by_cases same : k = j
  · refine ⟨j, ?_⟩
    rw [update_self]
    rw [same, here] at there
    exact stays there
  · refine ⟨k, ?_⟩
    rw [update_of_ne same]
    exact there

theorem OrderedBy.alike (ordered : s.OrderedBy bs) (here : s.calls j = x) (chain : d.Chain bs)
    (alike : Alike s.shared d) (exclusive : Exclusive d.locked (update s.calls j t))
    (mine : Knows s.shared t) (stays : x.between = true → t.between = true) :
    OrderedBy ⟨d, update s.calls j t⟩ bs := by
  refine ⟨chain, exclusive, ?_, ?_⟩
  · exact knows_update (mine.alike alike) fun k _ => (ordered.knows k).alike alike
  · intro empty
    rw [show (⟨d, update s.calls j t⟩ : EventLog).shared.written = d.written from rfl,
      alike.written]
    rcases ordered.filled (alike.lines.symm.trans empty) with none | was
    · exact .inl none
    · exact .inr (between_update here stays was)

end EventLog

end GasCity
