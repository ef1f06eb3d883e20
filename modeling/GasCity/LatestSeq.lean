import Mathlib.Data.PNat.Basic
import GasCity.ByteLines

namespace GasCity

open List

abbrev Bytes := List UInt8

def newline : UInt8 := 10

def trimReturn (line : Bytes) : Bytes := if line.getLast? = some 13 then line.dropLast else line

def isBlankLine (line : Bytes) : Bool := line.all fun b => b = 32 || (9 ≤ b && b ≤ 13)

section probe

-- the sequence number that decoding a line's header gives, 0 where it fails
variable (headerSeq : Bytes → Nat)

def lineSeq (line : Bytes) : Option Nat :=
  let line := trimReturn line
  if isBlankLine line then none else if 0 < headerSeq line then some (headerSeq line) else none

def lastLineSeq (lines : List Bytes) : Option Nat := lines.reverse.findSome? (lineSeq headerSeq)

def latestSeqInCompleteLines (data : Bytes) : Option Nat :=
  lastLineSeq headerSeq (parts newline data)

def lastNewline (data : Bytes) : Nat := data.length - 1 - data.reverse.idxOf newline

/-- The rounds of `readLatestSeqFromTail`, each a chunk further back; nothing where a slice
is out of range. -/
def latestSeqLoop (chunk : ℕ+) (content : Bytes) (stop : Nat) (suffix : Bytes) (first : Bool) :
    Option Nat :=
  if stop = 0 then some 0
  else
    let n := min (chunk : Nat) stop
    let start := stop - n
    let data := (content.drop start).take n ++ suffix
    let torn := first && data.getLast? != some newline
    if torn && newline ∉ data then latestSeqLoop chunk content start data false
    else
      let searchEnd := if torn then lastNewline data else data.length
      if 0 < start && newline ∉ data then latestSeqLoop chunk content start data false
      else
        let searchStart := if 0 < start then data.idxOf newline + 1 else 0
        if searchEnd < searchStart then none
        else
          match latestSeqInCompleteLines headerSeq ((data.take searchEnd).drop searchStart) with
          | some seq => some seq
          | none => latestSeqLoop chunk content start data false
  termination_by stop
  decreasing_by all_goals have := chunk.pos; omega

def readLatestSeqFromTail (chunk : ℕ+) (content : Bytes) : Option Nat :=
  latestSeqLoop headerSeq chunk content content.length [] true

def latestComplete (content : Bytes) : Nat :=
  (lastLineSeq headerSeq (parts newline content).dropLast).getD 0

def fragment (content : Bytes) : Bytes := (parts newline content).getLast (cons_ne_nil _ _)

def lastChunk (chunk : ℕ+) (content : Bytes) : Bytes :=
  content.drop (content.length - min (chunk : Nat) content.length)

/-- The content on which an unfinished line does no harm: it has none, or it fits in a chunk; or
the last chunk does not hold exactly one newline, and the unfinished line carries no number of its
own or the chunk holds a whole line that carries one. -/
def TailReadable (chunk : ℕ+) (content : Bytes) : Prop :=
  fragment content = [] ∨ content.length ≤ chunk ∨
    (cut newline (lastChunk chunk content)).2.length ≠ 1 ∧
      ((lineSeq headerSeq (fragment content)).getD (latestComplete headerSeq content) =
          latestComplete headerSeq content ∨
        lastLineSeq headerSeq (cut newline (lastChunk chunk content)).2.dropLast ≠ none)

variable {headerSeq} {chunk : ℕ+} {content : Bytes}

theorem lastLineSeq_append (lines more : List Bytes) :
    lastLineSeq headerSeq (lines ++ more) =
      (lastLineSeq headerSeq more).or (lastLineSeq headerSeq lines) := by
  unfold lastLineSeq
  rw [reverse_append, findSome?_append]

/-- What a round reads together with the rounds before it. -/
theorem chunk_append (content : Bytes) {stop : Nat} (n : Nat) (le : n ≤ stop) :
    (content.drop (stop - n)).take n ++ content.drop stop = content.drop (stop - n) := by
  have rest : content.drop stop = (content.drop (stop - n)).drop n := by
    rw [drop_drop]
    congr 1
    omega
  rw [rest, take_append_drop]

/-- The whole lines of a tail are the last lines of the content. -/
theorem parts_tail (content : Bytes) (start : Nat) :
    ∃ before, parts newline content = before ++ (cut newline (content.drop start)).2 := by
  refine ⟨parts newline (content.take start ++ (cut newline (content.drop start)).1), ?_⟩
  rw [← parts_append, take_append_drop]

theorem parts_after_first {data : Bytes} (mem : newline ∈ data) :
    parts newline (data.drop (data.idxOf newline + 1)) = (cut newline data).2 := by
  obtain ⟨head, tail, rfl, free⟩ := eq_append_cons_of_mem mem
  rw [cut_of_mem free, idxOf_append_of_notMem free, idxOf_cons_self, Nat.add_zero, ← drop_drop,
    drop_left, drop_one, tail_cons]

/-- From the second round on the last line counts whether or not it is terminated. -/
theorem latestSeqLoop_later (headerSeq : Bytes → Nat) (chunk : ℕ+) (content : Bytes) (stop : Nat)
    (pos : 0 < stop) :
    latestSeqLoop headerSeq chunk content stop (content.drop stop) false =
      some ((lastLineSeq headerSeq (parts newline content)).getD 0) := by
  have size := chunk.pos
  unfold latestSeqLoop
  rw [if_neg (by omega)]
  simp only [Bool.false_and, Bool.false_eq_true, if_false,
    chunk_append content _ (min_le_right _ _), take_length]
  by_cases whole : stop - min (chunk : Nat) stop = 0
  · simp only [whole, Nat.lt_irrefl, decide_false, Bool.false_and, Bool.false_eq_true, if_false,
      Nat.not_lt_zero, drop_zero]
    unfold latestSeqInCompleteLines
    cases lastLineSeq headerSeq (parts newline content) with
    | some seq => rfl
    | none => simp [latestSeqLoop]
  · have more : 0 < stop - min (chunk : Nat) stop := by omega
    have next := latestSeqLoop_later headerSeq chunk content (stop - min (chunk : Nat) stop) more
    simp only [more, decide_true, Bool.true_and, decide_eq_true_eq, if_true]
    split
    · exact next
    next mem =>
      rw [not_not] at mem
      obtain ⟨before, eq⟩ := parts_tail content (stop - min (chunk : Nat) stop)
      have bound := idxOf_lt_length_of_mem mem
      rw [if_neg (by omega)]
      unfold latestSeqInCompleteLines
      rw [parts_after_first mem]
      split
      next seq found => rw [eq, lastLineSeq_append, found, Option.some_or, Option.getD_some]
      · exact next
  termination_by stop
  decreasing_by omega

theorem parts_eq (content : Bytes) :
    parts newline content = (parts newline content).dropLast ++ [fragment content] :=
  (dropLast_append_getLast _).symm

theorem fragment_of_parts (lines : List Bytes) {line : Bytes}
    (eq : parts newline content = lines ++ [line]) : fragment content = line := by
  unfold fragment
  simp [eq]

theorem lastLineSeq_parts (content : Bytes) :
    (lastLineSeq headerSeq (parts newline content)).getD 0 =
      (lineSeq headerSeq (fragment content)).getD (latestComplete headerSeq content) := by
  have single : lastLineSeq headerSeq [fragment content] =
      lineSeq headerSeq (fragment content) := by simp [lastLineSeq]
  rw [parts_eq, lastLineSeq_append, single]
  unfold latestComplete
  cases lineSeq headerSeq (fragment content) with
  | none => rfl
  | some => rfl

theorem last_newline {data : Bytes} (mem : newline ∈ data) :
    ∃ before tail, data = before ++ newline :: tail ∧ newline ∉ tail := by
  obtain ⟨tail, before, eq, free⟩ := eq_append_cons_of_mem (mem_reverse.mpr mem)
  refine ⟨before.reverse, tail.reverse, ?_, fun there => free (mem_reverse.mp there)⟩
  rw [← reverse_reverse data, eq]
  simp

theorem lastNewline_eq {before tail : Bytes} (free : newline ∉ tail) :
    lastNewline (before ++ newline :: tail) = before.length := by
  have reversed : (before ++ newline :: tail).reverse =
      tail.reverse ++ newline :: before.reverse := by simp
  unfold lastNewline
  rw [reversed, idxOf_append_of_notMem fun there => free (mem_reverse.mp there), idxOf_cons_self]
  simp

theorem fragment_of_tail {data before tail : Bytes} {start : Nat} (is : content.drop start = data)
    (eq : data = before ++ newline :: tail) (free : newline ∉ tail) : fragment content = tail := by
  refine fragment_of_parts (parts newline (content.take start ++ before)) ?_
  rw [← cut_append_of_mem _ free, append_assoc, ← eq, ← is, take_append_drop]

theorem fragment_eq_nil (nonempty : content ≠ []) :
    fragment content = [] ↔ content.getLast? = some newline := by
  by_cases mem : newline ∈ content
  · obtain ⟨before, tail, eq, free⟩ := last_newline mem
    rw [fragment_of_tail (drop_zero) eq free, eq]
    cases tail with
    | nil => simp
    | cons b tail =>
      rw [getLast?_append_of_ne_nil _ (cons_ne_nil _ _), getLast?_cons_cons]
      simp only [reduceCtorEq, false_iff]
      exact fun last => free (mem_of_getLast? last)
  · have whole : fragment content = content := by
      refine fragment_of_parts [] ?_
      unfold parts
      rw [cut_of_notMem mem]
      rfl
    rw [whole]
    exact iff_of_false nonempty fun last => mem (mem_of_getLast? last)

theorem getLast_lastChunk (chunk : ℕ+) (nonempty : content ≠ []) :
    (lastChunk chunk content).getLast? = content.getLast? := by
  have := chunk.pos
  have := length_pos_iff.mpr nonempty
  unfold lastChunk
  rw [getLast?_drop, if_neg (by omega)]

/-- Content without an unfinished line is read as in the later rounds. -/
theorem readLatestSeqFromTail_finished (chunk : ℕ+) (nonempty : content ≠ [])
    (finished : content.getLast? = some newline) :
    readLatestSeqFromTail headerSeq chunk content =
      some ((lastLineSeq headerSeq (parts newline content)).getD 0) := by
  rw [← latestSeqLoop_later headerSeq chunk content content.length (length_pos_iff.mpr nonempty),
    drop_length]
  have data := chunk_append content _ (min_le_right (chunk : Nat) content.length)
  rw [drop_length] at data
  rw [← getLast_lastChunk chunk nonempty] at finished
  unfold readLatestSeqFromTail latestSeqLoop
  unfold lastChunk at finished
  simp only [data, finished, bne_self_eq_false, Bool.and_false]

theorem readLatestSeqFromTail_torn (chunk : ℕ+) (nonempty : content ≠ [])
    (torn : content.getLast? ≠ some newline) :
    readLatestSeqFromTail headerSeq chunk content =
      let start := content.length - min (chunk : Nat) content.length
      let data := lastChunk chunk content
      if newline ∉ data then latestSeqLoop headerSeq chunk content start data false
      else
        let searchStart := if 0 < start then data.idxOf newline + 1 else 0
        if lastNewline data < searchStart then none
        else
          match latestSeqInCompleteLines headerSeq
            ((data.take (lastNewline data)).drop searchStart) with
          | some seq => some seq
          | none => latestSeqLoop headerSeq chunk content start data false := by
  have data := chunk_append content _ (min_le_right (chunk : Nat) content.length)
  have some : content.length ≠ 0 := (length_pos_iff.mpr nonempty).ne'
  rw [drop_length] at data
  rw [← getLast_lastChunk chunk nonempty] at torn
  unfold readLatestSeqFromTail
  rw [latestSeqLoop, if_neg some]
  unfold lastChunk at torn ⊢
  simp only [data, bne_iff_ne.mpr torn, Bool.and_self, Bool.true_and, decide_eq_true_eq, if_true]
  split
  · rfl
  next mem => rw [if_neg fun both => mem (of_decide_eq_true (Bool.and_eq_true_iff.mp both).2)]

theorem readLatestSeqFromTail_fits (nonempty : content ≠ [])
    (torn : content.getLast? ≠ some newline) (fits : content.length ≤ chunk) :
    readLatestSeqFromTail headerSeq chunk content = some (latestComplete headerSeq content) := by
  have start : content.length - min (chunk : Nat) content.length = 0 := by omega
  have whole : lastChunk chunk content = content := by
    unfold lastChunk
    rw [start, drop_zero]
  rw [readLatestSeqFromTail_torn chunk nonempty torn]
  simp only [start, whole, Nat.lt_irrefl, if_false, Nat.not_lt_zero, drop_zero]
  split
  next none =>
    unfold latestComplete parts
    rw [cut_of_notMem none]
    simp [latestSeqLoop, lastLineSeq]
  next mem =>
    obtain ⟨before, tail, rfl, free⟩ := last_newline (not_not.mp mem)
    unfold latestSeqInCompleteLines latestComplete
    rw [lastNewline_eq free, take_left, cut_append_of_mem before free, dropLast_concat]
    cases lastLineSeq headerSeq (parts newline before) with
    | some seq => rfl
    | none => simp [latestSeqLoop]

/-- Where the content is longer, the first round looks at the whole lines of the last chunk. -/
theorem readLatestSeqFromTail_long (nonempty : content ≠ [])
    (torn : content.getLast? ≠ some newline) (long : chunk < content.length) :
    readLatestSeqFromTail headerSeq chunk content =
      if (cut newline (lastChunk chunk content)).2.length = 1 then none
      else
        match lastLineSeq headerSeq (cut newline (lastChunk chunk content)).2.dropLast with
        | some _ => some (latestComplete headerSeq content)
        | none => some ((lineSeq headerSeq (fragment content)).getD
          (latestComplete headerSeq content)) := by
  have pos : 0 < content.length - min (chunk : Nat) content.length := by omega
  have later := latestSeqLoop_later headerSeq chunk content _ pos
  rw [lastLineSeq_parts] at later
  rw [readLatestSeqFromTail_torn chunk nonempty torn]
  simp only [pos, if_true]
  split
  next none =>
    rw [cut_of_notMem none]
    exact later
  next mem =>
    obtain ⟨before, tail, eq, free⟩ := last_newline (not_not.mp mem)
    obtain ⟨earlier, all⟩ := parts_tail content (content.length - min (chunk : Nat) content.length)
    change _ = earlier ++ (cut newline (lastChunk chunk content)).2 at all
    change latestSeqLoop headerSeq chunk content _ (lastChunk chunk content) false = _ at later
    rw [eq, cut_append_tail before free] at all ⊢
    rw [eq] at later
    rw [lastNewline_eq free, take_left, length_append, dropLast_concat]
    by_cases inner : newline ∈ before
    · have bound := idxOf_lt_length_of_mem inner
      have some := length_pos_iff.mpr (mt cut_eq_nil.mp (not_not.mpr inner))
      rw [idxOf_append_of_mem inner, if_neg (by omega), if_neg (by rw [length_singleton]; omega)]
      unfold latestSeqInCompleteLines
      rw [parts_after_first inner]
      split
      next seq found =>
        unfold latestComplete
        rw [all, ← append_assoc, dropLast_concat, lastLineSeq_append, found]
        rfl
      · exact later
    · rw [idxOf_append_of_notMem inner, idxOf_cons_self, if_pos (by omega), cut_eq_nil.mpr inner]
      rfl

/-- The probe of the tail finds the number of the last complete record exactly where what stands after
the last newline does not mislead it. -/
theorem readLatestSeqFromTail_iff (chunk : ℕ+) (content : Bytes) :
    readLatestSeqFromTail headerSeq chunk content = some (latestComplete headerSeq content) ↔
      TailReadable headerSeq chunk content := by
  unfold TailReadable
  by_cases nonempty : content = []
  · subst nonempty
    refine iff_of_true ?_ (.inl rfl)
    unfold readLatestSeqFromTail
    rw [latestSeqLoop, length_nil, if_pos rfl]
    rfl
  by_cases finished : content.getLast? = some newline
  · have none := (fragment_eq_nil nonempty).mpr finished
    rw [readLatestSeqFromTail_finished chunk nonempty finished, lastLineSeq_parts, none]
    exact iff_of_true rfl (.inl rfl)
  rw [fragment_eq_nil nonempty, or_iff_right finished]
  by_cases fits : content.length ≤ chunk
  · exact iff_of_true (readLatestSeqFromTail_fits nonempty finished fits) (.inl fits)
  rw [or_iff_right fits, readLatestSeqFromTail_long nonempty finished (Nat.not_le.mp fits)]
  split
  next one => simp [one]
  next other =>
    split
    next found => simp [other, found]
    next none => simp [other, none]

/-- The JSON object whose seq is 7. -/
def seventhRecord : Bytes := [123, 34, 115, 101, 113, 34, 58, 55, 125]

/-- A record whose newline is missing, and longer than a chunk, counts as a complete one. -/
theorem unfinished_record_counts :
    readLatestSeqFromTail (fun line => if line = seventhRecord then 7 else 0) 1 seventhRecord = some 7 ∧
      latestComplete (fun line => if line = seventhRecord then 7 else 0) seventhRecord = 0 := by
  refine ⟨?_, by decide⟩
  rw [readLatestSeqFromTail_long (by decide) (by decide) (by decide)]
  decide

end probe

end GasCity
