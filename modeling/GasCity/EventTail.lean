import Mathlib.Data.List.DropRight
import Mathlib.Data.List.Infix
import GasCity.LatestSeq

namespace GasCity

open List

section tail

variable {ε : Type}

def lineEvent (decode : Bytes → Option ε) (filter : ε → Bool) (line : Bytes) : Option ε :=
  let line := trimReturn line
  if isBlankLine line then none else (decode line).filter filter

-- the event of a line; the chunk, the limit and the bound of the scan, 0 for none
variable (event : Bytes → Option ε) (chunk : ℕ+) (limit maxScan : Nat) (content : Bytes)

/-- The rounds of `readFilteredTailFromFile`: each reads a chunk further back, keeps the line it
begins in for the next and adds the events of the others, the latest first, up to the limit. -/
def tailLoop (stop : Nat) (pending : Bytes) (reversed : List ε) : List ε :=
  if 0 < stop ∧ reversed.length < limit ∧ (maxScan = 0 ∨ content.length - stop < maxScan) then
    let n := min (chunk : Nat) stop
    let n := if maxScan = 0 then n else min n (maxScan - (content.length - stop))
    let start := stop - n
    let data := (content.drop start).take n ++ pending
    let lines := if 0 < start then (cut newline data).2 else parts newline data
    let pending := if 0 < start then (cut newline data).1 else []
    tailLoop start pending ((reversed ++ lines.reverse.filterMap event).take limit)
  else reversed
  termination_by stop
  decreasing_by
    have := chunk.pos
    split <;> omega

def readFilteredTailFromFile : List ε :=
  (tailLoop event chunk limit maxScan content content.length [] []).reverse

def backward (lines : List Bytes) : List ε := (lines.filterMap event).reverse.take limit

variable {event limit}

theorem take_take_append {α : Type} (l more : List α) (n : Nat) :
    (l.take n ++ more).take n = (l ++ more).take n := by
  rcases Nat.le_total l.length n with short | long
  · rw [take_of_length_le short]
  · rw [take_append_of_le_length long,
      take_append_of_le_length (by rw [length_take]; omega), take_take,
      Nat.min_self]

theorem backward_append (lines more : List Bytes) :
    backward event limit (lines ++ more) =
      (backward event limit more ++ lines.reverse.filterMap event).take limit := by
  unfold backward
  rw [take_take_append, filterMap_append, reverse_append, filterMap_reverse]

theorem backward_suffix (lines more : List Bytes) :
    backward event limit more <+: backward event limit (lines ++ more) := by
  unfold backward
  rw [filterMap_append, reverse_append]
  exact (prefix_append _ _).take limit

theorem backward_full (lines : List Bytes) {more : List Bytes}
    (full : limit ≤ (backward event limit more).length) :
    backward event limit (lines ++ more) = backward event limit more := by
  rw [backward_append, take_append_of_le_length full]
  exact take_of_length_le (length_take_le _ _)

/-- The rounds give the events of the last lines, and without a bound those of all lines. -/
theorem tailLoop_spec (event : Bytes → Option ε) (limit : Nat) (stop : Nat) (pos : 0 < stop) :
    let events := tailLoop event chunk limit maxScan content stop
      (cut newline (content.drop stop)).1 (backward event limit (cut newline (content.drop stop)).2)
    events <+: backward event limit (parts newline content) ∧
      (maxScan = 0 → events = backward event limit (parts newline content)) := by
  intro events
  have size := chunk.pos
  obtain ⟨before, all⟩ := parts_tail content stop
  unfold events tailLoop
  split
  next more =>
    simp only [← backward_append]
    generalize reads : (if maxScan = 0 then min (chunk : Nat) stop
      else min (min (chunk : Nat) stop) (maxScan - (content.length - stop))) = n
    have le : 0 < n ∧ n ≤ stop := by
      rw [← reads]
      split <;> omega
    have whole := chunk_append content n le.2
    have cuts := whole ▸ cut_append newline ((content.drop (stop - n)).take n) (content.drop stop)
    by_cases inside : 0 < stop - n
    · have next := tailLoop_spec event limit (stop - n) inside
      rw [cuts] at next
      rw [if_pos inside, if_pos inside]
      exact next
    · have lines := whole ▸
        parts_append newline ((content.drop (stop - n)).take n) (content.drop stop)
      have start : stop - n = 0 := by omega
      rw [if_neg inside, if_neg inside, ← lines]
      unfold tailLoop
      rw [if_neg (fun next => inside next.1), start, drop_zero]
      exact ⟨prefix_rfl, fun _ => rfl⟩
  next ends =>
    refine ⟨all ▸ backward_suffix before _, fun unbounded => ?_⟩
    rw [all]
    refine (backward_full before ?_).symm
    by_contra short
    exact ends ⟨pos, Nat.not_le.mp short, .inl unbounded⟩
  termination_by stop
  decreasing_by exact Nat.sub_lt pos le.1

theorem reverse_backward (lines : List Bytes) :
    (backward event limit lines).reverse = (lines.filterMap event).rtake limit := by
  unfold backward
  rw [rtake_eq_reverse_take_reverse]

/-- Reading the log backward gives the last events of its lines, the unfinished one included if
it decodes; with a bound it gives a suffix of them. -/
theorem readFilteredTailFromFile_eq (decode : Bytes → Option ε) (filter : ε → Bool) (chunk : ℕ+)
    (limit maxScan : Nat) (content : Bytes) :
    let last := ((parts newline content).filterMap (lineEvent decode filter)).rtake limit
    readFilteredTailFromFile (lineEvent decode filter) chunk limit 0 content = last ∧
      readFilteredTailFromFile (lineEvent decode filter) chunk limit maxScan content <:+ last := by
  intro last
  have start : backward (lineEvent decode filter) limit [] = [] := take_nil
  unfold last readFilteredTailFromFile
  rw [← reverse_backward]
  rcases eq_or_ne content [] with rfl | some
  · have blank : backward (lineEvent decode filter) limit (parts newline []) = [] := take_nil
    have none : ∀ bound, tailLoop (lineEvent decode filter) chunk limit bound [] 0 [] [] = [] := by
      intro bound
      unfold tailLoop
      exact if_neg fun more => Nat.lt_irrefl _ more.1
    rw [length_nil, none, none, blank]
    exact ⟨rfl, suffix_rfl⟩
  · have pos := length_pos_iff.mpr some
    have spec bound := tailLoop_spec chunk bound content (lineEvent decode filter) limit _ pos
    simp only [drop_length, cut, start] at spec
    exact ⟨congrArg reverse ((spec 0).2 rfl), reverse_suffix.mpr (spec maxScan).1⟩

end tail

/-- A record that no newline ends yet is read as the last event, although no complete line holds
it. -/
theorem unfinished_record_read :
    readFilteredTailFromFile (lineEvent (fun line => some line) fun _ => true) 4 1 0 [123, 125] =
        [[123, 125]] ∧
      ((parts newline [123, 125]).dropLast.filterMap
        (lineEvent (fun line => some line) fun _ => true)).rtake 1 = [] := by
  constructor
  · unfold readFilteredTailFromFile tailLoop
    rw [if_pos (by decide)]
    unfold tailLoop
    rw [if_neg (by decide)]
    decide
  · decide

end GasCity
