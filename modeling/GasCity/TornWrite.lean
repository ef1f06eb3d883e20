import GasCity.LatestSeq

namespace GasCity

open List

/-- Events as lines of JSON. A record is one object, so what a crash left of one before it makes
no object of the next. -/
structure EventCodec (ε : Type) where
  encode : ε → Bytes
  decode : Bytes → Option ε
  headerSeq : Bytes → Nat
  seq : ε → Nat
  withSeq : Nat → ε → ε
  oneLine : ∀ e, newline ∉ encode e
  closes : ∀ e, (encode e).getLast? = some 125
  torn : ∀ written before e, before ≠ [] → before <+: encode written →
    decode (before ++ encode e) = none

namespace EventCodec

variable {ε : Type} (codec : EventCodec ε)

def scanLines (content : Bytes) : List Bytes :=
  if fragment content = [] then (parts newline content).dropLast else parts newline content

/-- The events of the archives and of the active log, up to a line that is too long. -/
def readAll (maxToken : Nat) (archived : List ε) (content : Bytes) : List ε :=
  archived ++ ((scanLines content).takeWhile (·.length < maxToken)).filterMap
    (codec.decode <| trimReturn ·)

def writeRecordLocked (chunk : ℕ+) (recorderSeq : Nat) (content : Bytes) (e : ε) :
    Option (Bytes × Nat × ε) :=
  (readLatestSeqFromTail codec.headerSeq chunk content).map fun latest =>
    let seq := max latest recorderSeq + 1
    let e := codec.withSeq seq e
    (content ++ codec.encode e ++ [newline], seq, e)

/-- Whether `Record` rotates the log first: a limit is set, its check is due and the log has reached it. -/
def rotatesBySize (maxSize : Int) (due : Bool) (content : Bytes) : Bool :=
  decide (0 < maxSize) && due && decide (maxSize ≤ content.length)

/-- The recorder appends to the active log, or to what a rotation by size leaves as such. -/
def Record (maxSize : Int) (due : Bool) (rotate : Bytes → Bytes) (chunk : ℕ+) (recorderSeq : Nat)
    (content : Bytes) (e : ε) : Option (Bytes × Nat × ε) :=
  codec.writeRecordLocked chunk recorderSeq
    (if rotatesBySize maxSize due content then rotate content else content) e

variable {codec}

theorem parts_line {complete line : Bytes}
    (finished : complete = [] ∨ complete.getLast? = some newline) (one : newline ∉ line) :
    parts newline (complete ++ line) = (parts newline complete).dropLast ++ [line] := by
  rcases finished with rfl | last
  · unfold parts
    rw [nil_append, cut_of_notMem one]
    rfl
  · obtain ⟨before, rfl⟩ := getLast?_eq_some_iff.mp last
    rw [append_assoc, singleton_append, cut_append_of_mem before one,
      cut_append_of_mem before not_mem_nil, dropLast_concat]

theorem scanLines_line {complete line : Bytes}
    (finished : complete = [] ∨ complete.getLast? = some newline) (one : newline ∉ line)
    (nonempty : line ≠ []) :
    scanLines (complete ++ line) = (parts newline complete).dropLast ++ [line] ∧
      scanLines (complete ++ line ++ [newline]) = (parts newline complete).dropLast ++ [line] := by
  have ends := parts_line finished one
  have closed : parts newline (complete ++ line ++ [newline]) =
      parts newline (complete ++ line) ++ [[]] :=
    cut_append_of_mem (complete ++ line) not_mem_nil
  unfold scanLines
  rw [fragment_of_parts _ ends, fragment_of_parts _ closed, if_neg nonempty, if_pos rfl, closed,
    dropLast_concat, ends]
  exact ⟨rfl, rfl⟩

theorem trimReturn_encode (before : Bytes) (e : ε) :
    trimReturn (before ++ codec.encode e) = before ++ codec.encode e := by
  have last : (before ++ codec.encode e).getLast? = some 125 := by
    rw [getLast?_append, codec.closes]
    rfl
  unfold trimReturn
  rw [last, if_neg (by decide)]

/-- What is read of the lines before the last does not depend on the last. -/
theorem mem_takeWhile_append {lines more : List Bytes} {p : Bytes → Bool} {line : Bytes}
    (mem : line ∈ (lines ++ more).takeWhile p) (out : line ∉ more) (other : List Bytes) :
    line ∈ (lines ++ other).takeWhile p := by
  rw [takeWhile_append] at mem ⊢
  split at mem
  next all =>
    rw [if_pos all]
    refine mem_append_left _ ((mem_append.mp mem).resolve_right fun there => out ?_)
    exact List.IsPrefix.subset ( takeWhile_prefix p) there
  next some =>
    rw [if_neg some]
    exact mem

/-- Without a rotation by size, an event recorded after a torn line joins that line: it is read back only if the log held it
already, and then its number is no new one. -/
theorem recorded_after_torn_line (codec : EventCodec ε) {chunk : ℕ+} {maxToken recorderSeq : Nat}
    {maxSize : Int} {due : Bool} {rotate : Bytes → Bytes} {archived : List ε} {complete before : Bytes}
    {written e : ε} {result : Bytes × Nat × ε}
    (finished : complete = [] ∨ complete.getLast? = some newline) (nonempty : before ≠ [])
    (torn : before <+: codec.encode written)
    (unrotated : rotatesBySize maxSize due (complete ++ before) = false)
    (records : codec.Record maxSize due rotate chunk recorderSeq (complete ++ before) e = some result) :
    (result.2.2 ∈ codec.readAll maxToken archived result.1 ∧
      ∀ read ∈ codec.readAll maxToken archived (complete ++ before),
        codec.seq read < codec.seq result.2.2) ↔ False := by
  rw [Record, unrotated, if_neg Bool.false_ne_true] at records
  obtain ⟨latest, -, rfl⟩ := Option.map_eq_some_iff.mp records
  dsimp only
  generalize codec.withSeq _ e = recorded
  have one : newline ∉ before := fun there => codec.oneLine written (torn.subset there)
  have line : newline ∉ before ++ codec.encode recorded := fun there =>
    (mem_append.mp there).elim one (codec.oneLine recorded)
  have was := (scanLines_line finished one nonempty).1
  have is := (scanLines_line finished line (by simp [nonempty])).2
  rw [← append_assoc] at is
  refine iff_false_intro fun ⟨returned, newer⟩ => ?_
  suffices held : recorded ∈ codec.readAll maxToken archived (complete ++ before) from
    Nat.lt_irrefl _ (newer recorded held)
  unfold readAll at returned ⊢
  rw [is] at returned
  rw [was]
  refine (mem_append.mp returned).elim (mem_append_left _) fun read => mem_append_right _ ?_
  obtain ⟨text, mem, decoded⟩ := mem_filterMap.mp read
  refine mem_filterMap.mpr ⟨text, mem_takeWhile_append mem (fun joined => ?_) _, decoded⟩
  rw [mem_singleton.mp joined, trimReturn_encode,
    codec.torn written before recorded nonempty torn] at decoded
  cases decoded

/-- Numbers as objects of as many ones. -/
def unaryCodec : EventCodec Nat where
  encode n := 123 :: (replicate n 49 ++ [125])
  decode line :=
    if line = 123 :: (replicate (line.length - 2) 49 ++ [125]) then some (line.length - 2) else none
  headerSeq line :=
    if line = 123 :: (replicate (line.length - 2) 49 ++ [125]) then line.length - 2 else 0
  seq n := n
  withSeq seq _ := seq
  oneLine n there := by
    rcases mem_cons.mp there with is | there
    · cases is
    · simp [newline] at there
  closes n := by simp [getLast?_cons]
  torn written before n some begins := by
    obtain ⟨rest, eq⟩ := begins
    cases before with
    | nil => exact absurd rfl some
    | cons b before =>
      obtain ⟨rfl, -⟩ := cons.inj eq
      refine if_neg fun same => ?_
      have mem : 123 ∈ before ++ 123 :: (replicate n 49 ++ [125]) :=
        mem_append_right _ mem_cons_self
      rw [show before ++ 123 :: (replicate n 49 ++ [125]) = _ from (cons.inj same).2] at mem
      simp at mem

theorem unaryCodec_writes : unaryCodec.Record 268435456 true (fun _ => []) 64 0 ([] ++ [123]) 0 =
    some ([123, 123, 49, 125, 10], 1, 1) := by
  unfold Record writeRecordLocked
  rw [if_neg (by decide)]
  rw [readLatestSeqFromTail_fits (by decide) (by decide) (by decide)]
  rfl

theorem event_lost_after_torn_line :
    unaryCodec.Record 268435456 true (fun _ => []) 64 0 [123] 0 = some ([123, 123, 49, 125, 10], 1, 1) ∧
      1 ∉ unaryCodec.readAll 1024 [] [123, 123, 49, 125, 10] :=
  ⟨unaryCodec_writes, by decide⟩

theorem recorded_after_torn_line_unary :
    (1 ∈ unaryCodec.readAll 1024 [] [123, 123, 49, 125, 10] ∧
      ∀ read ∈ unaryCodec.readAll 1024 [] [123], read < 1) ↔ False :=
  recorded_after_torn_line unaryCodec (.inl rfl) (by decide)
    (show [123] <+: unaryCodec.encode 0 by decide) (by decide) unaryCodec_writes

end EventCodec

end GasCity
