import GasCity.RangeGrammar

namespace GasCity

open List Option Piece Token

namespace Piece

theorem eq_of_closing {ps after : List Piece} {name : List Char} (found : closing ps = some (name, after)) :
    ps = (name ++ ['}']).map .char ++ after := by
  induction ps generalizing name with
  | nil => cases found
  | cons p ps ih =>
    cases p with
    | hole => cases found
    | char ch =>
      unfold closing at found
      split at found
      next is =>
        cases found
        rw [is]
        rfl
      next =>
        split at found
        next =>
          obtain ⟨rest, closed, same⟩ := map_eq_some_iff.mp found
          cases same
          exact congrArg _ (ih closed)
        next => cases found

theorem hole_iff_of_closing {ps after : List Piece} {name hole : List Char}
    (found : closing ps = some (name, after)) : .hole hole ∈ ps ↔ .hole hole ∈ after := by
  rw [eq_of_closing found]
  simp

theorem hole_of_tail {ch : Char} {text hole : List Char} (mem : .hole hole ∈ read text) :
    .hole hole ∈ read (ch :: text) := by
  unfold read
  split
  next found =>
    split at found
    next => exact mem_cons_of_mem _ ((hole_iff_of_closing found).mp mem)
    next => cases found
  next => exact mem_cons_of_mem _ mem

theorem read_of_ne {ch : Char} {text : List Char} (ne : ch ≠ '{') : read (ch :: text) = .char ch :: read text := by
  rw [read, if_neg ne]

theorem closing_append {text more name : List Char} {after : List Piece}
    (found : closing (read text) = some (name, after)) :
    ∃ after', closing (read (text ++ more)) = some (name, after') := by
  induction text generalizing name with
  | nil => cases found
  | cons ch text ih =>
    by_cases brace : ch = '{'
    · subst brace
      unfold read at found
      split at found <;> cases found
    · rw [cons_append, read_of_ne brace]
      rw [read_of_ne brace] at found
      unfold closing at found ⊢
      split at found
      next is =>
        cases found
        exact ⟨_, if_pos is⟩
      next other =>
        rw [if_neg other]
        split at found
        next word =>
          obtain ⟨rest, closed, same⟩ := map_eq_some_iff.mp found
          cases same
          obtain ⟨after', closed'⟩ := ih closed
          exact ⟨after', by rw [if_pos word, closed']; rfl⟩
        next => cases found

theorem hole_of_part {text part hole : List Char} (infixed : part <:+: text)
    (mem : .hole hole ∈ read part) : .hole hole ∈ read text := by
  obtain ⟨before, more, rfl⟩ := infixed
  rw [append_assoc]
  induction before with
  | cons ch before ih => exact hole_of_tail ih
  | nil =>
    rw [nil_append]
    induction part with
    | nil => cases mem
    | cons ch part ih =>
      rw [cons_append]
      unfold read at mem
      split at mem
      next first name after found =>
        split at found
        next brace =>
          rcases mem_cons.mp mem with is | mem
          · cases is
            obtain ⟨after', closed⟩ := @closing_append _ more _ _ found
            unfold read
            rw [if_pos brace, closed]
            exact mem_cons_self
          · exact hole_of_tail (ih ((hole_iff_of_closing found).mpr mem))
        next => cases found
      next => exact hole_of_tail (ih ((mem_cons.mp mem).resolve_left (fun is => by cases is)))

end Piece

theorem trimChars_within (text : List Char) : trimChars text <:+: text := by
  unfold trimChars trimSpace
  rw [String.toList_ofList, String.toList_ofList]
  exact ((dropWhile_suffix isSpace).reverse.trans (by simp)).isInfix.trans
    (dropWhile_suffix isSpace).isInfix

theorem eq_of_splitDots {text first last : List Char} (found : splitDots text = some (first, last)) :
    text = first ++ '.' :: '.' :: last := by
  induction text generalizing first with
  | nil => cases found
  | cons ch rest ih =>
    unfold splitDots at found
    split at found
    next split =>
      cases found
      exact congrArg _ (ih split)
    next =>
      split at found <;> cases found
      rfl
    next => cases found

theorem infix_of_rangeBounds {text : List Char} {bounds : List Char × List Char}
    (found : rangeBounds text = .ok bounds) : bounds.1 <:+: text ∧ bounds.2 <:+: text := by
  have trimmed := trimChars_within text
  unfold rangeBounds at found
  dsimp only at found
  generalize trimChars text = inner at found trimmed
  split at found
  · cases found
  split at found
  · cases found
  split at found
  next first start stop split =>
    have left : first :: start <:+: inner := by
      rw [eq_of_splitDots split]
      exact (prefix_append (first :: start) ('.' :: '.' :: stop)).isInfix
    have right : stop <:+: inner := by
      rw [eq_of_splitDots split]
      exact ⟨(first :: start) ++ ['.', '.'], [], by simp⟩
    rw [← Except.ok.inj found]
    dsimp only
    exact ⟨((trimChars_within (first :: start)).trans left).trans trimmed,
      ((trimChars_within stop).trans right).trans trimmed⟩
  next => cases found

namespace Numerals

def DigitsFor (vars : List Char → Option (List Char)) (ps : List Piece) : Prop :=
  ∀ name, .hole name ∈ ps → ∃ first rest, vars name = some (first :: rest) ∧
    ∀ ch ∈ first :: rest, ch.isDigit = true

section Tokens

variable {N N' : Type} {num : Numerals N} {num' : Numerals N'} {vars vars' : List Char → Option (List Char)}
  {ps : List Piece}

def numeralPiece : Piece → Bool
  | .char ch => isNumeral ch
  | .hole _ => true

def digitPiece : Piece → Bool
  | .char ch => ch.isDigit
  | .hole _ => true

theorem DigitsFor.tail {p : Piece} (digits : DigitsFor vars (p :: ps)) : DigitsFor vars ps :=
  fun name mem => digits name (mem_cons_of_mem p mem)

theorem span_fill (digits : DigitsFor vars ps) :
    (fill vars ps).takeWhile isNumeral = fill vars (ps.takeWhile numeralPiece) ∧
      (fill vars ps).dropWhile isNumeral = fill vars (ps.dropWhile numeralPiece) := by
  induction ps with
  | nil => exact ⟨rfl, rfl⟩
  | cons p ps ih =>
    obtain ⟨take, drop⟩ := ih digits.tail
    cases p with
    | char ch =>
      by_cases numeral : isNumeral ch = true
      · have piece : numeralPiece (.char ch) = true := numeral
        simp only [fill, takeWhile_cons_of_pos, dropWhile_cons_of_pos, numeral, piece]
        exact ⟨congrArg _ take, drop⟩
      · have piece : ¬ numeralPiece (.char ch) = true := numeral
        simp [fill, numeral, piece]
    | hole name =>
      obtain ⟨first, rest, is, all⟩ := digits name mem_cons_self
      have numerals : ∀ ch ∈ first :: rest, isNumeral ch = true :=
        fun ch mem => isNumeral_of_isDigit (all ch mem)
      simp only [fill, is, getD_some, takeWhile_cons, dropWhile_cons, numeralPiece,
        if_true]
      rw [takeWhile_append_of_pos numerals, dropWhile_append_of_pos numerals, take, drop]
      exact ⟨rfl, rfl⟩

theorem wellFormed_fill (digits : DigitsFor vars ps) : wellFormed (fill vars ps) =
    (decide (ps.count (.char '.') ≤ 1) && ps.any digitPiece) := by
  have facts : (fill vars ps).count '.' = ps.count (.char '.') ∧
      (fill vars ps).any Char.isDigit = ps.any digitPiece := by
    induction ps with
    | nil => exact ⟨rfl, rfl⟩
    | cons p ps ih =>
      obtain ⟨dots, some⟩ := ih digits.tail
      cases p with
      | char ch => simp [fill, count_cons, dots, some, digitPiece]
      | hole name =>
        obtain ⟨first, rest, is, all⟩ := digits name mem_cons_self
        have none : (first :: rest).count '.' = 0 :=
          count_eq_zero.mpr fun mem => absurd (all '.' mem) (by decide)
        simp only [fill, is, getD_some, count_append, none, dots, any_append, some]
        simp [digitPiece, all first mem_cons_self]
  rw [wellFormed, facts.1, facts.2]

/-- The second reading is out of range or of the same tokens up to their values. -/
def Same (x : Except RangeError (List (Token N))) (y : Except RangeError (List (Token N'))) : Prop :=
  ∀ ts, x = .ok ts → y = .error .outOfRange ∨ ∃ ts', y = .ok ts' ∧ ts'.map shape = ts.map shape

theorem parseFloat_same {lexeme lexeme' : List Char} (same : wellFormed lexeme' = wellFormed lexeme) {v : N}
    (ok : num.parseFloat lexeme = .ok v) :
    num'.parseFloat lexeme' = .error .outOfRange ∨ ∃ v', num'.parseFloat lexeme' = .ok v' := by
  unfold parseFloat at ok ⊢
  rw [same]
  split at ok
  next formed =>
    rw [if_pos formed]
    cases num'.read lexeme' with
    | none => exact .inl rfl
    | some v' => exact .inr ⟨v', rfl⟩
  next => cases ok

theorem number_same {lexeme lexeme' rest rest' : List Char} (same : wellFormed lexeme' = wellFormed lexeme)
    (after : Same (num.tokenize true rest) (num'.tokenize true rest')) :
    Same (num.parseFloat lexeme >>= fun v => num.tokenize true rest >>= fun ts => .ok (.number v :: ts))
      (num'.parseFloat lexeme' >>= fun v => num'.tokenize true rest' >>= fun ts => .ok (.number v :: ts)) := by
  intro ts ok
  obtain ⟨v, read, ok⟩ := bind_eq_ok ok
  obtain ⟨others, tokens, ok⟩ := bind_eq_ok ok
  cases ok
  rcases @parseFloat_same N N' num num' _ _ same _ read with range | ⟨v', read'⟩
  · rw [range]
    exact .inl rfl
  rw [read']
  rcases after others tokens with range | ⟨others', tokens', alike⟩
  · exact .inl (by rw [bind_of_ok rfl, range]; rfl)
  · exact .inr ⟨.number v' :: others', by rw [bind_of_ok rfl, tokens']; rfl, congrArg _ alike⟩

theorem shape_ofSymbol (ch : Char) :
    (ofSymbol ch : Option (Token N)).map shape = (ofSymbol ch : Option (Token N')).map shape := by
  unfold ofSymbol
  split <;> rfl

theorem symbol_same {ch : Char} {rest rest' : List Char}
    (after : Same (num.tokenize (ch = ')') rest) (num'.tokenize (ch = ')') rest')) :
    Same (match ofSymbol ch with
        | none => .error (.unexpectedCharacter ch)
        | some t => num.tokenize (ch = ')') rest >>= fun ts => .ok (t :: ts))
      (match ofSymbol ch with
        | none => .error (.unexpectedCharacter ch)
        | some t => num'.tokenize (ch = ')') rest' >>= fun ts => .ok (t :: ts)) := by
  have shapes := @shape_ofSymbol N N' ch
  intro ts ok
  cases here : (ofSymbol ch : Option (Token N)) with
  | none =>
    rw [here] at ok
    cases ok
  | some t =>
    rw [here] at ok shapes
    obtain ⟨t', here', alike⟩ := map_eq_some_iff.mp shapes.symm
    rw [here']
    obtain ⟨others, tokens, ok⟩ := bind_eq_ok ok
    cases ok
    rcases after others tokens with range | ⟨others', tokens', alikes⟩
    · exact .inl (by rw [range]; rfl)
    · exact .inr ⟨t' :: others', by rw [tokens']; rfl, by rw [map_cons, map_cons, alike, alikes]⟩

theorem tokenize_digit {closed : Bool} {ch : Char} {rest : List Char} (digit : ch.isDigit = true) :
    num.tokenize closed (ch :: rest) = num.parseFloat ((ch :: rest).takeWhile isNumeral) >>= fun v =>
      num.tokenize true ((ch :: rest).dropWhile isNumeral) >>= fun ts => .ok (.number v :: ts) := by
  rw [tokenize, isBlank_of_isDigit digit, digit]
  rw [takeWhile_cons_of_pos (isNumeral_of_isDigit digit),
    dropWhile_cons_of_pos (isNumeral_of_isDigit digit)]
  rfl

theorem fill_digit {p : Piece} (digits : DigitsFor vars (p :: ps)) (digit : digitPiece p = true) :
    ∃ ch rest, fill vars (p :: ps) = ch :: rest ∧ ch.isDigit = true := by
  cases p with
  | char ch => exact ⟨ch, _, rfl, digit⟩
  | hole name =>
    obtain ⟨first, rest, is, all⟩ := digits name mem_cons_self
    refine ⟨first, rest ++ fill vars ps, ?_, all first mem_cons_self⟩
    rw [fill, is]
    rfl

theorem DigitsFor.of_sublist {qs : List Piece} (digits : DigitsFor vars ps) (sub : qs.Sublist ps) :
    DigitsFor vars qs :=
  fun name mem => digits name (sub.mem mem)

theorem wellFormed_same {qs : List Piece} (digits : DigitsFor vars qs) (digits' : DigitsFor vars' qs) :
    wellFormed (fill vars' qs) = wellFormed (fill vars qs) :=
  (wellFormed_fill digits').trans (wellFormed_fill digits).symm

theorem isEmpty_fill (digits : DigitsFor vars ps) : (fill vars ps).isEmpty = ps.isEmpty := by
  cases ps with
  | nil => rfl
  | cons p ps =>
    cases p with
    | char => rfl
    | hole name =>
      obtain ⟨first, rest, is, -⟩ := digits name mem_cons_self
      rw [fill, is]
      rfl

variable (num num') in
theorem tokenize_same (closed : Bool) (digits : DigitsFor vars ps) (digits' : DigitsFor vars' ps) :
    Same (num.tokenize closed (fill vars ps)) (num'.tokenize closed (fill vars' ps)) := by
  generalize size : ps.length = n
  induction n using Nat.strongRecOn generalizing ps closed with
  | ind n ih =>
    cases ps with
    | nil =>
      intro ts ok
      rw [fill, tokenize] at ok ⊢
      cases ok
      exact .inr ⟨[], rfl, rfl⟩
    | cons p ps =>
      have shorter : (ps.dropWhile numeralPiece).length < n := by
        have le := (dropWhile_sublist numeralPiece (l := ps)).length_le
        rw [← size, length_cons]
        omega
      have rest := ih _ shorter true (digits.tail.of_sublist (dropWhile_sublist _))
        (digits'.tail.of_sublist (dropWhile_sublist _)) rfl
      by_cases digit : digitPiece p = true
      · obtain ⟨ch, text, is, first⟩ := fill_digit digits digit
        obtain ⟨ch', text', is', first'⟩ := fill_digit digits' digit
        have numeral : numeralPiece p = true := by
          cases p with
          | char ch => exact isNumeral_of_isDigit digit
          | hole => rfl
        rw [is, is', tokenize_digit first, tokenize_digit first', ← is, ← is', (span_fill digits).1,
          (span_fill digits').1, (span_fill digits).2, (span_fill digits').2,
          dropWhile_cons_of_pos numeral]
        exact number_same (wellFormed_same (digits.of_sublist (takeWhile_sublist _))
          (digits'.of_sublist (takeWhile_sublist _))) rest
      · cases p with
        | hole => exact (digit rfl).elim
        | char ch =>
          have plain : ch.isDigit = false := Bool.eq_false_iff.mpr digit
          have lexemes : ((fill vars' ps).takeWhile isNumeral).isEmpty =
              ((fill vars ps).takeWhile isNumeral).isEmpty := by
            rw [(span_fill digits.tail).1, (span_fill digits'.tail).1,
              isEmpty_fill (digits.tail.of_sublist (takeWhile_sublist _)),
              isEmpty_fill (digits'.tail.of_sublist (takeWhile_sublist _))]
          have next (closed : Bool) := ih ps.length (by rw [← size]; exact Nat.lt_succ_self _) closed
            digits.tail digits'.tail rfl
          rw [fill, fill, tokenize, tokenize, plain, lexemes]
          split
          next => exact next closed
          next =>
            split
            next sign =>
              simp only [Bool.false_or, Bool.and_eq_true, decide_eq_true_eq] at sign
              obtain ⟨⟨rfl, -⟩, -⟩ := sign
              rw [(span_fill digits.tail).1, (span_fill digits'.tail).1, (span_fill digits.tail).2,
                (span_fill digits'.tail).2]
              have signed (l : List Char) : wellFormed ('-' :: l) = wellFormed l := by
                simp [wellFormed]
              refine number_same ?_ rest
              rw [signed, signed]
              exact wellFormed_same (digits.tail.of_sublist (takeWhile_sublist _))
                (digits'.tail.of_sublist (takeWhile_sublist _))
            next => exact symbol_same (next _)

end Tokens

def Tame {α : Type} (x : Except RangeError α) : Prop :=
  (∃ a, x = .ok a) ∨ x = .error .divisionByZero ∨ x = .error .outOfRange

theorem Tame.bind {α β : Type} {x : Except RangeError α} {f : α → Except RangeError β} (tame : Tame x)
    (next : ∀ a, Tame (f a)) : Tame (x >>= f) := by
  rcases tame with ⟨a, rfl⟩ | rfl | rfl
  · exact next a
  · exact .inr (.inl rfl)
  · exact .inr (.inr rfl)

theorem digitsFor_ones (ps : List Piece) : DigitsFor ones ps :=
  fun _ _ => ⟨'1', [], rfl, fun _ mem => mem_singleton.mp mem ▸ rfl⟩

theorem tokenize_anyNumber (closed : Bool) (text : List Char) :
    anyNumber.tokenize closed text ≠ .error .outOfRange := by
  have inside {α β : Type} {x : Except RangeError α} {f : α → Except RangeError β}
      (other : x ≠ .error .outOfRange) (next : ∀ a, f a ≠ .error .outOfRange) :
      x >>= f ≠ .error .outOfRange := by
    cases x with
    | ok a => exact next a
    | error e => exact fun is => other (congrArg _ (Except.error.inj is))
  fun_induction tokenize anyNumber closed text with
  | case1 | case4 => exact nofun
  | case2 _ _ _ _ ih => exact ih
  | case3 _ _ _ _ _ ih =>
    refine inside ?_ fun _ => inside ih fun _ => nofun
    unfold parseFloat
    split <;> exact nofun
  | case5 _ _ _ _ _ _ _ ih => exact inside ih fun _ => nofun

variable {N : Type} {num : Numerals N} {vars : List Char → Option (List Char)}

theorem map_shape (ts : List (Token Unit)) : ts.map shape = ts := by
  refine (map_congr_left fun t _ => ?_).trans (map_id ts)
  cases t <;> rfl

theorem evaluateExpr_tame {text : List Char} {i : Int} (ok : anyNumber.evaluateExpr ones text = .ok i)
    (digits : DigitsFor vars (Piece.read text)) : Tame (num.evaluateExpr vars text) := by
  obtain ⟨ts, tokens, ok⟩ := bind_eq_ok ok
  obtain ⟨u, parsed, -⟩ := bind_eq_ok ok
  unfold evaluateExpr substituteVars
  rcases tokenize_same anyNumber num false (digitsFor_ones _) digits ts tokens with range | ⟨ts', tokens', same⟩
  · rw [range]
    exact .inr (.inr rfl)
  rw [tokens', bind_of_ok rfl]
  refine Tame.bind ?_ fun _ => .inl ⟨_, rfl⟩
  rcases parseExpr_cases num ts' with ⟨v, is, -⟩ | ⟨e, is, -, -, -, rfl | shapes⟩
  · exact .inl ⟨v, is⟩
  · exact .inr (.inl is)
  · rw [same, map_shape, parsed] at shapes
    cases shapes

theorem Tame.first {α β : Type} {x : Except RangeError α} {f : α → Except RangeError β}
    (tame : Tame (x >>= f)) : Tame x := by
  cases x with
  | ok a => exact .inl ⟨a, rfl⟩
  | error e =>
    rcases tame with ⟨a, is⟩ | is | is
    · cases is
    · exact .inr (.inl (congrArg _ (Except.error.inj is)))
    · exact .inr (.inr (congrArg _ (Except.error.inj is)))

theorem derives_of_tame {text : List Char} {ts : List (Token Unit)}
    (tokens : anyNumber.tokenize false (substituteVars ones text) = .ok ts)
    (tame : Tame (anyNumber.evaluateExpr ones text)) : Derives anyNumber .sum ts () := by
  unfold evaluateExpr at tame
  rw [bind_of_ok tokens] at tame
  rcases parseExpr_cases anyNumber ts with ⟨u, -, derived, -⟩ | ⟨e, is, -, range, zero, -⟩
  · exact derived
  · rw [is] at tame
    rcases tame with ⟨a, is⟩ | is | is
    · cases is
    · obtain ⟨v, is⟩ := zero (Except.error.inj is)
      cases is
    · exact (range (Except.error.inj is)).elim

theorem evaluateExpr_of_derives {text : List Char} {ts : List (Token Unit)}
    (tokens : anyNumber.tokenize false (substituteVars ones text) = .ok ts)
    (derived : Derives anyNumber .sum ts ()) : anyNumber.evaluateExpr ones text = .ok 0 :=
  (bind_of_ok tokens).trans (bind_of_ok (parseExpr_complete derived))

/-- What validation promises of a text: digits for its placeholders, it parses up to a division by zero
or a number out of range. And it promises no less than it can. -/
def Predicts (text : String) : Prop :=
  ∀ (N : Type) (num : Numerals N), (∀ vars, DigitsFor vars (Piece.read text.toList) →
      num.validateRange text.toList = .ok () → Tame (num.parseRange vars text.toList)) ∧
    ((∃ r, num.parseRange ones text.toList = .ok r) → num.validateRange text.toList = .ok ())

/-- Where both bounds of a text have tokens, the tokens of each are an expression of the grammar. -/
def Grammatical (text : List Char) : Prop :=
  ∀ bounds ts us, rangeBounds text = .ok bounds →
    anyNumber.tokenize false (substituteVars ones bounds.1) = .ok ts →
    anyNumber.tokenize false (substituteVars ones bounds.2) = .ok us →
    Derives anyNumber .sum ts () ∧ Derives anyNumber .sum us ()

/-- Validation reads the tokens of the two bounds and no more: it predicts exactly where the tokens of
what it accepts form expressions, whatever their values. -/
theorem predicts_iff (text : String) : Predicts text ↔ Grammatical text.toList := by
  constructor
  · intro predicts bounds ts us found tokens tokens'
    have valid : anyNumber.validateRange text.toList = .ok () := by
      unfold validateRange
      rw [bind_of_ok found, bind_of_ok tokens, bind_of_ok tokens']
      rfl
    have tame := (predicts Unit anyNumber).1 ones (digitsFor_ones _) valid
    unfold parseRange at tame
    rw [bind_of_ok found] at tame
    have derived := derives_of_tame tokens tame.first
    rw [bind_of_ok (evaluateExpr_of_derives tokens derived)] at tame
    exact ⟨derived, derives_of_tame tokens' tame.first⟩
  · intro grammatical N num
    constructor
    · intro vars digits valid
      obtain ⟨bounds, found, valid⟩ := bind_eq_ok valid
      obtain ⟨ts, tokens, valid⟩ := bind_eq_ok valid
      obtain ⟨ts', tokens', -⟩ := bind_eq_ok valid
      have reads {part : List Char} {ts : List (Token N)}
          (tokens : num.tokenize false (substituteVars ones part) = .ok ts) :
          ∃ us, anyNumber.tokenize false (substituteVars ones part) = .ok us := by
        rcases tokenize_same num anyNumber false (digitsFor_ones _) (digitsFor_ones _) ts tokens with
          range | ⟨us, tokens, -⟩
        · exact (tokenize_anyNumber _ _ range).elim
        · exact ⟨us, tokens⟩
      obtain ⟨us, first⟩ := reads tokens
      obtain ⟨us', second⟩ := reads tokens'
      obtain ⟨derived, derived'⟩ := grammatical bounds us us' found first second
      unfold parseRange
      rw [bind_of_ok found]
      obtain ⟨left, right⟩ := infix_of_rangeBounds found
      exact (evaluateExpr_tame (evaluateExpr_of_derives first derived)
          fun name mem => digits name (hole_of_part left mem)).bind fun _ =>
        (evaluateExpr_tame (evaluateExpr_of_derives second derived')
          fun name mem => digits name (hole_of_part right mem)).bind fun _ => .inl ⟨_, rfl⟩
    · rintro ⟨r, parsed⟩
      obtain ⟨bounds, found, parsed⟩ := bind_eq_ok parsed
      obtain ⟨start, first, parsed⟩ := bind_eq_ok parsed
      obtain ⟨stop, second, -⟩ := bind_eq_ok parsed
      obtain ⟨ts, tokens, -⟩ := bind_eq_ok first
      obtain ⟨ts', tokens', -⟩ := bind_eq_ok second
      unfold validateRange
      rw [bind_of_ok found, bind_of_ok tokens, bind_of_ok tokens']
      rfl

/-- A sum without its second summand passes. -/
theorem validateRange_dangling : anyNumber.validateRange "1+..2".toList = .ok () ∧
    anyNumber.parseRange ones "1+..2".toList = .error .unexpectedToken ∧ ¬ Predicts "1+..2" := by
  have bounds : rangeBounds "1+..2".toList = .ok (['1', '+'], ['2']) := by decide +kernel
  have start : anyNumber.tokenize false (substituteVars ones ['1', '+']) = .ok [.number (), .plus] := by
    rw [show substituteVars ones ['1', '+'] = ['1', '+'] by decide]
    simp [tokenize, isBlank, isNumeral, parseFloat, wellFormed, anyNumber, ofSymbol, bind, Except.bind,
      pure, Except.pure]
  have stop : anyNumber.tokenize false (substituteVars ones ['2']) = .ok [.number ()] := by
    rw [show substituteVars ones ['2'] = ['2'] by decide]
    simp [tokenize, isBlank, parseFloat, wellFormed, anyNumber, bind, Except.bind, pure, Except.pure]
  have valid : anyNumber.validateRange "1+..2".toList = .ok () := by
    unfold validateRange
    rw [bind_of_ok bounds, bind_of_ok start, bind_of_ok stop]
    rfl
  have parsed : anyNumber.parseRange ones "1+..2".toList = .error .unexpectedToken := by
    unfold parseRange evaluateExpr
    rw [bind_of_ok bounds, bind_of_ok start]
    rfl
  refine ⟨valid, parsed, fun predicts => ?_⟩
  rcases (predicts Unit anyNumber).1 ones (digitsFor_ones _) valid with ⟨r, is⟩ | is | is <;>
    rw [parsed] at is <;> cases is

end Numerals

end GasCity
