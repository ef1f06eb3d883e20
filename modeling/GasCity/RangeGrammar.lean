import GasCity.RangeExpr

namespace GasCity

open List Token

/-- Numbers of which nothing is known: each numeral is in range and none is zero. -/
def anyNumber : Numerals Unit where
  read _ := some ()
  isZero _ := false
  add _ _ := ()
  sub _ _ := ()
  mul _ _ := ()
  div _ _ := ()
  pow _ _ := ()
  neg _ := ()
  toInt _ := 0

namespace Numerals

inductive Level where
  | sum | product | power | unary | primary

/-- The grammar of the expressions with their values, by how loosely a level binds. -/
inductive Derives {N : Type} (num : Numerals N) : Level → List (Token N) → N → Prop where
  | product {ts v} : Derives num .product ts v → Derives num .sum ts v
  | add {ts us v w} : Derives num .sum ts v → Derives num .product us w →
      Derives num .sum (ts ++ .plus :: us) (num.add v w)
  | sub {ts us v w} : Derives num .sum ts v → Derives num .product us w →
      Derives num .sum (ts ++ .minus :: us) (num.sub v w)
  | power {ts v} : Derives num .power ts v → Derives num .product ts v
  | mul {ts us v w} : Derives num .product ts v → Derives num .power us w →
      Derives num .product (ts ++ .mul :: us) (num.mul v w)
  | div {ts us v w} : Derives num .product ts v → Derives num .power us w → num.isZero w = false →
      Derives num .product (ts ++ .div :: us) (num.div v w)
  | unary {ts v} : Derives num .unary ts v → Derives num .power ts v
  | pow {ts us v w} : Derives num .unary ts v → Derives num .power us w →
      Derives num .power (ts ++ .pow :: us) (num.pow v w)
  | primary {ts v} : Derives num .primary ts v → Derives num .unary ts v
  | neg {ts v} : Derives num .unary ts v → Derives num .unary (.minus :: ts) (num.neg v)
  | number (v : N) : Derives num .primary [.number v] v
  | paren {ts v} : Derives num .sum ts v → Derives num .primary (.leftParen :: ts ++ [.rightParen]) v

section Parsing

variable {N : Type} {num : Numerals N} {level level' : Level} {pre pre' ts : List (Token N)}
  {x : Except RangeError (N × List (Token N))} {y : Except RangeError (Unit × List (Token Unit))}

/-- A run on tokens and the run on their shapes, after tokens that were read before. A result is of the
tokens before with those that are gone. An error is not one of fuel or range, a division by zero has a
zero, and any other error is that of the shapes. -/
def Runs (num : Numerals N) (level : Level) (pre ts : List (Token N))
    (x : Except RangeError (N × List (Token N))) (y : Except RangeError (Unit × List (Token Unit))) : Prop :=
  match x with
  | .ok r => (∃ used, ts = used ++ r.2 ∧ Derives num level (pre ++ used) r.1) ∧
      y = .ok ((), r.2.map shape)
  | .error e => e ≠ .outOfFuel ∧ e ≠ .outOfRange ∧
      (e = .divisionByZero → ∃ v, num.isZero v = true) ∧ (e = .divisionByZero ∨ y = .error e)

theorem Runs.prepend {used : List (Token N)} (runs : Runs num level (pre ++ used) ts x y) :
    Runs num level pre (used ++ ts) x y := by
  cases x with
  | ok r =>
    obtain ⟨⟨more, is, derived⟩, same⟩ := runs
    rw [append_assoc] at derived
    exact ⟨⟨used ++ more, by rw [is, append_assoc], derived⟩, same⟩
  | error e => exact runs

theorem Runs.cons {t : Token N} (runs : Runs num level (pre ++ [t]) ts x y) :
    Runs num level pre (t :: ts) x y := runs.prepend

theorem Runs.bind {f : N × List (Token N) → Except RangeError (N × List (Token N))}
    {g : Unit × List (Token Unit) → Except RangeError (Unit × List (Token Unit))}
    (first : Runs num level pre ts x y) (next : ∀ v used rest, rest.length ≤ ts.length →
      Derives num level (pre ++ used) v →
      Runs num level' (pre' ++ used) rest (f (v, rest)) (g ((), rest.map shape))) :
    Runs num level' pre' ts (x >>= f) (y >>= g) := by
  cases x with
  | ok r =>
    obtain ⟨⟨used, rfl, derived⟩, rfl⟩ := first
    exact (next r.1 used r.2 (by simp) derived).prepend
  | error e =>
    obtain ⟨fuel, range, zero, cut⟩ := first
    refine ⟨fuel, range, zero, cut.imp_right ?_⟩
    rintro rfl
    rfl

theorem Derives.stop {v : N} (u : Unit) (derived : Derives num level pre v) :
    Runs num level pre ts (.ok (v, ts)) (.ok (u, ts.map shape)) :=
  ⟨⟨[], rfl, by rwa [append_nil]⟩, rfl⟩

theorem Derives.after {v : N} {t : Token N} {used : List (Token N)}
    (derived : Derives num level (pre ++ t :: used) v) : Derives num level (pre ++ [t] ++ used) v := by
  rwa [append_assoc]

variable (num) in
theorem parser_runs (n : Nat) :
    (∀ ts, 8 * ts.length + 5 ≤ n →
        Runs num .sum [] ts (num.parseAddSub n ts) (anyNumber.parseAddSub n (ts.map shape))) ∧
      (∀ pre v u ts, 8 * ts.length + 1 ≤ n → Derives num .sum pre v →
        Runs num .sum pre ts (num.addSubLoop n v ts) (anyNumber.addSubLoop n u (ts.map shape))) ∧
      (∀ ts, 8 * ts.length + 4 ≤ n →
        Runs num .product [] ts (num.parseMulDiv n ts) (anyNumber.parseMulDiv n (ts.map shape))) ∧
      (∀ pre v u ts, 8 * ts.length + 1 ≤ n → Derives num .product pre v →
        Runs num .product pre ts (num.mulDivLoop n v ts) (anyNumber.mulDivLoop n u (ts.map shape))) ∧
      (∀ ts, 8 * ts.length + 3 ≤ n →
        Runs num .power [] ts (num.parsePow n ts) (anyNumber.parsePow n (ts.map shape))) ∧
      (∀ pre v u ts, 8 * ts.length + 1 ≤ n → Derives num .unary pre v →
        Runs num .power pre ts (num.powTail n v ts) (anyNumber.powTail n u (ts.map shape))) ∧
      (∀ ts, 8 * ts.length + 2 ≤ n →
        Runs num .unary [] ts (num.parseUnary n ts) (anyNumber.parseUnary n (ts.map shape))) ∧
      ∀ ts, 8 * ts.length + 1 ≤ n →
        Runs num .primary [] ts (num.parsePrimary n ts) (anyNumber.parsePrimary n (ts.map shape)) := by
  have stuck {level : Level} {pre ts : List (Token N)} {e : RangeError} (fuel : e ≠ .outOfFuel)
      (range : e ≠ .outOfRange) (zero : e ≠ .divisionByZero) :
      Runs num level pre ts (.error e) (.error e) := ⟨fuel, range, fun is => (zero is).elim, .inr rfl⟩
  induction n with
  | zero => simp
  | succ n ih =>
    obtain ⟨addSub, addSubs, mulDiv, mulDivs, pow, pows, unary, primary⟩ := ih
    have plain (ts : List (Token N)) (fuel : 8 * ts.length + 1 ≤ n) :
        Runs num .unary [] ts (num.parsePrimary n ts) (anyNumber.parsePrimary n (ts.map shape)) := by
      have runs := primary ts fuel
      cases is : num.parsePrimary n ts with
      | ok r =>
        rw [is] at runs
        obtain ⟨⟨used, rest, derived⟩, same⟩ := runs
        exact ⟨⟨used, rest, derived.primary⟩, same⟩
      | error e => rwa [is] at runs
    refine ⟨fun ts fuel => ?_, fun pre v u ts fuel left => ?_, fun ts fuel => ?_,
      fun pre v u ts fuel left => ?_, fun ts fuel => ?_, fun pre v u ts fuel base => ?_,
      fun ts fuel => ?_, fun ts fuel => ?_⟩
    · exact (mulDiv ts (by omega)).bind fun v used rest less d => addSubs _ v () rest (by omega) d.product
    · cases ts with
      | nil => exact left.stop u
      | cons t ts =>
        simp only [length_cons] at fuel
        cases t with
        | plus =>
          exact Runs.cons ((mulDiv ts (by omega)).bind fun w used rest less d =>
            addSubs _ _ () rest (by omega) (left.add d).after)
        | minus =>
          exact Runs.cons ((mulDiv ts (by omega)).bind fun w used rest less d =>
            addSubs _ _ () rest (by omega) (left.sub d).after)
        | _ => exact left.stop u
    · exact (pow ts (by omega)).bind fun v used rest less d => mulDivs _ v () rest (by omega) d.power
    · cases ts with
      | nil => exact left.stop u
      | cons t ts =>
        simp only [length_cons] at fuel
        cases t with
        | mul =>
          exact Runs.cons ((pow ts (by omega)).bind fun w used rest less d =>
            mulDivs _ _ () rest (by omega) (left.mul d).after)
        | div =>
          refine Runs.cons ((pow ts (by omega)).bind fun w used rest less d => ?_)
          show Runs num _ _ _ (if num.isZero w then _ else _) _
          split
          next zero => exact ⟨nofun, nofun, fun _ => ⟨w, zero⟩, .inl rfl⟩
          next nonzero =>
            exact mulDivs _ _ () rest (by omega) (left.div d (Bool.not_eq_true _ ▸ nonzero)).after
        | _ => exact left.stop u
    · exact (unary ts (by omega)).bind fun v used rest less d => pows _ v () rest (by omega) d
    · cases ts with
      | nil => exact base.unary.stop u
      | cons t ts =>
        simp only [length_cons] at fuel
        cases t with
        | pow =>
          exact Runs.cons ((pow ts (by omega)).bind fun w used rest less d =>
            (base.pow d).after.stop ())
        | _ => exact base.unary.stop u
    · cases ts with
      | nil => exact plain [] (by simp at fuel ⊢; omega)
      | cons t ts =>
        simp only [length_cons] at fuel
        cases t with
        | minus =>
          exact Runs.cons ((unary ts (by omega)).bind fun w used rest less d => d.neg.stop ())
        | _ => exact plain _ (by simp only [length_cons]; omega)
    · cases ts with
      | nil => exact stuck nofun nofun nofun
      | cons t ts =>
        simp only [length_cons] at fuel
        cases t with
        | number v => exact Runs.cons ((Derives.number v).stop ())
        | leftParen =>
          refine Runs.cons ((addSub ts (by omega)).bind fun w used rest less d => ?_)
          cases rest with
          | nil => exact stuck nofun nofun nofun
          | cons t rest =>
            cases t with
            | rightParen => exact Runs.cons (d.paren.stop ())
            | _ => exact stuck nofun nofun nofun
        | _ => exact stuck nofun nofun nofun

/-- Tokens with a value are derived with it, and so are their shapes. -/
theorem parseExpr_cases (num : Numerals N) (ts : List (Token N)) :
    (∃ v, num.parseExpr ts = .ok v ∧ Derives num .sum ts v ∧
        anyNumber.parseExpr (ts.map shape) = .ok ()) ∨
      ∃ e, num.parseExpr ts = .error e ∧ e ≠ .outOfFuel ∧ e ≠ .outOfRange ∧
        (e = .divisionByZero → ∃ v, num.isZero v = true) ∧
        (e = .divisionByZero ∨ anyNumber.parseExpr (ts.map shape) = .error e) := by
  have runs := (parser_runs num (8 * ts.length + 8)).1 ts (by omega)
  unfold parseExpr
  rw [length_map]
  cases parsed : num.parseAddSub (8 * ts.length + 8) ts with
  | error e =>
    rw [parsed] at runs
    obtain ⟨fuel, range, zero, cut⟩ := runs
    exact .inr ⟨e, rfl, fuel, range, zero, cut.imp_right fun same => by rw [same]; rfl⟩
  | ok r =>
    rw [parsed] at runs
    obtain ⟨⟨used, is, derived⟩, same⟩ := runs
    obtain ⟨v, rest⟩ := r
    rw [same]
    cases rest with
    | nil =>
      rw [append_nil] at is
      exact .inl ⟨v, rfl, is ▸ derived, rfl⟩
    | cons => exact .inr ⟨.trailingToken, rfl, nofun, nofun, nofun, .inr rfl⟩

end Parsing

section Completeness

variable {N : Type} {num : Numerals N} {level : Level} {ts rest : List (Token N)} {v : N} {n : Nat}

/-- No operator follows that would bind the last operand. -/
def Level.ends : Level → List (Token N) → Bool
  | .sum, .mul :: _ | .sum, .div :: _ | .sum, .pow :: _ | .product, .pow :: _ | .power, .pow :: _ => false
  | _, _ => true

/-- With enough fuel the parser reads the tokens, whatever follows. After a sum or a product it stands in
the loop of the level. -/
def Reads (num : Numerals N) (level : Level) (ts : List (Token N)) (v : N) : Prop :=
  ∀ n rest, level.ends rest = true → match level with
  | .sum => 8 * (ts ++ rest).length + 5 ≤ n →
      ∃ m ≥ 8 * rest.length, num.parseAddSub n (ts ++ rest) = num.addSubLoop (m + 1) v rest
  | .product => 8 * (ts ++ rest).length + 4 ≤ n →
      ∃ m ≥ 8 * rest.length, num.parseMulDiv n (ts ++ rest) = num.mulDivLoop (m + 1) v rest
  | .power => 8 * (ts ++ rest).length + 3 ≤ n → num.parsePow n (ts ++ rest) = .ok (v, rest)
  | .unary | .primary => 8 * (ts ++ rest).length + 2 ≤ n → num.parseUnary n (ts ++ rest) = .ok (v, rest)

theorem Reads.power_ends (reads : Reads num .power ts v) (fuel : 8 * (ts ++ rest).length + 3 ≤ n)
    (ends : Level.ends .product rest = true) : num.parsePow n (ts ++ rest) = .ok (v, rest) := by
  refine reads n rest ?_ fuel
  cases rest with
  | nil => rfl
  | cons t rest => cases t <;> first | rfl | cases ends

theorem Reads.product_ends (reads : Reads num .product ts v) (fuel : 8 * (ts ++ rest).length + 4 ≤ n)
    (ends : Level.ends .sum rest = true) : num.parseMulDiv n (ts ++ rest) = .ok (v, rest) := by
  have looser : Level.ends .product rest = true := by
    cases rest with
    | nil => rfl
    | cons t rest => cases t <;> first | rfl | cases ends
  obtain ⟨m, -, is⟩ := reads n rest looser fuel
  rw [is]
  cases rest with
  | nil => rfl
  | cons t rest => cases t <;> first | rfl | cases ends

theorem Derives.reads (derived : Derives num level ts v) : Reads num level ts v := by
  induction derived with
  | product _ ih =>
    intro n rest ends fuel
    obtain ⟨n, rfl⟩ : ∃ m, n = m + 2 := ⟨n - 2, by omega⟩
    exact ⟨n, by simp at fuel; omega, bind_of_ok (ih.product_ends (by omega) ends)⟩
  | add _ _ first second | sub _ _ first second =>
    intro n rest ends fuel
    rw [append_assoc, cons_append] at fuel ⊢
    obtain ⟨m, more, is⟩ := first n _ rfl fuel
    simp only [length_cons, length_append] at more
    obtain ⟨m, rfl⟩ : ∃ k, m = k + 1 := ⟨m - 1, by omega⟩
    exact ⟨m, by omega, is.trans (bind_of_ok (second.product_ends (by simp; omega) ends))⟩
  | power _ ih =>
    intro n rest ends fuel
    obtain ⟨n, rfl⟩ : ∃ m, n = m + 2 := ⟨n - 2, by omega⟩
    exact ⟨n, by simp at fuel; omega, bind_of_ok (ih.power_ends (by omega) ends)⟩
  | mul _ _ first second =>
    intro n rest ends fuel
    rw [append_assoc, cons_append] at fuel ⊢
    obtain ⟨m, more, is⟩ := first n _ rfl fuel
    simp only [length_cons, length_append] at more
    obtain ⟨m, rfl⟩ : ∃ k, m = k + 1 := ⟨m - 1, by omega⟩
    exact ⟨m, by omega, is.trans (bind_of_ok (second.power_ends (by simp; omega) ends))⟩
  | div _ _ nonzero first second =>
    intro n rest ends fuel
    rw [append_assoc, cons_append] at fuel ⊢
    obtain ⟨m, more, is⟩ := first n _ rfl fuel
    simp only [length_cons, length_append] at more
    obtain ⟨m, rfl⟩ : ∃ k, m = k + 1 := ⟨m - 1, by omega⟩
    exact ⟨m, by omega, (is.trans (bind_of_ok (second.power_ends (by simp; omega) ends))).trans
      (if_neg (by simp [nonzero]))⟩
  | unary _ ih =>
    intro n rest ends fuel
    obtain ⟨n, rfl⟩ : ∃ m, n = m + 2 := ⟨n - 2, by omega⟩
    refine (bind_of_ok (ih (n + 1) rest rfl (by omega))).trans ?_
    cases rest with
    | nil => rfl
    | cons t rest => cases t <;> first | rfl | cases ends
  | pow _ _ first second =>
    intro n rest ends fuel
    rw [append_assoc, cons_append] at fuel ⊢
    obtain ⟨n, rfl⟩ : ∃ m, n = m + 2 := ⟨n - 2, by omega⟩
    refine (bind_of_ok (first (n + 1) _ rfl (by omega))).trans ?_
    exact bind_of_ok (second n rest ends (by simp at fuel ⊢; omega))
  | primary _ ih => exact ih
  | neg _ ih =>
    intro n rest ends fuel
    obtain ⟨n, rfl⟩ : ∃ m, n = m + 1 := ⟨n - 1, by omega⟩
    exact bind_of_ok (ih n rest rfl (by simp at fuel ⊢; omega))
  | number v =>
    intro n rest ends fuel
    obtain ⟨n, rfl⟩ : ∃ m, n = m + 2 := ⟨n - 2, by omega⟩
    rfl
  | paren _ ih =>
    intro n rest ends fuel
    obtain ⟨n, rfl⟩ : ∃ m, n = m + 2 := ⟨n - 2, by omega⟩
    rw [append_assoc]
    obtain ⟨m, -, is⟩ := ih n (.rightParen :: rest) rfl (by simp at fuel ⊢; omega)
    exact bind_of_ok is

/-- The parser is complete for the grammar. -/
theorem parseExpr_complete (derived : Derives num .sum ts v) : num.parseExpr ts = .ok v := by
  obtain ⟨m, -, is⟩ := derived.reads (8 * ts.length + 8) [] rfl (by simp)
  rw [append_nil] at is
  exact bind_of_ok is

end Completeness

/-- A numeral as it is written: a digit, then digits and at most one dot, in range. -/
structure Literal {N : Type} (num : Numerals N) where
  first : Char
  rest : List Char
  value : N
  digit : first.isDigit = true
  numeral : ∀ ch ∈ rest, isNumeral ch = true
  formed : wellFormed (first :: rest) = true
  read : num.read (first :: rest) = some value

inductive BinaryOp where
  | add | sub | mul | div | pow

namespace BinaryOp

variable {N : Type}

def symbol : BinaryOp → Char
  | add => '+'
  | sub => '-'
  | mul => '*'
  | div => '/'
  | pow => '^'

def token : BinaryOp → Token N
  | add => .plus
  | sub => .minus
  | mul => .mul
  | div => .div
  | pow => .pow

def apply (num : Numerals N) : BinaryOp → N → N → N
  | add => num.add
  | sub => num.sub
  | mul => num.mul
  | div => num.div
  | pow => num.pow

end BinaryOp

inductive ExprTree {N : Type} (num : Numerals N) where
  | literal (l : Literal num)
  | neg (e : ExprTree num)
  | binary (op : BinaryOp) (a b : ExprTree num)

namespace ExprTree

variable {N : Type} {num : Numerals N}

def value : ExprTree num → N
  | literal l => l.value
  | neg e => num.neg e.value
  | binary op a b => op.apply num a.value b.value

def NoZeroDivision : ExprTree num → Prop
  | literal _ => True
  | neg e => e.NoZeroDivision
  | binary op a b =>
    a.NoZeroDivision ∧ b.NoZeroDivision ∧ (op = .div → num.isZero b.value = false)

def render : ExprTree num → List Char
  | literal l => l.first :: l.rest
  | neg e => '(' :: '-' :: (e.render ++ [')'])
  | binary op a b => '(' :: (a.render ++ op.symbol :: (b.render ++ [')']))

end ExprTree

section Rendering

variable {N : Type} {num : Numerals N} {ts us : List (Token N)} {v w : N}

theorem Derives.binary (op : BinaryOp) (left : Derives num .unary ts v) (right : Derives num .unary us w)
    (nonzero : op = .div → num.isZero w = false) :
    Derives num .sum (ts ++ op.token :: us) (op.apply num v w) := by
  cases op with
  | add => exact .add (.product (.power (.unary left))) (.power (.unary right))
  | sub => exact .sub (.product (.power (.unary left))) (.power (.unary right))
  | mul => exact .product (.mul (.power (.unary left)) (.unary right))
  | div => exact .product (.div (.power (.unary left)) (.unary right) (nonzero rfl))
  | pow => exact .product (.power (.pow left (.unary right)))

variable {ch : Char} {t : Token N} {closed : Bool} {rest lexeme : List Char}

theorem isNumeral_of_isDigit (digit : ch.isDigit = true) : isNumeral ch = true := by
  rw [isNumeral, digit]
  rfl

theorem isBlank_of_isDigit (digit : ch.isDigit = true) : isBlank ch = false := by
  cases blank : isBlank ch with
  | false => rfl
  | true =>
    simp only [isBlank, mem_cons, not_mem_nil, or_false, decide_eq_true_eq] at blank
    rcases blank with is | is | is | is | is | is <;> simp [Char.isDigit, is] at digit

theorem tokenize_symbol (symbol : ofSymbol ch = some t)
    (single : ch = '-' → closed = true ∨ rest.takeWhile isNumeral = [])
    (tokens : num.tokenize (ch = ')') rest = .ok ts) : num.tokenize closed (ch :: rest) = .ok (t :: ts) := by
  have plain : isBlank ch = false ∧ ch.isDigit = false := by
    unfold ofSymbol at symbol
    split at symbol <;> first | decide | cases symbol
  have apart : (ch = '-' && !closed && !(rest.takeWhile isNumeral).isEmpty) = false := by
    by_cases minus : ch = '-'
    · rcases single minus with is | is <;> simp [is]
    · simp [minus]
  rw [tokenize, plain.1, plain.2, apart, symbol]
  show (num.tokenize (ch = ')') rest >>= _) = _
  rw [tokens]
  rfl

theorem tokenize_number (solid : isBlank ch = false)
    (starts : (ch.isDigit || (ch = '-' && !closed && !lexeme.isEmpty)) = true)
    (numeral : ∀ ch ∈ lexeme, isNumeral ch = true) (after : ∀ ch ∈ rest.head?, isNumeral ch = false)
    (parsed : num.parseFloat (ch :: lexeme) = .ok v) (tokens : num.tokenize true rest = .ok ts) :
    num.tokenize closed (ch :: (lexeme ++ rest)) = .ok (.number v :: ts) := by
  have ends : rest.takeWhile isNumeral = [] ∧ rest.dropWhile isNumeral = rest := by
    cases rest with
    | nil => exact ⟨rfl, rfl⟩
    | cons ch rest => simp [after ch rfl]
  rw [tokenize, takeWhile_append_of_pos numeral, dropWhile_append_of_pos numeral, ends.1, ends.2,
    append_nil, solid, starts]
  show (num.parseFloat (ch :: lexeme) >>= _) = _
  rw [parsed, bind_of_ok rfl, tokens]
  rfl

theorem Literal.parsed (l : Literal num) : num.parseFloat (l.first :: l.rest) = .ok l.value := by
  rw [parseFloat, l.formed, l.read]
  rfl

theorem tokenize_render
    (signed : ∀ l : Literal num, num.read ('-' :: l.first :: l.rest) = some (num.neg l.value))
    (e : ExprTree num) (sound : e.NoZeroDivision) (after : ∀ ch ∈ rest.head?, isNumeral ch = false)
    (tokens : num.tokenize true rest = .ok us) :
    ∃ ts, num.tokenize closed (e.render ++ rest) = .ok (ts ++ us) ∧ Derives num .unary ts e.value := by
  have close {rest : List Char} {us : List (Token N)} (tokens : num.tokenize true rest = .ok us) :
      num.tokenize true (')' :: rest) = .ok (.rightParen :: us) :=
    tokenize_symbol rfl (fun is => absurd is (by decide)) tokens
  have opens {text : List Char} {us : List (Token N)} (closed : Bool) (ts : List (Token N))
      (tokens : num.tokenize false text = .ok (ts ++ .rightParen :: us)) :
      num.tokenize closed ('(' :: text) = .ok (.leftParen :: ts ++ [.rightParen] ++ us) := by
    simpa using @tokenize_symbol N num _ '(' _ closed text rfl (fun is => absurd is (by decide)) tokens
  induction e generalizing closed rest us with
  | literal l =>
    exact ⟨[.number l.value], tokenize_number (isBlank_of_isDigit l.digit) (by rw [l.digit]; rfl) l.numeral
      after l.parsed tokens, .primary (.number _)⟩
  | neg e ih =>
    cases e with
    | literal l =>
      have parsed : num.parseFloat ('-' :: l.first :: l.rest) = .ok (num.neg l.value) := by
        have formed : wellFormed ('-' :: l.first :: l.rest) = true := by simpa [wellFormed] using l.formed
        rw [parseFloat, formed, signed]
        rfl
      -- the minus sign belongs to the number
      have inner := opens closed [.number (num.neg l.value)] (tokenize_number (by decide) rfl
        (forall_mem_cons.mpr ⟨isNumeral_of_isDigit l.digit, l.numeral⟩) (by simp [isNumeral]) parsed
        (close tokens))
      exact ⟨_, by simpa [ExprTree.render] using inner,
        .primary (.paren (.product (.power (.unary (.primary (.number (num.neg l.value)))))))⟩
    | neg e | binary op a b =>
      obtain ⟨ts, inner, derived⟩ := @ih _ false (')' :: rest) sound (by simp [isNumeral]) (close tokens)
      have minus := @tokenize_symbol N num _ '-' _ false _ rfl (fun _ => .inr rfl) inner
      exact ⟨_, by simpa [ExprTree.render] using opens closed (.minus :: ts) minus,
        .primary (.paren (.product (.power (.unary (.neg derived)))))⟩
  | binary op a b first second =>
    obtain ⟨left, right, nonzero⟩ := sound
    obtain ⟨us', inner', derived'⟩ :=
      @second _ false (')' :: rest) right (by simp [isNumeral]) (close tokens)
    have symbol : ofSymbol op.symbol = some (op.token : Token N) := by cases op <;> rfl
    have apart : op.symbol ≠ ')' := by cases op <;> decide
    have operator := @tokenize_symbol N num _ _ _ true _ symbol (fun _ => .inl rfl)
      (by rw [decide_eq_false apart]; exact inner')
    obtain ⟨ts, inner, derived⟩ := @first _ false _ left
      (by cases op <;> simp [BinaryOp.symbol, isNumeral]) operator
    refine ⟨_, ?_, .primary (.paren (derived.binary op derived' nonzero))⟩
    simpa [ExprTree.render] using opens closed (ts ++ op.token :: us') (by rw [inner, append_assoc]; rfl)

end Rendering

/-- The text of a tree is parsed to its value, and tokens with a value are derived with it, all of them. -/
theorem parser_computes {N : Type} (num : Numerals N)
    (signed : ∀ l : Literal num, num.read ('-' :: l.first :: l.rest) = some (num.neg l.value)) :
    (∀ e : ExprTree num, e.NoZeroDivision →
        (num.tokenize false e.render >>= num.parseExpr) = .ok e.value) ∧
      ∀ ts v, num.parseExpr ts = .ok v → Derives num .sum ts v := by
  refine ⟨fun e sound => ?_, fun ts v parsed => ?_⟩
  · obtain ⟨ts, tokens, derived⟩ :=
      @tokenize_render N num [] false [] signed e sound (by simp) (by rw [tokenize])
    rw [append_nil, append_nil] at tokens
    rw [tokens]
    exact parseExpr_complete (.product (.power (.unary derived)))
  · rcases parseExpr_cases num ts with ⟨w, is, derived, -⟩ | ⟨e, is, -⟩
    · cases is.symm.trans parsed
      exact derived
    · cases is.symm.trans parsed

def integers : Numerals Int where
  read lexeme :=
    let number := (lexeme.dropWhile (· = '-')).foldl (fun n ch => 10 * n + (ch.toNat - 48 : Int)) 0
    some (if lexeme.head? = some '-' then -number else number)
  isZero v := v = 0
  add := (· + ·)
  sub := (· - ·)
  mul := (· * ·)
  div := (· / ·)
  pow v w := v.pow w.toNat
  neg v := -v
  toInt := id

def two : Literal integers := ⟨'2', [], 2, by decide, by simp, by decide, by decide⟩

theorem parser_computes_square : (integers.tokenize false ['(', '(', '-', '2', ')', '^', '2', ')'] >>=
    integers.parseExpr) = .ok 4 := by
  refine (parser_computes integers fun l => ?_).1 (.binary .pow (.neg (.literal two)) (.literal two))
    ⟨trivial, trivial, fun is => by cases is⟩
  have plain : l.first ≠ '-' := fun is => absurd (is ▸ l.digit) (by decide)
  have read := l.read
  simp only [integers, head?_cons, Option.some.injEq, plain, decide_false, dropWhile_cons, if_false] at read
  simp [integers, ← read, plain]

end Numerals

end GasCity
