import GasCity.Interleave
import GasCity.MemStore

namespace GasCity

/-- A character of a name: the class `\w`. -/
def isWord (ch : Char) : Bool := ch.isAlphanum || ch = '_'

inductive Piece where
  | char (ch : Char)
  | hole (name : List Char)
  deriving DecidableEq

namespace Piece

def closing : List Piece → Option (List Char × List Piece)
  | .char ch :: rest =>
    if ch = '}' then some ([], rest)
    else if isWord ch then (closing rest).map fun found => (ch :: found.1, found.2)
    else none
  | _ => none

/-- The placeholders are the matches of `\{(\w+)\}`, which cannot overlap. -/
def read : List Char → List Piece
  | [] => []
  | ch :: rest =>
    match if ch = '{' then closing (read rest) else none with
    | some (first :: name, after) => .hole (first :: name) :: after
    | _ => .char ch :: read rest

def fill (vars : List Char → Option (List Char)) : List Piece → List Char
  | [] => []
  | .char ch :: rest => ch :: fill vars rest
  | .hole name :: rest => (vars name).getD ('{' :: name ++ ['}']) ++ fill vars rest

end Piece

def substituteVars (vars : List Char → Option (List Char)) (text : List Char) : List Char :=
  Piece.fill vars (Piece.read text)

inductive RangeError where
  | emptyExpression
  | invalidFormat
  | invalidNumber
  | outOfRange
  | unexpectedCharacter (ch : Char)
  | unexpectedToken
  | unclosedParenthesis
  | trailingToken
  | divisionByZero
  | outOfFuel
  deriving DecidableEq

/-- The numbers of the expressions: the source has 64-bit floats. -/
structure Numerals (N : Type) where
  /-- The value of a well-formed numeral, if it is in range. -/
  read : List Char → Option N
  isZero : N → Bool
  add : N → N → N
  sub : N → N → N
  mul : N → N → N
  div : N → N → N
  pow : N → N → N
  neg : N → N
  toInt : N → Int

inductive Token (N : Type) where
  | number (value : N)
  | plus
  | minus
  | mul
  | div
  | pow
  | leftParen
  | rightParen

namespace Token

variable {N : Type}

def shape : Token N → Token Unit
  | number _ => number ()
  | plus => plus
  | minus => minus
  | mul => mul
  | div => div
  | pow => pow
  | leftParen => leftParen
  | rightParen => rightParen

def ofSymbol (ch : Char) : Option (Token N) :=
  match ch with
  | '+' => some plus
  | '-' => some minus
  | '*' => some mul
  | '/' => some div
  | '^' => some pow
  | '(' => some leftParen
  | ')' => some rightParen
  | _ => none

end Token

namespace Numerals

variable {N : Type} (num : Numerals N)

def isNumeral (ch : Char) : Bool := ch.isDigit || ch = '.'

/-- The texts of digits, dots and a sign that ParseFloat reads: one dot at most, and a digit. -/
def wellFormed (lexeme : List Char) : Bool :=
  decide (lexeme.count '.' ≤ 1) && lexeme.any Char.isDigit

def parseFloat (lexeme : List Char) : Except RangeError N :=
  if wellFormed lexeme then
    match num.read lexeme with
    | some v => .ok v
    | none => .error .outOfRange
  else .error .invalidNumber

/-- The source looks at bytes: of a character beyond ASCII it refuses the first one. -/
def isBlank (ch : Char) : Bool := ch.val ∈ [0x9, 0xa, 0xb, 0xc, 0xd, 0x20]

/-- The flag tells whether the token before is a number or a right parenthesis. The end of the list
stands for the token of the end. -/
def tokenize (closed : Bool) : List Char → Except RangeError (List (Token N))
  | [] => .ok []
  | ch :: rest =>
    if isBlank ch then tokenize closed rest
    else if ch.isDigit || (ch = '-' && !closed && !(rest.takeWhile isNumeral).isEmpty) then do
      let v ← num.parseFloat (ch :: rest.takeWhile isNumeral)
      return .number v :: (← tokenize true (rest.dropWhile isNumeral))
    else
      match Token.ofSymbol ch with
      | none => .error (.unexpectedCharacter ch)
      | some t => do return t :: (← tokenize (ch = ')') rest)
termination_by text => text.length
decreasing_by
  · simp
  · exact Nat.lt_succ_of_le (List.dropWhile_sublist isNumeral).length_le
  · simp

abbrev Parse (N : Type) := List (Token N) → Except RangeError (N × List (Token N))

mutual

/-- The parser spends one unit of its first argument for each call. -/
def parseAddSub : Nat → Parse N
  | 0, _ => .error .outOfFuel
  | n + 1, ts => do
    let (left, ts) ← parseMulDiv n ts
    addSubLoop n left ts

def addSubLoop : Nat → N → Parse N
  | 0, _, _ => .error .outOfFuel
  | n + 1, left, .plus :: ts => do
    let (right, ts) ← parseMulDiv n ts
    addSubLoop n (num.add left right) ts
  | n + 1, left, .minus :: ts => do
    let (right, ts) ← parseMulDiv n ts
    addSubLoop n (num.sub left right) ts
  | _ + 1, left, ts => .ok (left, ts)

def parseMulDiv : Nat → Parse N
  | 0, _ => .error .outOfFuel
  | n + 1, ts => do
    let (left, ts) ← parsePow n ts
    mulDivLoop n left ts

def mulDivLoop : Nat → N → Parse N
  | 0, _, _ => .error .outOfFuel
  | n + 1, left, .mul :: ts => do
    let (right, ts) ← parsePow n ts
    mulDivLoop n (num.mul left right) ts
  | n + 1, left, .div :: ts => do
    let (right, ts) ← parsePow n ts
    if num.isZero right then .error .divisionByZero
    else mulDivLoop n (num.div left right) ts
  | _ + 1, left, ts => .ok (left, ts)

def parsePow : Nat → Parse N
  | 0, _ => .error .outOfFuel
  | n + 1, ts => do
    let (base, ts) ← parseUnary n ts
    powTail n base ts

def powTail : Nat → N → Parse N
  | 0, _, _ => .error .outOfFuel
  | n + 1, base, .pow :: ts => do
    let (exponent, ts) ← parsePow n ts
    return (num.pow base exponent, ts)
  | _ + 1, base, ts => .ok (base, ts)

def parseUnary : Nat → Parse N
  | 0, _ => .error .outOfFuel
  | n + 1, .minus :: ts => do
    let (v, ts) ← parseUnary n ts
    return (num.neg v, ts)
  | n + 1, ts => parsePrimary n ts

def parsePrimary : Nat → Parse N
  | 0, _ => .error .outOfFuel
  | _ + 1, .number v :: ts => .ok (v, ts)
  | n + 1, .leftParen :: ts => do
    let (v, ts) ← parseAddSub n ts
    match ts with
    | .rightParen :: ts => .ok (v, ts)
    | _ => .error .unclosedParenthesis
  | _ + 1, _ => .error .unexpectedToken

end

def parseExpr (ts : List (Token N)) : Except RangeError N := do
  let (v, rest) ← num.parseAddSub (8 * ts.length + 8) ts
  if rest.isEmpty then return v else .error .trailingToken

def evaluateExpr (vars : List Char → Option (List Char)) (text : List Char) : Except RangeError Int := do
  let ts ← num.tokenize false (substituteVars vars text)
  return num.toInt (← num.parseExpr ts)

end Numerals

def trimChars (text : List Char) : List Char := (trimSpace (String.ofList text)).toList

def splitDots : List Char → Option (List Char × List Char)
  | [] => none
  | ch :: rest =>
    match splitDots rest, ch, rest with
    | some (first, last), _, _ => some (ch :: first, last)
    | none, '.', '.' :: last => if last.isEmpty then none else some ([], last)
    | none, _, _ => none

/-- The match of `^(.+)\.\.(.+)$`, the two bounds trimmed. -/
def rangeBounds (text : List Char) : Except RangeError (List Char × List Char) :=
  let text := trimChars text
  if text.isEmpty then .error .emptyExpression
  else if '\n' ∈ text then .error .invalidFormat
  else
    match splitDots text with
    | some (first :: start, stop) => .ok (trimChars (first :: start), trimChars stop)
    | _ => .error .invalidFormat

namespace Numerals

variable {N : Type} (num : Numerals N)

def parseRange (vars : List Char → Option (List Char)) (text : List Char) :
    Except RangeError (Int × Int) := do
  let bounds ← rangeBounds text
  let start ← num.evaluateExpr vars bounds.1
  let stop ← num.evaluateExpr vars bounds.2
  return (start, stop)

def ones : List Char → Option (List Char) := fun _ => some ['1']

def validateRange (text : List Char) : Except RangeError Unit := do
  let bounds ← rangeBounds text
  let _ ← num.tokenize false (substituteVars ones bounds.1)
  let _ ← num.tokenize false (substituteVars ones bounds.2)
  return ()

end Numerals

end GasCity
