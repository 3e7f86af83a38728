import PixelPanel.Json.Value
import PixelPanel.Text.Digit

/-!
# JSON tokens

The marks, names and values of a JSON text. Places are counted from the end: a place is the number of
characters that are left. A text that is not well formed is a token too, for it only matters where a
text may stand, and a character that begins no token is one by itself.
-/

namespace PixelPanel.Json

/-- What can be wrong with a JSON text. -/
inductive Problem
  | value
  | name
  | colon
  | comma
  | extra
  | endOfText
  | control
  | escape
  | hexEscape
  | byteOrderMark
  deriving DecidableEq, Repr

/-- A problem and its place. -/
structure Flaw where
  problem : Problem
  left : Nat
  deriving DecidableEq, Repr

/-- The marks that give a document its shape. -/
inductive Mark
  | openList
  | closeList
  | openObject
  | closeObject
  | colon
  | comma
  deriving DecidableEq, Repr

/-- One token. -/
inductive Token
  | mark (mark : Mark)
  | text (points : Points)
  | flawedText (flaw : Flaw)
  /-- `null`, a truth value or a number. -/
  | scalar (value : Value)
  /-- An integer with too many digits. -/
  | longInteger (digits : Nat)
  | other
  deriving Repr

/-- A character that means nothing between tokens. -/
def isBlank (c : Char) : Bool :=
  c = ' ' ∨ c = '\t' ∨ c = '\n' ∨ c = '\r'

/-- The mark that a character is. -/
def Mark.ofChar? : Char → Option Mark
  | '[' => some .openList
  | ']' => some .closeList
  | '\x7b' => some .openObject
  | '\x7d' => some .closeObject
  | ':' => some .colon
  | ',' => some .comma
  | _ => none

/-- What a character stands for after a backslash. -/
def escaped? : Char → Option Nat
  | '"' => some 0x22
  | '\\' => some 0x5C
  | '/' => some 0x2F
  | 'b' => some 0x08
  | 'f' => some 0x0C
  | 'n' => some 0x0A
  | 'r' => some 0x0D
  | 't' => some 0x09
  | _ => none

/-- The number of four hexadecimal digits. -/
def hexPoint? (a b c d : Char) : Option Nat := do
  return ((← Hex.value? a) * 16 + (← Hex.value? b)) * 256 + (← Hex.value? c) * 16 +
    (← Hex.value? d)

/-- Reads a text after its opening quote up to the closing one. A place is needed for a text that
does not end: that of its opening quote. -/
def readText (opened : Nat) : List Char → Except Flaw (Points × List Char)
  | [] => .error ⟨.endOfText, opened⟩
  | '"' :: rest => .ok ([], rest)
  | ['\\'] => .error ⟨.endOfText, opened⟩
  | '\\' :: 'u' :: a :: b :: c :: d :: next :: rest =>
    match hexPoint? a b c d with
    | none => .error ⟨.hexEscape, rest.length + 6⟩
    | some point => (readText opened (next :: rest)).map fun (points, rest) => (point :: points, rest)
  | '\\' :: 'u' :: rest => .error ⟨.hexEscape, rest.length + 1⟩
  | '\\' :: c :: rest =>
    match escaped? c with
    | none => .error ⟨.escape, rest.length + 2⟩
    | some point => (readText opened rest).map fun (points, rest) => (point :: points, rest)
  | c :: rest =>
    if c < ' ' then .error ⟨.control, rest.length + 1⟩
    else (readText opened rest).map fun (points, rest) => (c.toNat :: points, rest)

/-- Joins the halves of surrogate pairs. -/
def joinPairs : Points → Points
  | high :: low :: rest =>
    if 0xD800 ≤ high ∧ high < 0xDC00 ∧ 0xDC00 ≤ low ∧ low < 0xE000 then
      (0x10000 + (high - 0xD800) * 0x400 + (low - 0xDC00)) :: joinPairs rest
    else high :: joinPairs (low :: rest)
  | points => points

/-- A number as it is written. -/
structure Numeral where
  negative : Bool
  whole : List Char
  fraction : List Char
  exponent : Option Int
  deriving DecidableEq, Repr

/-- Splits off the digits before the point: a single zero, or digits that begin with another one. -/
def splitWhole (text : List Char) : List Char × List Char :=
  match text with
  | '0' :: rest => (['0'], rest)
  | _ => text.span Char.isDigit

/-- Splits off the digits after a point. A point without a digit does not belong to a number. -/
def splitFraction (text : List Char) : List Char × List Char :=
  match text with
  | '.' :: rest => if (rest.takeWhile Char.isDigit).isEmpty then ([], text) else rest.span Char.isDigit
  | _ => ([], text)

/-- Splits off an exponent. An exponent without a digit does not belong to a number. -/
def splitExponent (text : List Char) : Option Int × List Char :=
  match text with
  | mark :: rest =>
    if mark = 'e' ∨ mark = 'E' then
      let (negative, rest) :=
        match rest with
        | '-' :: rest => (true, rest)
        | '+' :: rest => (false, rest)
        | rest => (false, rest)
      let (digits, rest) := rest.span Char.isDigit
      if digits.isEmpty then (none, text)
      else (some (if negative then -(Text.digitsValue digits : Int) else Text.digitsValue digits), rest)
    else (none, text)
  | [] => (none, [])

/-- Reads a number at the beginning of a text. -/
def readNumeral? (text : List Char) : Option (Numeral × List Char) :=
  let (negative, text) :=
    match text with
    | '-' :: rest => (true, rest)
    | _ => (false, text)
  let (whole, text) := splitWhole text
  if whole.isEmpty then none
  else
    let (fraction, text) := splitFraction text
    let (exponent, text) := splitExponent text
    some (⟨negative, whole, fraction, exponent⟩, text)

/-- The token of a number. -/
def Numeral.token (numeral : Numeral) : Token :=
  if numeral.fraction.isEmpty ∧ numeral.exponent = none then
    if Text.maxIntegerDigits < numeral.whole.length then .longInteger numeral.whole.length
    else
      let size : Int := Text.digitsValue numeral.whole
      .scalar (.integer (if numeral.negative then -size else size))
  else
    .scalar (.number (.ofDecimal numeral.negative (Text.digitsValue (numeral.whole ++ numeral.fraction))
      (numeral.exponent.getD 0 - numeral.fraction.length)))

/-- The words that are values. -/
def words : List (String × Value) :=
  [("null", .null), ("true", .bool true), ("false", .bool false), ("NaN", .number .nan),
    ("Infinity", .number (.infinite false)), ("-Infinity", .number (.infinite true))]

/-- Reads a word at the beginning of a text. -/
def readWord? (text : List Char) : Option (Value × List Char) :=
  words.findSome? fun (word, value) =>
    if word.toList.isPrefixOf text then some (value, text.drop word.length) else none

/-- The token that a text begins with, and the rest of the text. A flawed text has no rest. -/
def readToken (c : Char) (rest : List Char) : Token × List Char :=
  match Mark.ofChar? c with
  | some mark => (.mark mark, rest)
  | none =>
    if c = '"' then
      match readText (rest.length + 1) rest with
      | .ok (points, rest) => (.text (joinPairs points), rest)
      | .error flaw => (.flawedText flaw, [])
    else
      match readWord? (c :: rest) with
      | some (value, rest) => (.scalar value, rest)
      | none =>
        match readNumeral? (c :: rest) with
        | some (numeral, rest) => (numeral.token, rest)
        | none => (.other, rest)

/-- The tokens of a text, each with its place; at most `count` of them. -/
def tokensUpTo : Nat → List Char → List (Nat × Token)
  | 0, _ => []
  | count + 1, text =>
    match text.dropWhile isBlank with
    | [] => []
    | c :: rest =>
      let (token, after) := readToken c rest
      (rest.length + 1, token) :: tokensUpTo count after

/-- The tokens of a text, each with its place. Every token has a character at least. -/
def tokens (text : List Char) : List (Nat × Token) :=
  tokensUpTo text.length text

end PixelPanel.Json
