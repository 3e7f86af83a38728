import PixelPanel.Json.Token

/-!
# JSON documents

A document is read token by token. What is read so far tells which tokens can come next; any other
one is a fault, and so is a text that ends too early. Containers that are open at the same time take
room on the stack, and there is not always enough of it. `read` gives the value of a whole document.
-/

namespace PixelPanel.Json

/-- A container that is still open. The items of a list stand in reverse. -/
inductive Opened
  | list (items : List Value)
  | object (members : List (Points × Value)) (name : Points)
  deriving Repr

/-- What has been read, and with it what can come next. -/
inductive Progress
  | beforeValue (outer : List Opened)
  /-- At the beginning of a list, which may end at once. -/
  | beforeItem (outer : List Opened)
  | beforeName (members : List (Points × Value)) (outer : List Opened)
  /-- At the beginning of an object, which may end at once. -/
  | beforeMember (outer : List Opened)
  | beforeColon (members : List (Points × Value)) (name : Points) (outer : List Opened)
  | afterItem (items : List Value) (outer : List Opened)
  | afterMember (members : List (Points × Value)) (outer : List Opened)
  | complete (value : Value)
  deriving Repr

/-- Why a document cannot be read, and where. -/
inductive Fault
  | invalid (problem : Problem) (line column position : Nat)
  | longInteger (digits : Nat)
  /-- There is no room for one more container, which is an object or a list. -/
  | tooDeep (isObject : Bool)
  deriving DecidableEq, Repr

/-- The text of a problem. -/
def Problem.text : Problem → String
  | .value => "Expecting value"
  | .name => "Expecting property name enclosed in double quotes"
  | .colon => "Expecting ':' delimiter"
  | .comma => "Expecting ',' delimiter"
  | .extra => "Extra data"
  | .endOfText => "Unterminated string starting at"
  | .control => "Invalid control character at"
  | .escape => "Invalid \\escape"
  | .hexEscape => "Invalid \\uXXXX escape"
  | .byteOrderMark => "Unexpected UTF-8 BOM (decode using utf-8-sig)"

/-- The text of a fault. -/
def Fault.message : Fault → String
  | .invalid problem line column position =>
    s!"{problem.text}: line {line} column {column} (char {position})"
  | .longInteger digits =>
    s!"Exceeds the limit ({Text.maxIntegerDigits} digits) for integer string conversion: " ++
      s!"value has {digits} digits; use sys.set_int_max_str_digits() to increase the limit"
  | .tooDeep isObject =>
    let container := if isObject then "object" else "array"
    s!"maximum recursion depth exceeded while decoding a JSON {container} from a unicode string"

/-- The fault at a place of a text. -/
def Fault.ofFlaw (text : List Char) (flaw : Flaw) : Fault :=
  let position := text.length - flaw.left
  let before := text.take position
  .invalid flaw.problem (before.count '\n' + 1)
    ((before.reverse.takeWhile (· != '\n')).length + 1) position

namespace Progress

/-- What is missing if something else comes. -/
def missing : Progress → Problem
  | beforeValue _ => .value
  | beforeItem _ => .value
  | beforeName _ _ => .name
  | beforeMember _ => .name
  | beforeColon _ _ _ => .colon
  | afterItem _ _ => .comma
  | afterMember _ _ => .comma
  | complete _ => .extra

/-- A value is complete and goes into the container around it. -/
def give (value : Value) : List Opened → Progress
  | [] => complete value
  | .list items :: outer => afterItem (value :: items) outer
  | .object members name :: outer => afterMember (put name value members) outer

/-- Why a token cannot come. -/
inductive Refusal
  | flaw (flaw : Flaw)
  | longInteger (digits : Nat)
  | tooDeep (isObject : Bool)

/-- Reads a token where a value must come, with room for a number of open containers. -/
def readValue (room : Nat) (outer : List Opened) (left : Nat) : Token → Except Refusal Progress
  | .scalar value => .ok (give value outer)
  | .text points => .ok (give (.text points) outer)
  | .mark .openList => if outer.length < room then .ok (beforeItem outer) else .error (.tooDeep false)
  | .mark .openObject => if outer.length < room then .ok (beforeMember outer) else .error (.tooDeep true)
  | .flawedText flaw => .error (.flaw flaw)
  | .longInteger digits => .error (.longInteger digits)
  | _ => .error (.flaw ⟨.value, left⟩)

/-- Reads a token where a name must come. -/
def readName (members : List (Points × Value)) (outer : List Opened) (left : Nat) :
    Token → Except Refusal Progress
  | .text points => .ok (beforeColon members points outer)
  | .flawedText flaw => .error (.flaw flaw)
  | _ => .error (.flaw ⟨.name, left⟩)

/-- Reads the next token. -/
def advance (room : Nat) (progress : Progress) (left : Nat) (token : Token) :
    Except Refusal Progress :=
  match progress, token with
  | beforeItem outer, .mark .closeList => .ok (give (.list []) outer)
  | beforeMember outer, .mark .closeObject => .ok (give (.object []) outer)
  | beforeValue outer, token => readValue room outer left token
  | beforeItem outer, token => readValue room (.list [] :: outer) left token
  | beforeName members outer, token => readName members outer left token
  | beforeMember outer, token => readName [] outer left token
  | beforeColon members name outer, .mark .colon =>
    .ok (beforeValue (.object members name :: outer))
  | afterItem items outer, .mark .comma => .ok (beforeValue (.list items :: outer))
  | afterItem items outer, .mark .closeList => .ok (give (.list items.reverse) outer)
  | afterMember members outer, .mark .comma => .ok (beforeName members outer)
  | afterMember members outer, .mark .closeObject => .ok (give (.object members) outer)
  | progress, _ => .error (.flaw ⟨progress.missing, left⟩)

/-- Reads tokens up to the end of the text. -/
def readAll (room : Nat) (progress : Progress) : List (Nat × Token) → Except Refusal Value
  | [] =>
    match progress with
    | complete value => .ok value
    | _ => .error (.flaw ⟨progress.missing, 0⟩)
  | (left, token) :: rest =>
    match advance room progress left token with
    | .error refusal => .error refusal
    | .ok progress => readAll room progress rest

end Progress

/-- The room that the stack of a program usually has, roughly. -/
def usualRoom : Nat := 980

/-- The value that a text writes, read with room for a number of open containers. -/
def read (room : Nat) (text : List Char) : Except Fault Value :=
  if text.head? = some '\uFEFF' then .error (.ofFlaw text ⟨.byteOrderMark, text.length⟩)
  else
    match (Progress.beforeValue []).readAll room (tokens text) with
    | .ok value => .ok value
    | .error (.longInteger digits) => .error (.longInteger digits)
    | .error (.tooDeep isObject) => .error (.tooDeep isObject)
    | .error (.flaw flaw) => .error (.ofFlaw text flaw)

end PixelPanel.Json
