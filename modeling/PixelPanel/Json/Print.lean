import PixelPanel.Json.Value

/-!
# JSON text

Values on lines of their own, each level two spaces further in. All characters but those of ASCII are
escaped, those above the first plane as two halves.
-/

namespace PixelPanel.Json

/-- A code unit as an escape. -/
def unitEscape (unit : Nat) : String :=
  "\\u" ++ Hex.padded 4 unit

/-- A code point inside of a text. -/
def printPoint (point : Nat) : String :=
  if point = 0x22 then "\\\""
  else if point = 0x5C then "\\\\"
  else if point = 0x0A then "\\n"
  else if point = 0x0D then "\\r"
  else if point = 0x09 then "\\t"
  else if point = 0x0C then "\\f"
  else if point = 0x08 then "\\b"
  else if 0x20 ≤ point ∧ point < 0x7F then String.singleton (Char.ofNat point)
  else if point < 0x10000 then unitEscape point
  else
    unitEscape (0xD800 + (point - 0x10000) / 0x400) ++
      unitEscape (0xDC00 + (point - 0x10000) % 0x400)

/-- A text between its quotes. -/
def printText (points : Points) : String :=
  "\"" ++ String.join (points.map printPoint) ++ "\""

/-- The beginning of a line at a level. -/
def indent (level : Nat) : String :=
  "\n" ++ String.ofList (List.replicate (2 * level) ' ')

/-- Parts between brackets, each on its own line. -/
def printBlock (level : Nat) (opening closing : String) (parts : List String) : String :=
  if parts.isEmpty then opening ++ closing
  else
    opening ++ indent (level + 1) ++ ("," ++ indent (level + 1)).intercalate parts ++
      indent level ++ closing

namespace Value

mutual

/-- A value whose first line stands at a level. -/
def print (level : Nat) : Value → String
  | .null => "null"
  | .bool true => "true"
  | .bool false => "false"
  | .integer value => toString value
  | .number .nan => "NaN"
  | .number (.infinite negative) => if negative then "-Infinity" else "Infinity"
  | .number value => value.plainText
  | .text points => printText points
  | .list items => printBlock level "[" "]" (printItems (level + 1) items)
  | .object members => printBlock level "\x7b" "\x7d" (printMembers (level + 1) members)

/-- The items of a list. -/
def printItems (level : Nat) : List Value → List String
  | [] => []
  | item :: rest => item.print level :: printItems level rest

/-- The members of an object. -/
def printMembers (level : Nat) : List (Points × Value) → List String
  | [] => []
  | (name, value) :: rest =>
    (printText name ++ ": " ++ value.print level) :: printMembers level rest

end

end Value
end PixelPanel.Json
