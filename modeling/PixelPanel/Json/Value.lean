import PixelPanel.Double.Text
import PixelPanel.Text.Quoted

/-!
# JSON values

A text is kept as its code points, for an escape can write half of a surrogate pair. The members of an
object stand in the order in which their names came first.
-/

namespace PixelPanel.Json

/-- The code points of a text. -/
abbrev Points := List Nat

/-- A JSON value. Numbers with a fraction or an exponent are rounded, all others are exact. -/
inductive Value
  | null
  | bool (value : Bool)
  | integer (value : Int)
  | number (value : Double)
  | text (points : Points)
  | list (items : List Value)
  | object (members : List (Points × Value))
  deriving Repr

/-- The code points of a text. -/
def points (text : String) : Points :=
  text.toList.map Char.toNat

/-- Gives a name a value: in its place if the name is there already, else at the end. -/
def put (name : Points) (value : Value) : List (Points × Value) → List (Points × Value)
  | [] => [(name, value)]
  | (other, old) :: rest =>
    if other = name then (name, value) :: rest else (other, old) :: put name value rest

namespace Value

/-- Whether a value counts as given: zero, and all that is empty, does not. -/
def isGiven : Value → Bool
  | .null => false
  | .bool value => value
  | .integer value => value != 0
  | .number value => !value.isZero
  | .text points => !points.isEmpty
  | .list items => !items.isEmpty
  | .object members => !members.isEmpty

mutual

/-- A value as it stands in a message. -/
def display : Value → String
  | .null => "None"
  | .bool true => "True"
  | .bool false => "False"
  | .integer value => toString value
  | .number value => value.plainText
  | .text points => Text.quotedPoints points
  | .list items => "[" ++ ", ".intercalate (displayItems items) ++ "]"
  | .object members => "\x7b" ++ ", ".intercalate (displayMembers members) ++ "\x7d"

/-- The texts of the items of a list. -/
def displayItems : List Value → List String
  | [] => []
  | item :: rest => item.display :: displayItems rest

/-- The texts of the members of an object. -/
def displayMembers : List (Points × Value) → List String
  | [] => []
  | (name, value) :: rest =>
    (Text.quotedPoints name ++ ": " ++ value.display) :: displayMembers rest

end

/-- The text itself if the value is one, else the value as it stands in a message. -/
def plain : Value → Points
  | .text found => found
  | other => points other.display

end Value
end PixelPanel.Json
