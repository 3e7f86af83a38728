import PixelPanel.Hex
import PixelPanel.Text.Blank
import PixelPanel.Text.Printable

/-!
# Quoted text

A text inside of a message stands in quotes: single ones, or double ones if it holds a single quote
and no double one. The quote, the backslash and what cannot be printed are written as escapes.
-/

namespace PixelPanel.Text

/-- The quote that surrounds a text. -/
def quoteFor (text : List Char) : Char :=
  if '\'' ∈ text ∧ '"' ∉ text then '"' else '\''

/-- A character between quotes. -/
def escape (quote c : Char) : List Char :=
  if c = quote ∨ c = '\\' then ['\\', c]
  else if c = '\n' then ['\\', 'n']
  else if c = '\r' then ['\\', 'r']
  else if c = '\t' then ['\\', 't']
  else if isPrintable c then [c]
  else if c.toNat < 0x100 then ['\\', 'x'] ++ (Hex.padded 2 c.toNat).toList
  else if c.toNat < 0x10000 then ['\\', 'u'] ++ (Hex.padded 4 c.toNat).toList
  else ['\\', 'U'] ++ (Hex.padded 8 c.toNat).toList

/-- A code point between quotes. Half of a surrogate pair is no character, and cannot be printed. -/
def escapePoint (quote : Char) (point : Nat) : List Char :=
  if point.isValidChar then escape quote (Char.ofNat point)
  else ['\\', 'u'] ++ (Hex.padded 4 point).toList

/-- A text in quotes. -/
def quoted (text : String) : String :=
  let quote := quoteFor text.toList
  String.ofList (quote :: text.toList.flatMap (escape quote) ++ [quote])

/-- Code points as text. Half of a surrogate pair becomes the replacement character. -/
def ofPoints (points : List Nat) : String :=
  String.ofList (points.map fun point =>
    if point.isValidChar then Char.ofNat point else '\uFFFD')

/-- Code points in quotes. -/
def quotedPoints (points : List Nat) : String :=
  let quote := quoteFor (ofPoints points).toList
  String.ofList (quote :: points.flatMap (escapePoint quote) ++ [quote])

end PixelPanel.Text
