/-!
# Similar texts

Two texts are as similar as the share of characters they have in common: in their longest common part,
and then in what stands before and behind it on both sides.
-/

namespace PixelPanel.Text

/-- The number of characters that two texts begin with in common. -/
def commonStart : List Char → List Char → Nat
  | c :: rest, d :: other => if c = d then commonStart rest other + 1 else 0
  | _, _ => 0

/-- A part that two texts have in common. -/
structure Common where
  first : Nat
  second : Nat
  size : Nat
  deriving DecidableEq, Repr

/-- The longest common part, the one that comes first in the first text, and then in the second. -/
def longestCommon (text other : List Char) : Common :=
  (List.range text.length).foldl (fun best first =>
    (List.range other.length).foldl (fun best second =>
      let size := commonStart (text.drop first) (other.drop second)
      if best.size < size then ⟨first, second, size⟩ else best) best) ⟨0, 0, 0⟩

/-- The number of characters that two texts have in common, in at most `depth` steps. -/
def commonUpTo : Nat → List Char → List Char → Nat
  | 0, _, _ => 0
  | depth + 1, text, other =>
    let found := longestCommon text other
    if found.size = 0 then 0
    else
      commonUpTo depth (text.take found.first) (other.take found.second) + found.size +
        commonUpTo depth (text.drop (found.first + found.size))
          (other.drop (found.second + found.size))

/-- The number of characters that two texts have in common. -/
def commonCount (text other : List Char) : Nat :=
  commonUpTo (text.length + 1) text other

/-- The share of common characters of two texts as a quotient, with the first of the texts. -/
structure Likeness where
  common : Nat
  total : Nat
  text : String
  deriving DecidableEq, Repr

/-- How alike two texts are. -/
def likeness (text word : String) : Likeness :=
  ⟨2 * commonCount text.toList word.toList, text.length + word.length, text⟩

/-- Whether three fifths of the characters are common. -/
def Likeness.isClose (likeness : Likeness) : Bool :=
  3 * likeness.total ≤ 5 * likeness.common

/-- Whether one text comes before another in the order of likeness: the more alike first, and of
equals the one that is greater. -/
def Likeness.precedes (likeness other : Likeness) : Bool :=
  let (left, right) := (likeness.common * other.total, other.common * likeness.total)
  right < left ∨ (left = right ∧ other.text ≤ likeness.text)

/-- The number of similar texts that are named at most. -/
def maxSimilar : Nat := 3

/-- The texts that are most like a word, sorted. -/
def similar (word : String) (texts : List String) : List String :=
  let close := (texts.map fun text => likeness text word).filter Likeness.isClose
  let best := (close.mergeSort Likeness.precedes).take maxSimilar
  (best.map Likeness.text).mergeSort fun text other => decide (text ≤ other)

end PixelPanel.Text
