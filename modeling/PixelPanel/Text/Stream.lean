import PixelPanel.Hex

/-!
# Text on a stream

What is printed may go to a file as well as to a terminal. The sequences that steer a terminal are left
out of it, a line break is one character, and half of a surrogate pair, which no stream can hold, is
written as an escape.
-/

namespace PixelPanel.Text

/-- The character that begins a sequence for the terminal. -/
def escapeCharacter : Char := '\x1b'

/-- Whether a character can stand between the bracket and the letter of a sequence. -/
def isParameter (c : Char) : Bool :=
  c.isDigit || c = ';' || c = '?'

/-- The length of the sequence that a text begins with, if it begins with one: an escape character, a
bracket, parameters and a letter. -/
def sequenceLength? : List Char → Option Nat
  | first :: '[' :: rest =>
    if first = escapeCharacter then
      match rest.dropWhile isParameter with
      | letter :: _ =>
        if letter.isAlpha then some ((rest.takeWhile isParameter).length + 3) else none
      | [] => none
    else none
  | _ => none

/-- Leaves `skipped` characters out, and then all sequences. -/
def leaveOut : (skipped : Nat) → List Char → List Char
  | _, [] => []
  | skipped + 1, _ :: rest => leaveOut skipped rest
  | 0, c :: rest =>
    match sequenceLength? (c :: rest) with
    | some length => leaveOut (length - 1) rest
    | none => c :: leaveOut 0 rest

/-- A text without the sequences for the terminal. What is left over is not looked at again. -/
def withoutSequences (text : String) : String :=
  String.ofList (leaveOut 0 text.toList)

/-- Characters with line breaks of two characters as one. -/
def joinBreaks : List Char → List Char
  | '\r' :: '\n' :: rest => '\n' :: joinBreaks rest
  | c :: rest => c :: joinBreaks rest
  | [] => []

/-- A text whose line breaks are single characters. -/
def withSingleBreaks (text : String) : String :=
  String.ofList (joinBreaks text.toList)

/-- Code points as text. Half of a surrogate pair is written as an escape. -/
def ofPointsEscaped (points : List Nat) : String :=
  String.ofList (points.flatMap fun point =>
    if point.isValidChar then [Char.ofNat point]
    else '\\' :: 'u' :: (Hex.padded 4 point).toList)

end PixelPanel.Text
