import PixelPanel.ColourText
import PixelPanel.Double.Text
import PixelPanel.Storage
import PixelPanel.Text.Number

/-!
# Parameters

A parameter is an option or an argument of a command. It has a kind, which tells the values it takes.
`Kind.read` reads a value or tells what is wrong with it.
-/

namespace PixelPanel.CommandLine

/-- What values a parameter takes. -/
inductive Kind
  | text
  | integer
  | integerIn (low high : Int)
  /-- A number of seconds, which may be zero if it need not be positive. -/
  | seconds (positive : Bool)
  | choice (names : List String)
  /-- A choice in letters of any case. -/
  | level (names : List String)
  /-- A file, which may be missing if it need not exist. -/
  | file (mustExist : Bool)
  | colour
  deriving DecidableEq, Repr

/-- A value of a parameter. -/
inductive Value
  | text (text : String)
  | integer (value : Int)
  | number (value : Double)
  | colour (colour : Colour)
  | flag (value : Bool)
  deriving DecidableEq, Repr

/-- What can be wrong with a value. -/
inductive Problem
  | notOfKind (written kind : String)
  | outside (value range : String)
  | noChoice (written : String) (names : List String)
  | noFile (written : String)
  | directory (written : String)
  | colour (written : String)
  deriving DecidableEq, Repr

/-- The text of a problem. -/
def Problem.message : Problem → String
  | .notOfKind written kind => s!"{Text.quoted written} is not a valid {kind}."
  | .outside value range => s!"{value} is not in the range {range}."
  | .noChoice written names =>
    s!"{Text.quoted written} is not one of " ++ ", ".intercalate (names.map Text.quoted) ++ "."
  | .noFile written => s!"File {Text.quoted written} does not exist."
  | .directory written => s!"File {Text.quoted written} is a directory."
  | .colour written => Colour.refusalText written

/-- Why there is no value. -/
inductive Unread
  | problem (problem : Problem)
  /-- A path cannot hold a zero. -/
  | zeroInPath
  deriving DecidableEq, Repr

/-- Reads a number of seconds. What is no number at all is not outside of any range. -/
def readSeconds (positive : Bool) (written : String) : Except Unread Value :=
  match Text.readNumber? written with
  | none => .error (.problem (.notOfKind written "float range"))
  | some number =>
    let tooSmall := number.isNegative || (positive && number.isZero)
    if tooSmall then
      .error (.problem (.outside number.plainText (if positive then "x>0" else "x>=0")))
    else .ok (.number number)

/-- Reads the path of a file. -/
def readFile (storage : Storage) (mustExist : Bool) (written : String) : Except Unread Value :=
  if Storage.holdsZero written then .error .zeroInPath
  else
    match storage.find written with
    | .error _ => if mustExist then .error (.problem (.noFile written)) else .ok (.text written)
    | .ok place =>
      if place.isFolder then .error (.problem (.directory written)) else .ok (.text written)

/-- Reads a value. -/
def Kind.read (storage : Storage) (written : String) : Kind → Except Unread Value
  | .text => .ok (.text written)
  | .integer =>
    match Text.readInteger? written with
    | none => .error (.problem (.notOfKind written "integer"))
    | some value => .ok (.integer value)
  | .integerIn low high =>
    match Text.readInteger? written with
    | none => .error (.problem (.notOfKind written "integer range"))
    | some value =>
      if value < low ∨ high < value then
        .error (.problem (.outside (toString value) s!"{low}<=x<={high}"))
      else .ok (.integer value)
  | .seconds positive => readSeconds positive written
  | .choice names =>
    if names.contains written then .ok (.text written)
    else .error (.problem (.noChoice written names))
  | .level names =>
    let lower (name : String) : String := String.ofList (Text.lowerAscii name.toList)
    match names.find? fun name => lower name = lower written with
    | some name => .ok (.text name)
    | none => .error (.problem (.noChoice written (names.map lower)))
  | .file mustExist => readFile storage mustExist written
  | .colour =>
    match Colour.ofText? written.toList with
    | none => .error (.problem (.colour written))
    | some found => .ok (.colour found)

/-- What an option does when it is given. -/
inductive Effect
  | takes (kind : Kind)
  | sets (value : Bool)
  deriving DecidableEq, Repr

/-- An option. Two options with one key set the same parameter. -/
structure Opt where
  key : String
  /-- How it can be written, the long way first. -/
  names : List String
  effect : Effect
  deriving DecidableEq, Repr

/-- An argument. -/
structure Arg where
  key : String
  kind : Kind
  deriving DecidableEq, Repr

/-- How an option is named in texts. -/
def Opt.hint (opt : Opt) : String :=
  " / ".intercalate (opt.names.map fun name => "'" ++ name ++ "'")

/-- The names that an argument can be chosen from. -/
def Arg.choices (arg : Arg) : List String :=
  match arg.kind with
  | .choice names => names
  | _ => []

/-- How an argument is named in texts: by what can be chosen, else by its key. -/
def Arg.hint (arg : Arg) : String :=
  let name :=
    if arg.choices.isEmpty then arg.key.map Char.toUpper
    else "\x7b" ++ "|".intercalate arg.choices ++ "\x7d"
  "'" ++ name ++ "'"

/-- The parameters of a command. -/
structure Form where
  options : List Opt
  arguments : List Arg := []
  deriving DecidableEq, Repr

end PixelPanel.CommandLine
