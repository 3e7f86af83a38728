import PixelPanel.Capture.Listing
import PixelPanel.Text.Digit

/-!
# The command line of the capture decoder

Captures are given as one run of arguments, and two flags choose how they are decoded and listed. A
flag may be shortened as long as it stays clear which one is meant. After two dashes nothing is a flag
any more.
-/

namespace PixelPanel.Capture

/-- What a flag asks for. -/
inductive Flag
  | help
  | lenient
  | json
  deriving DecidableEq, Repr

/-- The texts of the flags. -/
def flags : List (String × Flag) :=
  [("-h", .help), ("--help", .help), ("--lenient", .lenient), ("--json", .json)]

/-- How a flag is named in texts. -/
def Flag.text : Flag → String
  | .help => "-h/--help"
  | .lenient => "--lenient"
  | .json => "--json"

/-- What an argument is taken for. -/
inductive Role
  | positional
  /-- A flag, perhaps with a value that it does not take. -/
  | flag (flag : Flag) (value : Option String)
  /-- An argument that looks like a flag but is none. -/
  | unknown
  deriving DecidableEq, Repr

/-- What an argument is, or the flags that it could be meant for. -/
abbrev Reading := Except (List String) Role

/-- The part of a text before the first equals sign, and the part after it if there is one. -/
def splitValue (text : List Char) : List Char × Option (List Char) :=
  match text.dropWhile (· != '=') with
  | [] => (text, none)
  | _ :: rest => (text.takeWhile (· != '='), some rest)

/-- Whether a text is a negative number: a dash and digits, or a dash and digits with a point among
them. -/
def isNegativeNumber (text : List Char) : Bool :=
  let text := if text.getLast? = some '\n' then text.dropLast else text
  match text with
  | '-' :: body =>
    let tail := body.dropWhile Text.isDigit
    match tail with
    | [] => !body.isEmpty
    | '.' :: digits => !digits.isEmpty && digits.all Text.isDigit
    | _ => false
  | _ => false

/-- What the text right behind a `-h` is to it. It can be more letters of the same kind; what follows
them is a value, which the flag does not take. -/
def valueBehindLetter (text : List Char) : Option (List Char) :=
  match text, text.dropWhile (· = 'h') with
  | [], _ => some []
  | _, [] => none
  | _, rest => some rest

/-- The flags that an argument can be short for, each with its value. -/
def candidates (text : List Char) : List (String × Flag × Option String) :=
  match text with
  | '-' :: '-' :: _ =>
    let (name, value) := splitValue text
    flags.filterMap fun (known, flag) =>
      if name.isPrefixOf known.toList then some (known, flag, value.map String.ofList) else none
  | '-' :: 'h' :: letters => [("-h", .help, (valueBehindLetter letters).map String.ofList)]
  | _ => []

/-- Tells what an argument is. -/
def readArgument (argument : String) : Reading :=
  let text := argument.toList
  if text.head? ≠ some '-' then .ok .positional
  else
    match flags.lookup argument with
    | some flag => .ok (.flag flag none)
    | none =>
      if text.length = 1 then .ok .positional
      else
        let (name, value) := splitValue text
        match flags.lookup (String.ofList name), value with
        | some flag, some value =>
          let unused := if name.length = 2 then valueBehindLetter value else some value
          .ok (.flag flag (unused.map String.ofList))
        | _, _ =>
          match candidates text with
          | [(_, flag, value)] => .ok (.flag flag value)
          | [] => .ok (if isNegativeNumber text ∨ ' ' ∈ text then .positional else .unknown)
          | several => .error (several.map fun candidate => candidate.1)

/-- Why a command line cannot be used. -/
inductive UsageError
  | ambiguous (argument : String) (flags : List String)
  | unusedValue (flag : Flag) (value : String)
  | noCaptures
  | unrecognised (arguments : List String)
  deriving DecidableEq, Repr

/-- The text of an error. -/
def UsageError.message : UsageError → String
  | .ambiguous argument flags =>
    s!"ambiguous option: {argument} could match " ++ ", ".intercalate flags
  | .unusedValue flag value =>
    s!"argument {flag.text}: ignored explicit argument {Text.quoted value}"
  | .noCaptures => "the following arguments are required: HEX"
  | .unrecognised arguments => "unrecognized arguments: " ++ " ".intercalate arguments

/-- The arguments with their roles. After two dashes all are positional; the dashes stay. -/
def readArguments : List String → Except UsageError (List (String × Role))
  | [] => .ok []
  | argument :: rest =>
    if argument = "--" then .ok ((argument :: rest).map fun text => (text, .positional))
    else
      match readArgument argument with
      | .error flags => .error (.ambiguous argument flags)
      | .ok role => (readArguments rest).map ((argument, role) :: ·)

/-- What a command line asks for. -/
structure Request where
  written : List String := []
  lenient : Bool := false
  json : Bool := false
  deriving DecidableEq, Repr

/-- Whether an argument is positional. -/
def isPositional (argument : String × Role) : Bool :=
  argument.2 = .positional

/-- The first run of positional arguments. -/
def firstRun (arguments : List (String × Role)) : List String :=
  ((arguments.dropWhile fun argument => !isPositional argument).takeWhile isPositional).map Prod.fst

/-- The arguments that have no use: those that only look like flags, and the positional ones after the
first run. -/
def unused (arguments : List (String × Role)) : List String :=
  let (before, rest) := arguments.span fun argument => !isPositional argument
  (before ++ rest.dropWhile isPositional).filterMap fun (text, role) =>
    match role with
    | .flag .. => none
    | _ => some text

/-- The first flag that ends the reading: one that asks for help, or one with a value that it does not
take. -/
def interruption (arguments : List (String × Role)) : Option (Option UsageError) :=
  arguments.findSome? fun (_, role) =>
    match role with
    | .flag .help none => some none
    | .flag flag (some value) => some (some (.unusedValue flag value))
    | _ => none

/-- What a command line asks for; nothing if it asks for help. -/
def Request.ofArguments (arguments : List String) : Except UsageError (Option Request) :=
  match readArguments arguments with
  | .error error => .error error
  | .ok arguments =>
    match interruption arguments with
    | some (some error) => .error error
    | some none => .ok none
    | none =>
      let run := firstRun arguments
      let written := run.erase "--"
      if written.isEmpty then .error .noCaptures
      else if !(unused arguments).isEmpty then .error (.unrecognised (unused arguments))
      else
        let asks (flag : Flag) : Bool := arguments.any fun argument => argument.2 = .flag flag none
        .ok (some ⟨written, asks .lenient, asks .json⟩)

/-- The line that tells how the program is used. -/
def usage : String :=
  "usage: decode_capture.py [-h] [--lenient] [--json] HEX [HEX ...]\n"

/-- Runs the program. -/
def run (arguments : List String) : Output :=
  match Request.ofArguments arguments with
  | .error error => { code := 2, stderr := s!"{usage}decode_capture.py: error: {error.message}\n" }
  | .ok none => { code := 0, stdout := usage }
  | .ok (some request) => list request.lenient request.json request.written

end PixelPanel.Capture
