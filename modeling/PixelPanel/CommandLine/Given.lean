import PixelPanel.CommandLine.Parameter
import PixelPanel.Text.Similar

/-!
# What is given on a command line

The words of a command line are taken for options, their values, and arguments. A word that begins with
a dash is an option; a single dash can stand before several letters, the last of which may have its
value right behind it. After two dashes no word is an option any more.

The values of the options are read in the order in which they were given, those of the arguments after
them. Of an option that is repeated only the last value counts, at the place of the first one.
-/

namespace PixelPanel.CommandLine

/-- Why a command line cannot be used. -/
inductive UsageError
  | noSuchOption (name : String) (similar : List String)
  | needsValue (name : String)
  | takesNoValue (name : String)
  | invalid (hint : String) (problem : Problem)
  | missing (hint : String) (choices : List String)
  | extraArguments (words : List String)
  | noCommand
  | noSuchCommand (name : String) (similar : List String)
  deriving DecidableEq, Repr

/-- Adds to a text what could have been meant. -/
def suggest (text : String) (similar : List String) : String :=
  match similar with
  | [] => text
  | [one] => s!"{text} Did you mean {Text.quoted one}?"
  | several =>
    text ++ " (Did you mean one of: " ++ ", ".intercalate (several.map Text.quoted) ++ "?)"

/-- The text of an error. -/
def UsageError.message : UsageError → String
  | .noSuchOption name similar => suggest s!"No such option {Text.quoted name}." similar
  | .needsValue name => s!"Option {Text.quoted name} requires an argument."
  | .takesNoValue name => s!"Option {Text.quoted name} does not take a value."
  | .invalid hint problem => s!"Invalid value for {hint}: {problem.message}"
  | .missing hint choices =>
    let choice :=
      if choices.isEmpty then "" else " Choose from:\n\t" ++ ",\n\t".intercalate choices
    s!"Missing argument {hint}.{choice}"
  | .extraArguments words =>
    let noun := if words.length = 1 then "argument" else "arguments"
    s!"Got unexpected extra {noun} (" ++ " ".intercalate words ++ ")"
  | .noCommand => "Missing command."
  | .noSuchCommand name similar => suggest s!"No such command {Text.quoted name}." similar

/-- Why a command line leads to no command. -/
inductive Stop
  | usage (error : UsageError)
  /-- Help is asked for, or nothing is said at all. -/
  | help (code : Nat)
  /-- A path cannot hold a zero. -/
  | zeroInPath
  /-- The environment names a level of the log that there is not. -/
  | noSuchLevel (name : String)
  deriving DecidableEq, Repr

/-- One thing that is given. -/
inductive Item
  | option (opt : Opt) (kind : Kind) (written : String)
  | flag (opt : Opt) (value : Bool)
  | argument (word : String)
  | help
  deriving DecidableEq, Repr

/-- The option that asks for help, which every command has. -/
def helpName : String := "--help"

/-- The option with a name. -/
def Form.option? (form : Form) (name : String) : Option Opt :=
  form.options.find? fun opt => opt.names.contains name

/-- Whether a name is a long one: two dashes, or more than one letter after a single dash. -/
def isLong (name : String) : Bool :=
  2 < name.length

/-- The names of options that are looked up as a whole. -/
def Form.longNames (form : Form) : List String :=
  (form.options.flatMap Opt.names).filter isLong ++ [helpName]

/-- An option that takes a value takes it from behind its letter or its equals sign, or else the next
word. -/
def takeValue (name : String) (opt : Opt) (kind : Kind) (attached : Option String)
    (rest : List String) : Except UsageError (Item × List String) :=
  match attached, rest with
  | some written, rest => .ok (.option opt kind written, rest)
  | none, written :: rest => .ok (.option opt kind written, rest)
  | none, [] => .error (.needsValue name)

/-- The part of a word before its first equals sign, and the part after it if there is one. -/
def splitAttached (word : String) : String × Option String :=
  match word.toList.dropWhile (· != '=') with
  | [] => (word, none)
  | _ :: value => (String.ofList (word.toList.takeWhile (· != '=')), some (String.ofList value))

/-- Reads a long option; nothing if there is none of this name. -/
def Form.readLong (form : Form) (word : String) (rest : List String) :
    Option (Except UsageError (Item × List String)) :=
  let (name, attached) := splitAttached word
  if !form.longNames.contains name then none
  else
    match form.option? name, attached with
    | some opt, attached =>
      match opt.effect, attached with
      | .takes kind, attached => some (takeValue name opt kind attached rest)
      | .sets _, some _ => some (.error (.takesNoValue name))
      | .sets value, none => some (.ok (.flag opt value, rest))
    | none, some _ => some (.error (.takesNoValue name))
    | none, none => some (.ok (.help, rest))

/-- Reads the letters after a single dash. -/
def Form.readLetters (form : Form) (rest : List String) :
    List Char → Except UsageError (List Item × List String)
  | [] => .ok ([], rest)
  | letter :: letters =>
    let name := String.ofList ['-', letter]
    match form.option? name with
    | none => .error (.noSuchOption name [])
    | some opt =>
      match opt.effect with
      | .sets value =>
        (form.readLetters rest letters).map fun (items, rest) => (.flag opt value :: items, rest)
      | .takes kind =>
        let attached := if letters.isEmpty then none else some (String.ofList letters)
        (takeValue name opt kind attached rest).map fun (item, rest) => ([item], rest)

/-- Reads a word that begins with a dash. -/
def Form.readOption (form : Form) (word : String) (rest : List String) :
    Except UsageError (List Item × List String) :=
  match form.readLong word rest with
  | some result => result.map fun (item, rest) => ([item], rest)
  | none =>
    if word.startsWith "--" then
      let (name, _) := splitAttached word
      .error (.noSuchOption name (Text.similar name form.longNames))
    else form.readLetters rest (word.toList.drop 1)

/-- What the words give, and the words from the first argument on if options must come before it.
Every step uses a word at least, so there are at most `count` of them. -/
def Form.scan (form : Form) (mixed : Bool) :
    (count : Nat) → List String → Except UsageError (List Item × List String)
  | 0, words => .ok ([], words)
  | _, [] => .ok ([], [])
  | count + 1, word :: rest =>
    if word = "--" then
      if mixed then .ok (rest.map .argument, []) else .ok ([], rest)
    else if word.startsWith "-" ∧ word ≠ "-" then
      match form.readOption word rest with
      | .error error => .error error
      | .ok (items, rest) =>
        (form.scan mixed count rest).map fun (found, rest) => (items ++ found, rest)
    else if mixed then
      (form.scan mixed count rest).map fun (found, rest) => (.argument word :: found, rest)
    else .ok ([], word :: rest)

/-- The values of the parameters that are given, by their keys. -/
abbrev Values := List (String × Value)

/-- The key of the parameter that an option sets. -/
def Item.key? : Item → Option String
  | .option opt _ _ => some opt.key
  | .flag opt _ => some opt.key
  | .argument _ => none
  | .help => none

/-- The last thing that is given for every option, in the place of the first one. -/
def keepLast (items : List Item) : List Item :=
  let last (key : String) : Option Item := items.reverse.find? fun item => item.key? = some key
  let rec keep (seen : List String) : List Item → List Item
    | [] => []
    | item :: rest =>
      match item.key? with
      | none => item :: keep seen rest
      | some key =>
        if seen.contains key then keep seen rest
        else (last key).getD item :: keep (key :: seen) rest
  keep [] items

/-- Reads one value for a parameter. -/
def readValue (storage : Storage) (hint : String) (kind : Kind) (written : String) :
    Except Stop Value :=
  match kind.read storage written with
  | .ok value => .ok value
  | .error (.problem problem) => .error (.usage (.invalid hint problem))
  | .error .zeroInPath => .error .zeroInPath

/-- The words that are given for arguments. -/
def argumentWords (items : List Item) : List String :=
  items.filterMap fun item =>
    match item with
    | .argument word => some word
    | _ => none

/-- Reads the values of the options. -/
def readOptions (storage : Storage) : List Item → Except Stop Values
  | [] => .ok []
  | .flag opt value :: rest =>
    (readOptions storage rest).map fun values => (opt.key, .flag value) :: values
  | .option opt kind written :: rest =>
    match readValue storage opt.hint kind written with
    | .error stop => .error stop
    | .ok value => (readOptions storage rest).map fun values => (opt.key, value) :: values
  | _ :: rest => readOptions storage rest

/-- Reads the values of the arguments. Words go to the arguments in their order; there have to be as
many of them. -/
def readArguments (storage : Storage) : List Arg → List String → Except Stop Values
  | [], [] => .ok []
  | [], words => .error (.usage (.extraArguments words))
  | argument :: _, [] => .error (.usage (.missing argument.hint argument.choices))
  | argument :: arguments, word :: words =>
    match readValue storage argument.hint argument.kind word with
    | .error stop => .error stop
    | .ok value =>
      (readArguments storage arguments words).map fun values => (argument.key, value) :: values

/-- The values of all that is given. -/
def Form.values (form : Form) (storage : Storage) (items : List Item) : Except Stop Values :=
  if items.contains .help then .error (.help 0)
  else
    match readOptions storage (keepLast items) with
    | .error stop => .error stop
    | .ok options =>
      (readArguments storage form.arguments (argumentWords items)).map fun arguments =>
        options ++ arguments

/-- The values of a command whose options and arguments may be mixed. -/
def Form.read (form : Form) (storage : Storage) (words : List String) : Except Stop Values :=
  match form.scan true words.length words with
  | .error error => .error (.usage error)
  | .ok (items, _) => form.values storage items

/-- The values of a command whose options come first, and the words behind them. -/
def Form.readFront (form : Form) (storage : Storage) (words : List String) :
    Except Stop (Values × List String) :=
  match form.scan false words.length words with
  | .error error => .error (.usage error)
  | .ok (items, rest) => (form.values storage items).map fun values => (values, rest)

end PixelPanel.CommandLine
