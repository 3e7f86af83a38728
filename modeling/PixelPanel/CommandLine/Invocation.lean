import PixelPanel.CommandLine.Given
import PixelPanel.Command
import PixelPanel.Config.Load
import PixelPanel.Log
import PixelPanel.Text.Upper

/-!
# Invocations

An invocation is what a command line means: a device to talk to, some options, and a request. The
options of the program come first, then the name of a command, then what belongs to the command.
-/

namespace PixelPanel.CommandLine

/-- What is asked of the panel. -/
inductive Request
  | command (command : Command)
  /-- Sets the clock of the panel to the time of day. -/
  | setClock
  | settings
  | listen (time : Double)
  | picture (path : Path)
  /-- Shows the frames of a file, all of them for the same time if one is given. -/
  | animation (path : Path) (duration : Option Int)

/-- Which device to talk to. -/
structure Target where
  config : Option String := none
  device : Option String := none
  address : Option String := none
  channel : Option Int := none
  deriving DecidableEq, Repr

/-- The options of the program. -/
structure Options where
  target : Target
  /-- How long to listen after sending, in seconds. -/
  listen : Double
  /-- Whether packets are only shown. -/
  dryRun : Bool
  /-- The least weight of a log entry that is shown. -/
  threshold : Nat
  deriving DecidableEq, Repr

/-- What a command line means. -/
structure Invocation where
  options : Options
  request : Request

namespace Values

/-- The text of a parameter. -/
def text? (values : Values) (key : String) : Option String :=
  match values.lookup key with
  | some (.text text) => some text
  | _ => none

/-- The integer of a parameter. -/
def integer? (values : Values) (key : String) : Option Int :=
  match values.lookup key with
  | some (.integer value) => some value
  | _ => none

/-- The number of a parameter. -/
def number? (values : Values) (key : String) : Option Double :=
  match values.lookup key with
  | some (.number value) => some value
  | _ => none

/-- The colour of a parameter, white if it is not given. -/
def colour (values : Values) (key : String) : Colour :=
  match values.lookup key with
  | some (.colour colour) => colour
  | _ => .white

/-- Whether a parameter is set. -/
def flag (values : Values) (key : String) (default : Bool) : Bool :=
  match values.lookup key with
  | some (.flag value) => value
  | _ => default

/-- The integer of an argument, which always is there once the values are read. -/
def integer (values : Values) (key : String) : Int :=
  (values.integer? key).getD 0

/-- The text of an argument, which always is there once the values are read. -/
def text (values : Values) (key : String) : String :=
  (values.text? key).getD ""

end Values

/-- A command of the program. -/
structure Subcommand where
  name : String
  form : Form
  request : Values → Request

/-- The names of a family of styles, sorted. -/
def sortedNames (styles : Styles) : List String :=
  styles.names.mergeSort fun name other => decide (name ≤ other)

/-- The option for a colour. -/
def colourOption : Opt :=
  ⟨"color", ["--color"], .takes .colour⟩

/-- A command with one integer. -/
def integerCommand (name key : String) (command : Int → Command) : Subcommand where
  name := name
  form := { options := [], arguments := [⟨key, .integer⟩] }
  request values := .command (command (values.integer key))

/-- A command without parameters. -/
def plainCommand (name : String) (request : Request) : Subcommand where
  name := name
  form := { options := [] }
  request _ := request

/-- The command that pushes a weather report. -/
def weatherCommand : Subcommand where
  name := "weather"
  form :=
    { options := []
      arguments := [⟨"temperature", .integer⟩,
        ⟨"weather_type", .choice (sortedNames weatherStyles)⟩] }
  request values :=
    .command (.setWeather (values.integer "temperature") (values.text "weather_type"))

/-- The command that shows the clock. -/
def clockCommand : Subcommand where
  name := "clock"
  form :=
    { options := [⟨"time", ["--time"], .sets true⟩, ⟨"time", ["--no-time"], .sets false⟩,
        ⟨"weather", ["--weather"], .sets true⟩, ⟨"temperature", ["--temperature"], .sets true⟩,
        ⟨"calendar", ["--calendar"], .sets true⟩, colourOption]
      arguments := [⟨"clock_type", .choice (sortedNames clockStyles)⟩] }
  request values :=
    .command (.showClock
      { style := values.text "clock_type", time := values.flag "time" true
        weather := values.flag "weather" false, temperature := values.flag "temperature" false
        calendar := values.flag "calendar" false, colour := (values.colour "color").toInts })

/-- The command that shows a light. -/
def lightCommand : Subcommand where
  name := "light"
  form :=
    { options := [colourOption, ⟨"brightness", ["--brightness", "-b"], .takes .integer⟩]
      arguments := [⟨"light_type", .choice (sortedNames lightStyles)⟩] }
  request values :=
    .command (.showLight (values.text "light_type") (values.colour "color").toInts
      ((values.integer? "brightness").getD Command.maxBrightness))

/-- The command that shows two scores. -/
def scoreboardCommand : Subcommand where
  name := "scoreboard"
  form := { options := [], arguments := [⟨"red", .integer⟩, ⟨"blue", .integer⟩] }
  request values := .command (.showScoreboard (values.integer "red") (values.integer "blue"))

/-- How long the command that only listens does so if no time is given, in seconds. -/
def defaultListening : Double := .ofDecimal false 30 0

/-- The command that only listens. -/
def listenCommand : Subcommand where
  name := "listen"
  form := { options := [⟨"seconds", ["--seconds", "-s"], .takes (.seconds true)⟩] }
  request values := .listen ((values.number? "seconds").getD defaultListening)

/-- The command that shows a picture. -/
def pictureCommand : Subcommand where
  name := "image"
  form := { options := [], arguments := [⟨"file_path", .file true⟩] }
  request values := .picture (.ofText (values.text "file_path"))

/-- The command that shows an animation. -/
def animationCommand : Subcommand where
  name := "animation"
  form :=
    { options := [⟨"duration", ["--duration"], .takes .integer⟩]
      arguments := [⟨"file_path", .file true⟩] }
  request values :=
    .animation (.ofText (values.text "file_path")) (values.integer? "duration")

/-- The commands of the program. -/
def subcommands : List Subcommand :=
  [integerCommand "brightness" "level" .setBrightness, integerCommand "volume" "level" .setVolume,
    weatherCommand, clockCommand, lightCommand, plainCommand "cloud" (.command .showCloud),
    integerCommand "vj" "effect" .showEffect,
    integerCommand "visualisation" "visualisation" .showVisualisation, scoreboardCommand,
    plainCommand "sync-time" .setClock, plainCommand "off" (.command .displayOff),
    plainCommand "settings" .settings, listenCommand, pictureCommand, animationCommand]

/-- The levels that the log can be cut off at by an option. -/
def optionLevels : List String :=
  ["TRACE", "DEBUG", "INFO", "WARNING", "ERROR"]

/-- The options of the program. -/
def programForm : Form where
  options :=
    [⟨"config", ["--config"], .takes (.file false)⟩,
      ⟨"device", ["--device", "-d"], .takes .text⟩,
      ⟨"address", ["--address", "-a"], .takes .text⟩,
      ⟨"channel", ["--channel", "-c"],
        .takes (.integerIn Device.minChannel Device.maxChannel)⟩,
      ⟨"listen", ["--listen", "-l"], .takes (.seconds false)⟩,
      ⟨"dry_run", ["--dry-run"], .sets true⟩,
      ⟨"log_level", ["--log-level"], .takes (.level optionLevels)⟩]

/-- The environment variable that can name a level of the log. -/
def levelVariable : String := "PIXELBOX_LOG_LEVEL"

/-- The level of the log if nothing else is said. -/
def defaultLevel : String := "INFO"

/-- The least weight of a log entry that is shown. -/
def threshold (environment : List (String × String)) (values : Values) : Except Stop Nat :=
  let name := (values.text? "log_level").getD ((environment.lookup levelVariable).getD defaultLevel)
  let name := String.ofList (Text.upper name.toList)
  match thresholds.lookup name with
  | none => .error (.noSuchLevel name)
  | some weight => .ok weight

/-- The options that values give. -/
def Options.ofValues (values : Values) (threshold : Nat) : Options where
  target :=
    { config := values.text? "config", device := values.text? "device"
      address := values.text? "address", channel := values.integer? "channel" }
  listen := (values.number? "listen").getD .zero
  dryRun := values.flag "dry_run" false
  threshold := threshold

/-- The command with a name. A word that looks like an option is read once more as one, which may tell
better what is wrong. -/
def Subcommand.find (storage : Storage) (name : String) (rest : List String) :
    Except Stop Subcommand :=
  match subcommands.find? fun command => command.name = name with
  | some command => .ok command
  | none =>
    let stop : Stop :=
      .usage (.noSuchCommand name (Text.similar name (subcommands.map Subcommand.name)))
    if name.startsWith "-" then
      match programForm.readFront storage (name :: rest) with
      | .error stop => .error stop
      | .ok _ => .error stop
    else .error stop

/-- What a command line means, given the files and the environment. -/
def Invocation.ofWords (storage : Storage) (environment : List (String × String))
    (words : List String) : Except Stop Invocation :=
  if words.isEmpty then .error (.help 2)
  else
    match programForm.readFront storage words with
    | .error stop => .error stop
    | .ok (_, []) => .error (.usage .noCommand)
    | .ok (values, name :: rest) => do
      let command ← Subcommand.find storage name rest
      let threshold ← threshold environment values
      let given ← command.form.read storage rest
      return ⟨.ofValues values threshold, command.request given⟩

end PixelPanel.CommandLine
