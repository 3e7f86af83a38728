import PixelPanel.Channel
import PixelPanel.Envelope
import PixelPanel.Frame

/-!
# Commands

A command says what the panel should do. Its arguments are what a user gives, so they may be wrong;
`Command.encode` either refuses the command and says why, or gives the envelope that carries it. An
animation is not one envelope but a row of packets, see `PixelPanel.Animation`.
-/

namespace PixelPanel

/-- A date and a time of day. -/
structure Moment where
  year : Nat
  month : Nat
  day : Nat
  hour : Nat
  minute : Nat
  second : Nat
  deriving DecidableEq, Repr

/-- The styles of a family, each with its number on the link, in the order in which texts list
them. -/
abbrev Styles := List (String × Int)

/-- The names of a family of styles. -/
def Styles.names (styles : Styles) : List String :=
  styles.map Prod.fst

/-- How the clock can look. -/
def clockStyles : Styles :=
  [("FULL_SCREEN", 0), ("RAINBOW", 1), ("BOXED", 2), ("ANALOG_SQUARE", 3),
    ("FULL_SCREEN_INVERTED", 4), ("ANALOG_ROUND", 5)]

/-- How the lamp can shine. -/
def lightStyles : Styles :=
  [("PLAIN", 0), ("TINTED_PINK", 1), ("RED_BLUE_STRIPED", 2)]

/-- The kinds of weather. -/
def weatherStyles : Styles :=
  [("OUTDOOR_VERY_LIGHT_CLOUDS", 1), ("CITY_CLOUDY", 3), ("CITY_LIGHT_CLOUDS", 4),
    ("THUNDERSTORM", 5), ("RAIN", 6), ("SNOW", 8), ("FOG", 9)]

/-- What the clock shows beside the time of day. -/
structure ClockFace where
  style : String
  time : Bool := true
  weather : Bool := false
  temperature : Bool := false
  calendar : Bool := false
  colour : List Int := [255, 255, 255]
  deriving DecidableEq, Repr

/-- What the panel should do. -/
inductive Command
  | requestSettings
  | displayOff
  | setTime (moment : Moment)
  | setVolume (volume : Int)
  | setBrightness (brightness : Int)
  | setWeather (temperature : Int) (weather : String)
  | showClock (face : ClockFace)
  | showLight (style : String) (colour : List Int) (brightness : Int)
  | showCloud
  | showEffect (effect : Int)
  | showVisualisation (visualisation : Int)
  | showScoreboard (red blue : Int)
  | showPicture (picture : Picture)

namespace Command

/-- The greatest volume. -/
def maxVolume : Nat := 16

/-- The greatest brightness. -/
def maxBrightness : Nat := 100

/-- The temperatures that can be shown lie strictly between this one and its negative. -/
def temperatureBound : Nat := 100

/-- The greatest number of an effect. -/
def maxEffect : Nat := 15

/-- The greatest number of a visualisation. -/
def maxVisualisation : Nat := 11

/-- The greatest score. -/
def maxScore : Nat := 999

/-- Why a command is refused. -/
inductive Refusal
  | outOfRange (field : String) (highest : Nat) (value : Int)
  | temperature (value : Int)
  | colour (components : List Int)
  | unknownStyle (family name : String) (known : List String)
  | picture (fault : Raster.Fault)
  | durationCount (frames durations : Nat)
  /-- Something that is no octet was to be written. -/
  | notOctets
  deriving DecidableEq, Repr

/-- Integers in round brackets; a lone one keeps a comma. -/
def componentsText : List Int → String
  | [] => "()"
  | [value] => s!"({value},)"
  | values => "(" ++ ", ".intercalate (values.map toString) ++ ")"

/-- The text of a refusal. -/
def Refusal.message : Refusal → String
  | .outOfRange field highest value => s!"{field} should be between 0 and {highest}, got {value}"
  | .temperature value =>
    s!"temperature should be between -{temperatureBound} and {temperatureBound} (exclusive), " ++
      s!"got {value}"
  | .colour components =>
    "color should be three values between 0 and 255, got " ++ componentsText components
  | .unknownStyle family name known =>
    s!"invalid {family} type '{name}', expected one of " ++ ", ".intercalate known
  | .picture fault => fault.message
  | .durationCount frames durations =>
    s!"expected one duration per frame, got {frames} frame(s) and {durations} duration(s)"
  | .notOctets => Octets.refusalText

/-- A value from zero to `highest`. -/
def checkRange (field : String) (highest : Nat) (value : Int) : Except Refusal Unit :=
  if value < 0 ∨ (highest : Int) < value then .error (.outOfRange field highest value)
  else .ok ()

/-- A temperature that can be shown. -/
def checkTemperature (value : Int) : Except Refusal Unit :=
  if value ≤ -temperatureBound ∨ (temperatureBound : Int) ≤ value then .error (.temperature value)
  else .ok ()

/-- Three components of a colour. -/
def checkColour (components : List Int) : Except Refusal Unit :=
  if components.length ≠ 3 ∨ components.any (fun component => component < 0 ∨ 255 < component) then
    .error (.colour components)
  else .ok ()

/-- The number of a style of a family. -/
def checkStyle (family : String) (styles : Styles) (name : String) : Except Refusal Int :=
  match styles.lookup name with
  | none => .error (.unknownStyle family name styles.names)
  | some number => .ok number

/-- A yes or no as a number. -/
def flag (value : Bool) : Int :=
  if value then 1 else 0

/-- The two low octets of an integer, low octet first. -/
def lowWord (value : Int) : List Int :=
  [value % 256, value / 256 % 256]

/-- The first numbers of a command that shows a channel. -/
def showChannel (channel : Channel) : List Int :=
  [0x45, channel.number.toNat]

/-- The octets that stand for numbers. -/
def written (numbers : List Int) : Except Refusal Octets :=
  match Octets.ofInts? numbers with
  | none => .error .notOctets
  | some octets => .ok octets

/-- The payload of a command. -/
def payload : Command → Except Refusal Octets
  | requestSettings => written [0x46]
  | displayOff => written (showChannel .light ++ [0, 0, 0, 0, 0, 0, 0, 0, 0])
  | setTime moment =>
    written [0x18, moment.year % 100, moment.year / 100, moment.month, moment.day, moment.hour,
      moment.minute, moment.second, 0]
  | setVolume volume => do
    checkRange "volume" maxVolume volume
    written [0x08, volume]
  | setBrightness brightness => do
    checkRange "brightness" maxBrightness brightness
    written [0x74, brightness]
  | setWeather temperature weather => do
    let weather ← checkStyle "weather" weatherStyles weather
    checkTemperature temperature
    written [0x5F, temperature % 256, weather]
  | showClock face => do
    let style ← checkStyle "clock" clockStyles face.style
    checkColour face.colour
    written (showChannel .clock ++ [1, style, flag face.time, flag face.weather,
      flag face.temperature, flag face.calendar] ++ face.colour)
  | showLight style colour brightness => do
    checkRange "brightness" maxBrightness brightness
    let style ← checkStyle "light" lightStyles style
    checkColour colour
    written (showChannel .light ++ colour ++ [brightness, style, 1, 0, 0, 0])
  | showCloud => written (showChannel .cloud)
  | showEffect effect => do
    checkRange "effect" maxEffect effect
    written (showChannel .effect ++ [effect])
  | showVisualisation visualisation => do
    checkRange "visualisation" maxVisualisation visualisation
    written (showChannel .visualisation ++ [visualisation])
  | showScoreboard red blue => do
    checkRange "red score" maxScore red
    checkRange "blue score" maxScore blue
    written (showChannel .scoreboard ++ [0] ++ lowWord red ++ lowWord blue)
  | showPicture picture => do
    let frame ← (Frame.build picture 0).mapError Refusal.picture
    return [0x44, 0x00, 0x0A, 0x0A, 0x04] ++ frame

/-- The envelope that carries a command. -/
def encode (command : Command) : Except Refusal Octets :=
  command.payload.map Envelope.wrap

end Command
end PixelPanel
