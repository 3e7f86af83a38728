import PixelPanel.Panel

/-!
# Requests

A request is what a user asks of a panel: an order, which means one command, or an animation. Some
arguments of an order may be left out. `Order.command` says which command an order means by itself;
a panel first fills in what it takes for granted and then passes all arguments on.
-/

namespace PixelPanel.Panel

/-- What is asked of the face of the clock, beside its style. -/
structure FaceOptions where
  time : Option Bool := none
  weather : Option Bool := none
  temperature : Option Bool := none
  calendar : Option Bool := none
  colour : Option (List Int) := none
  deriving DecidableEq, Repr

/-- What a user orders a panel to do. Arguments that may be left out are optional. -/
inductive Order
  | setVolume (volume : Int)
  | setBrightness (brightness : Int)
  | setWeather (temperature : Int) (weather : String)
  | syncTime (moment : Option Moment)
  | showClock (style : String) (options : FaceOptions)
  | showLight (style : String) (colour : Option (List Int)) (brightness : Option Int)
  | showCloud
  | showEffect (effect : Int)
  | showVisualisation (visualisation : Int)
  | showScoreboard (red blue : Int)
  | displayOff
  | requestSettings
  | showPicture (picture : Picture)

/-- The face of a style; what is left out is as on a plain face. -/
def FaceOptions.face (options : FaceOptions) (style : String) : ClockFace :=
  let plain : ClockFace := { style }
  { style
    time := options.time.getD plain.time
    weather := options.weather.getD plain.weather
    temperature := options.temperature.getD plain.temperature
    calendar := options.calendar.getD plain.calendar
    colour := options.colour.getD plain.colour }

namespace Order

/-- The command that an order means. Without a moment the clock is set to the present, and what is left
out of a lamp is white light at full strength. -/
def command (now : Moment) : Order → Command
  | setVolume volume => .setVolume volume
  | setBrightness brightness => .setBrightness brightness
  | setWeather temperature weather => .setWeather temperature weather
  | syncTime moment => .setTime (moment.getD now)
  | showClock style options => .showClock (options.face style)
  | showLight style colour brightness =>
    .showLight style (colour.getD [255, 255, 255]) (brightness.getD Command.maxBrightness)
  | showCloud => .showCloud
  | showEffect effect => .showEffect effect
  | showVisualisation visualisation => .showVisualisation visualisation
  | showScoreboard red blue => .showScoreboard red blue
  | displayOff => .displayOff
  | requestSettings => .requestSettings
  | showPicture picture => .showPicture picture

/-- The order that a panel passes on: the clock shows the time of day alone and in white, and a lamp
shines in white at full strength, unless something else is asked. -/
def filled : Order → Order
  | showClock style options =>
    .showClock style
      { time := some (options.time.getD true)
        weather := some (options.weather.getD false)
        temperature := some (options.temperature.getD false)
        calendar := some (options.calendar.getD false)
        colour := some (options.colour.getD [255, 255, 255]) }
  | showLight style colour brightness =>
    .showLight style (some (colour.getD [255, 255, 255]))
      (some (brightness.getD Command.maxBrightness))
  | order => order

end Order

/-- What a user asks of a panel. -/
inductive Request
  | single (order : Order)
  | animation (pictures : List Picture) (durations : List Int)

namespace Request

/-- The packets that a request comes to. -/
def packets (now : Moment) : Request → Except Command.Refusal (List Octets)
  | single order => (order.command now).encode.map fun packet => [packet]
  | animation pictures durations => Animation.encode pictures durations

/-- What a panel does about a request. -/
def event (now : Moment) : Request → Event
  | single order => .command (order.filled.command now)
  | animation pictures durations => .animate pictures durations

end Request
end PixelPanel.Panel
