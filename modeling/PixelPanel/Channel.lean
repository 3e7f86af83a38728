/-!
# Display channels

The panel shows one channel at a time. Each channel has a number, which both sides use, and a name.
-/

namespace PixelPanel

/-- What the panel can show. -/
inductive Channel
  | clock
  | light
  | cloud
  | effect
  | visualisation
  | animation
  | scoreboard
  deriving DecidableEq, Repr

namespace Channel

/-- All channels in the order of their numbers. -/
def all : List Channel :=
  [clock, light, cloud, effect, visualisation, animation, scoreboard]

/-- The number of a channel on the link. -/
def number : Channel → UInt8
  | clock => 0
  | light => 1
  | cloud => 2
  | effect => 3
  | visualisation => 4
  | animation => 5
  | scoreboard => 6

/-- The name of a channel in texts. -/
def name : Channel → String
  | clock => "CLOCK"
  | light => "LIGHT"
  | cloud => "CLOUD"
  | effect => "VJ"
  | visualisation => "VISUALISATION"
  | animation => "ANIMATION"
  | scoreboard => "SCOREBOARD"

/-- The channel with a number. -/
def ofNumber? (number : Int) : Option Channel :=
  all.find? fun channel => (channel.number.toNat : Int) == number

end Channel
end PixelPanel
