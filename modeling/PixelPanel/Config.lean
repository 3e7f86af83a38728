import PixelPanel.Address
import PixelPanel.Json.Value

/-!
# Device configuration

A configuration lists devices: their addresses, and perhaps their names and channels. `Config.ofJson`
accepts exactly the values that describe devices, and `Config.find` looks a device up by its name. A
device without a name is named by its place in the list.
-/

namespace PixelPanel

/-- A device that can be reached. Its name is any text that a JSON string can hold. -/
structure Device where
  name : Json.Points
  address : String
  channel : Int
  deriving DecidableEq, Repr

namespace Device

/-- The lowest channel number of a link. -/
def minChannel : Int := 1

/-- The highest channel number of a link. -/
def maxChannel : Int := 30

/-- The channel number that is used if none is given. -/
def defaultChannel : Int := 1

/-- Why a value describes no device. -/
inductive Fault
  | notObject
  | noAddress
  | address (written : Json.Points)
  | channel (given : Json.Value)
  deriving Repr

/-- The text of a fault of the device at a place of the list. -/
def Fault.message (index : Nat) : Fault → String
  | .notObject => s!"device #{index} should be an object"
  | .noAddress => s!"device #{index} is missing 'mac'"
  | .address written => s!"device #{index}: invalid mac {Text.quotedPoints written}"
  | .channel given =>
    s!"device #{index}: channel should be an integer between {minChannel} and {maxChannel}, " ++
      s!"got {given.display}"

/-- The channel number that a value gives. -/
def channelOf? : Option Json.Value → Except Fault Int
  | none => .ok defaultChannel
  | some (.integer number) =>
    if minChannel ≤ number ∧ number ≤ maxChannel then .ok number
    else .error (.channel (.integer number))
  | some other => .error (.channel other)

/-- The name of the device at a place of the list. -/
def nameOf (index : Nat) (given : Option Json.Value) : Json.Points :=
  match given.filter Json.Value.isGiven with
  | none => Json.points s!"device{index}"
  | some given => given.plain

/-- The device that a value describes. -/
def ofJson (index : Nat) : Json.Value → Except Fault Device
  | .object members =>
    match members.lookup (Json.points "mac") with
    | some (.text written) =>
      match Address.ofText? (Text.ofPoints written).toList with
      | none => .error (.address written)
      | some _ =>
        match channelOf? (members.lookup (Json.points "channel")) with
        | .error fault => .error fault
        | .ok channel =>
          .ok ⟨nameOf index (members.lookup (Json.points "name")), Text.ofPoints written, channel⟩
    | _ => .error .noAddress
  | _ => .error .notObject

end Device

/-- The devices of a configuration. -/
structure Config where
  devices : List Device
  deriving DecidableEq, Repr

namespace Config

/-- Why a value is no configuration. -/
inductive Fault
  | notObject
  | devicesNotList
  | device (index : Nat) (fault : Device.Fault)
  deriving Repr

/-- The text of a fault. -/
def Fault.message : Fault → String
  | .notObject => "config should be a JSON object"
  | .devicesNotList => "'devices' should be a list"
  | .device index fault => fault.message index

/-- The devices that values describe, the first of them at place `index`. -/
def devicesFrom (index : Nat) : List Json.Value → Except Fault (List Device)
  | [] => .ok []
  | value :: rest =>
    match Device.ofJson index value with
    | .error fault => .error (.device index fault)
    | .ok device =>
      match devicesFrom (index + 1) rest with
      | .error fault => .error fault
      | .ok devices => .ok (device :: devices)

/-- The configuration that a value describes. What it does not need is ignored. -/
def ofJson : Json.Value → Except Fault Config
  | .object members =>
    match (members.lookup (Json.points "devices")).getD (.list []) with
    | .list values => (devicesFrom 0 values).map Config.mk
    | _ => .error .devicesNotList
  | _ => .error .notObject

/-- Why there is no device to be found. -/
inductive Missing
  | noDevices
  | unknown (name : Json.Points) (known : List Json.Points)
  deriving DecidableEq, Repr

/-- The text of the error for a device that is missing. -/
def Missing.message : Missing → Json.Points
  | .noDevices => Json.points "no devices configured"
  | .unknown name known =>
    Json.points "unknown device '" ++ name ++ Json.points "' (configured: " ++
      (Json.points ", ").intercalate known ++ Json.points ")"

/-- The first device with a name, or the first one if no name is given. -/
def find (config : Config) (name : Option Json.Points) : Except Missing Device :=
  match config.devices with
  | [] => .error .noDevices
  | first :: _ =>
    match name with
    | none => .ok first
    | some name =>
      match config.devices.find? fun device => device.name = name with
      | some device => .ok device
      | none => .error (.unknown name (config.devices.map Device.name))

end Config
end PixelPanel
