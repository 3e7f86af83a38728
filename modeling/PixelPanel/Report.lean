import PixelPanel.Channel
import PixelPanel.Envelope.Message
import PixelPanel.Hex
import PixelPanel.Log

/-!
# Reports of the panel

A payload that the panel sends begins with two fixed octets around a command number; the rest is
data. `Report.decode` tells what a payload reports. A command that is not known still decodes, it
only has no description. `Report.readAll` does this for a row of envelopes.
-/

namespace PixelPanel

/-- What one payload of the panel says. -/
structure Report where
  command : Int
  data : Octets
  channel : Option Int := none
  brightness : Option Int := none
  volume : Option Int := none
  description : String := ""
  deriving DecidableEq, Repr

namespace Report

/-- The first octet of a payload of the panel. -/
def firstHeader : UInt8 := 0x04

/-- The third octet of a payload of the panel. -/
def secondHeader : UInt8 := 0x55

/-- The commands of the panel that have a description. -/
inductive Kind
  | volumeSet
  | alarmConfig
  | timeSet
  | acknowledge
  | brightnessSet
  | imageSet
  | channelSet
  | settings
  | animationSet
  | buttonPress
  deriving DecidableEq, Repr

/-- The kind of report with a command number. -/
def Kind.ofCommand? : UInt8 → Option Kind
  | 0x09 => some .volumeSet
  | 0x13 => some .alarmConfig
  | 0x18 => some .timeSet
  | 0x31 => some .acknowledge
  | 0x32 => some .brightnessSet
  | 0x44 => some .imageSet
  | 0x45 => some .channelSet
  | 0x46 => some .settings
  | 0x49 => some .animationSet
  | 0xBD => some .buttonPress
  | _ => none

/-- The name of a channel number. -/
def nameOfChannel (number : Int) : String :=
  ((Channel.ofNumber? number).map Channel.name).getD "UNKNOWN"

/-- The name of the channel that a report tells. -/
def channelName (report : Report) : Option String :=
  report.channel.map nameOfChannel

/-- The text of a report: its description, or command and data if it has none. -/
def text (report : Report) : String :=
  if report.description ≠ "" then report.description
  else s!"Unknown message with command ID {report.command} and data {Hex.encode report.data}"

/-- The place of the brightness in a settings report. -/
def brightnessPlace : Nat := 6

/-- The place of the channel in a settings report. -/
def channelPlace : Nat := 20

/-- The description of a button press. -/
def buttonText : Octets → String
  | [19, 1, 50, 0] => "Play button was pressed"
  | [23, 0] => "Light button was double-clicked"
  | [19, 1, 30, 0] => "Clock button was double-clicked"
  | _ => ""

/-- The description of a change of the alarm configuration. -/
def alarmText : Octets → String
  | [0] => "Exit alarm config"
  | [10] => "Entered alarm config"
  | _ => ""

/-- Describes settings: the channel is missing from the shorter form of the report. -/
def describeSettings (report : Report) : Report :=
  if hlong : channelPlace < report.data.length then
    have hbrightness : brightnessPlace < report.data.length := Nat.lt_trans (by decide) hlong
    let channel := report.data[channelPlace]
    let brightness := report.data[brightnessPlace]
    { report with
      channel := some channel.toNat
      brightness := some brightness.toNat
      description := s!"Updated settings to brightness {brightness.toNat} and channel " ++
        s!"{channel.toNat} ({nameOfChannel channel.toNat})" }
  else if hshort : channelPlace ≤ report.data.length then
    have hbrightness : brightnessPlace < report.data.length := Nat.lt_of_lt_of_le (by decide) hshort
    let brightness := report.data[brightnessPlace]
    { report with
      brightness := some brightness.toNat
      description := s!"Received requested settings with brightness {brightness.toNat}" }
  else report

/-- Adds what is known about a kind of report. -/
def describe (report : Report) : Kind → Report
  | .settings => describeSettings report
  | .channelSet =>
    match report.data with
    | [] => report
    | value :: _ =>
      { report with
        channel := some value.toNat
        description := s!"Set channel to {value.toNat}" }
  | .brightnessSet =>
    match report.data with
    | [] => report
    | value :: _ =>
      { report with
        brightness := some value.toNat
        description := s!"Set brightness to {value.toNat}" }
  | .timeSet => { report with description := "Time was set" }
  | .imageSet => { report with description := "Image was shown" }
  | .animationSet => { report with description := "Animation was shown" }
  | .acknowledge =>
    match report.data with
    | [] => report
    | value :: _ =>
      { report with
        brightness := some value.toNat
        description := s!"Light or clock was set with brightness {value.toNat}" }
  | .volumeSet =>
    match report.data with
    | [] => report
    | value :: _ =>
      { report with
        volume := some value.toNat
        description := s!"Volume was set to {value.toNat}/16" }
  | .buttonPress => { report with description := buttonText report.data }
  | .alarmConfig => { report with description := alarmText report.data }

/-- A payload without the two header octets. -/
structure Malformed where
  payload : Octets
  deriving DecidableEq, Repr

/-- The text of a malformed payload. -/
def Malformed.message (malformed : Malformed) : String :=
  s!"received a message format I don't understand: {Hex.encode malformed.payload}"

/-- The text of the warning for a malformed payload that is skipped. -/
def Malformed.skipText (malformed : Malformed) : String :=
  "Skipping message: " ++ malformed.message

/-- The warning for a malformed payload that is skipped. -/
def Malformed.skipEntry (malformed : Malformed) : LogEntry :=
  ⟨.warning, .report, malformed.skipText⟩

/-- What a payload reports. -/
def decode (payload : Octets) : Except Malformed Report :=
  match payload with
  | first :: command :: second :: data =>
    if first ≠ firstHeader ∨ second ≠ secondHeader then .error ⟨payload⟩
    else
      let report : Report := { command := command.toNat, data }
      match Kind.ofCommand? command with
      | none => .ok report
      | some kind => .ok (report.describe kind)
  | _ => .error ⟨payload⟩

/-- Why a row of envelopes gives no reports. -/
inductive Failure
  | fault (fault : Envelope.Fault)
  | malformed (malformed : Malformed)
  deriving DecidableEq, Repr

/-- The text of a failure. -/
def Failure.message : Failure → String
  | .fault found => found.message
  | .malformed found => found.message

/-- The reports of payloads. The first malformed payload refuses all of them. -/
def decodeAll (payloads : List Octets) : Except Malformed (List Report) :=
  payloads.mapM decode

/-- The reports of the payloads that are well formed, and the payloads that are not. -/
def decodeEach : List Octets → List Report × List Malformed
  | [] => ([], [])
  | payload :: rest =>
    let (reports, malformed) := decodeEach rest
    match decode payload with
    | .ok report => (report :: reports, malformed)
    | .error bad => (reports, bad :: malformed)

/-- The reports in a row of envelopes, all or none. -/
def readAll (octets : Octets) : Except Failure (List Report) :=
  match Envelope.unwrap octets with
  | .error fault => .error (.fault fault)
  | .ok payloads =>
    match decodeAll payloads with
    | .error malformed => .error (.malformed malformed)
    | .ok reports => .ok reports

/-- The reports in a row of envelopes, with malformed payloads skipped. -/
def readEach (octets : Octets) : Except Envelope.Fault (List Report × List Malformed) :=
  match Envelope.unwrap octets with
  | .error fault => .error fault
  | .ok payloads => .ok (decodeEach payloads)

/-- The log of a reading that skips malformed payloads: one warning for each of them. -/
def skipLog (octets : Octets) : List LogEntry :=
  match readEach octets with
  | .error _ => []
  | .ok (_, malformed) => malformed.map Malformed.skipEntry

end Report
end PixelPanel
