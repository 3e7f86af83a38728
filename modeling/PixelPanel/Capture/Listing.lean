import PixelPanel.Capture
import PixelPanel.Json.Print
import PixelPanel.Output

/-!
# Listings of captures

Captures come as hexadecimal text with spaces and colons between the octets. They are listed one after
the other, as text or as JSON. Nothing is listed if one of them is no hexadecimal text.
-/

namespace PixelPanel.Capture

/-- The octets of a written capture. -/
def octetsOf? (written : String) : Option Octets :=
  Hex.decode (written.toList.filter fun c => c ≠ ' ' ∧ c ≠ ':')

/-- The captures that are written, or the first text that writes none. -/
def decodeAll (lenient : Bool) : List String → Except String (List Capture)
  | [] => .ok []
  | written :: rest =>
    match octetsOf? written with
    | none => .error written
    | some octets => (decodeAll lenient rest).map (decode lenient octets :: ·)

/-- The command number of a report. -/
def commandText (report : Report) : String :=
  let digits := Hex.padded 2 report.command.toNat
  "0x" ++ digits.map Char.toUpper

/-- The lines that list a capture. -/
def lines (number : Nat) (capture : Capture) : List String :=
  [s!"--- Capture {number} ({capture.octets.length} bytes) ---"] ++
    capture.reports.map (fun report => s!"  [{commandText report}] {report.text}") ++
    (capture.error?.toList.map fun error => "  ERROR: " ++ error) ++ [""]

/-- Captures as text. -/
def textOf (captures : List Capture) : String :=
  let lines := (captures.mapIdx fun index capture => lines (index + 1) capture).flatten
  String.join (lines.map (· ++ "\n"))

/-- A text as a JSON value. -/
def jsonText (text : String) : Json.Value :=
  .text (Json.points text)

/-- A value that may be missing, as JSON. -/
def jsonOption (json : α → Json.Value) : Option α → Json.Value
  | none => .null
  | some value => json value

/-- A JSON object with given members. -/
def jsonObject (members : List (String × Json.Value)) : Json.Value :=
  .object (members.map fun (name, value) => (Json.points name, value))

/-- A report as JSON. -/
def reportJson (report : Report) : Json.Value :=
  jsonObject
    [("command", jsonText (commandText report)),
      ("data", jsonText (Hex.encodeUpper report.data)),
      ("channel", jsonOption .integer report.channel),
      ("channel_name", jsonOption jsonText report.channelName),
      ("brightness", jsonOption .integer report.brightness),
      ("volume", jsonOption .integer report.volume),
      ("description", jsonText report.text)]

/-- A capture as JSON. -/
def toJson (capture : Capture) : Json.Value :=
  jsonObject
    [("capture", jsonText (Hex.encodeUpper capture.octets)),
      ("messages", .list (capture.reports.map reportJson)),
      ("error", jsonOption jsonText capture.error?)]

/-- Captures as JSON. -/
def jsonOf (captures : List Capture) : String :=
  (Json.Value.list (captures.map toJson)).print 0 ++ "\n"

/-- Lists written captures. The exit code tells whether all of them could be decoded. -/
def list (lenient json : Bool) (written : List String) : Output :=
  match decodeAll lenient written with
  | .error bad => { code := 2, stderr := s!"Not a hex string: {bad}\n" }
  | .ok captures =>
    { code := if captures.all fun capture => capture.failures.isEmpty then 0 else 1
      stdout := if json then jsonOf captures else textOf captures }

end PixelPanel.Capture
