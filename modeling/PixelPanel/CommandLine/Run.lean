import PixelPanel.CommandLine.Conversation
import PixelPanel.CommandLine.Invocation
import PixelPanel.Text.Stream

/-!
# Running the program

The program builds the packets of a request first. A dry run shows them; any other run finds the device,
sends the packets in one conversation and prints what the device reports.
-/

namespace PixelPanel.CommandLine

/-- All that the program finds around it. -/
structure Surroundings where
  storage : Storage := []
  environment : List (String × String) := []
  now : Moment
  outside : Outside := {}
  /-- How many containers of a JSON document may be open at the same time. -/
  room : Nat := Json.usualRoom

/-- Why the program fails. -/
inductive Failure
  | stop (stop : Stop)
  | refused (refusal : Command.Refusal)
  | noPicture (path : Path) (reason : String)
  | config (fault : Config.LoadFault)
  | noDevice (missing : Config.Missing)
  | call (error : Link.CallError)

namespace Failure

/-- The text of an error together with what can be done about it. -/
def withAdvice (text : String) : String :=
  s!"{text}. Use --address or a config file."

/-- Whether the program ends without a report of its own. -/
def isCrash : Failure → Bool
  | .stop .zeroInPath => true
  | .stop (.noSuchLevel _) => true
  | .config fault => !fault.isOfConfig
  | .refused .notOctets => true
  | _ => false

/-- The text of a failure. -/
def message : Failure → String
  | .stop (.usage error) => error.message
  | .stop (.help _) => ""
  | .stop .zeroInPath => Storage.zeroText
  | .stop (.noSuchLevel name) => s!"Level '{name}' does not exist"
  | .refused refusal => refusal.message
  | .noPicture path reason => s!"could not open {path.text}: {reason}"
  | .config fault => if fault.isOfConfig then withAdvice fault.message else fault.message
  | .noDevice missing => withAdvice (Text.ofPointsEscaped missing.message)
  | .call error => error.message

/-- The exit code of a failure. -/
def code : Failure → Nat
  | .stop (.usage _) => 2
  | .stop (.help code) => code
  | _ => 1

/-- What is printed about a failure. -/
def report (failure : Failure) : String :=
  match failure with
  | .stop (.help _) => ""
  | .call .cancelled => "\nAborted!\n"
  | _ => if failure.isCrash then "" else s!"Error: {failure.message}\n"

end Failure

/-- What a run of the program leaves behind. -/
structure Result where
  /-- The lines on the standard output. -/
  lines : List String := []
  /-- What was seen of the link. -/
  notes : List Link.Note := []
  /-- The least weight of a log entry that is shown. -/
  threshold : Nat := 0
  /-- The times that the program has waited. -/
  waits : List Double := []
  failure : Option Failure := none

namespace Result

/-- The exit code. -/
def code (result : Result) : Nat :=
  (result.failure.map Failure.code).getD 0

/-- The standard output. -/
def stdout (result : Result) : String :=
  Text.withSingleBreaks (Text.withoutSequences (String.join (result.lines.map (· ++ "\n"))))

/-- The log entries that are shown. -/
def shownLog (result : Result) : List LogEntry :=
  result.notes.filterMap fun note =>
    match note with
    | .log entry => if result.threshold ≤ entry.level.weight then some entry else none
    | _ => none

/-- The standard error with a stamp for the time of every log entry. The log is written as it is. -/
def stderr (stamp : String) (result : Result) : String :=
  Text.withSingleBreaks
    (String.join (result.shownLog.map fun entry => entry.line stamp ++ "\n") ++
      Text.withoutSequences ((result.failure.map Failure.report).getD ""))

/-- The attempts to connect. -/
def opened (result : Result) : List (String × Int) :=
  result.notes.filterMap fun note =>
    match note with
    | .opened address channel => some (address, channel)
    | _ => none

/-- What was written to the link. -/
def written (result : Result) : List Octets :=
  result.notes.filterMap fun note =>
    match note with
    | .written message => some message
    | _ => none

end Result

/-- The time of a frame that has none of its own, in milliseconds. -/
def defaultDuration : Int := 100

/-- How long the settings are waited for at least, in seconds. -/
def settingsListening : Double := .ofDecimal false 2 0

/-- The reason why a file is no picture. -/
def noPictureText (path : Path) : String :=
  s!"cannot identify image file {Text.quoted path.text}"

/-- The frames of a picture file; a picture that does not move has one. -/
def shots (storage : Storage) (path : Path) : Except Failure (Shot × List Shot) :=
  match storage.find path.text with
  | .error error =>
    .error (.noPicture path (Storage.ReadFault.system error path.text).message)
  | .ok (.entry (.picture picture)) => .ok (⟨picture, none⟩, [])
  | .ok (.entry (.animation first rest)) => .ok (first, rest)
  | .ok _ => .error (.noPicture path (noPictureText path))

/-- The packets of a request, and the lines that are printed on the way to them. -/
def Request.prepare (surroundings : Surroundings) :
    Request → List String × Except Failure (List Octets)
  | .command asked => ([], (asked.encode.map fun packet => [packet]).mapError .refused)
  | .setClock =>
    ([], ((Command.setTime surroundings.now).encode.map fun packet => [packet]).mapError .refused)
  | .settings => ([], (Command.requestSettings.encode.map fun packet => [packet]).mapError .refused)
  | .listen _ => ([], .ok [])
  | .picture path =>
    match shots surroundings.storage path with
    | .error failure => ([], .error failure)
    | .ok (first, _) =>
      ([], ((Command.showPicture first.picture).encode.map fun packet => [packet]).mapError .refused)
  | .animation path duration =>
    match shots surroundings.storage path with
    | .error failure => ([], .error failure)
    | .ok (first, rest) =>
      let shown := first :: rest
      let durations := shown.map fun shot => duration.getD (shot.duration.getD defaultDuration)
      ([s!"Loaded {shown.length} frame(s) from {path.name}"],
        (Animation.encode (shown.map Shot.picture) durations).mapError .refused)

/-- How long a request listens. -/
def Request.listening (listen : Double) : Request → Double
  | .settings => if listen.lt settingsListening then settingsListening else listen
  | .listen time => time
  | _ => listen

/-- The address and the channel of the device to talk to. -/
def Target.resolve (surroundings : Surroundings) (target : Target) :
    Except Failure (String × Int) :=
  match target.address.filter fun address => address ≠ "" with
  | some address => .ok (address, target.channel.getD Device.defaultChannel)
  | none =>
    match Config.load surroundings.room surroundings.storage surroundings.environment target.config with
    | .error fault => .error (.config fault)
    | .ok config =>
      match config.find (target.device.map Json.points) with
      | .error missing => .error (.noDevice missing)
      | .ok device => .ok (device.address, target.channel.getD device.channel)

/-- The lines that show packets. -/
def packetLines (packets : List Octets) : List String :=
  (packets.mapIdx fun index packet =>
    [s!"--- Packet {index + 1} ({packet.length} bytes) ---", Hex.encodeUpper packet]).flatten

/-- The texts of the reports that were told. -/
def toldLines (notes : List Link.Note) : List String :=
  notes.filterMap fun note =>
    match note with
    | .told _ report => some report.text
    | _ => none

/-- Whether listening was begun: everything before it has succeeded, and there is time for it. -/
def listeningLines (listen : Double) (conversation : Conversation) : List String :=
  if conversation.error.isNone && listen.isPositive then [s!"Listening for {listen.generalText}s..."]
  else []

/-- Sends packets to a device and prints what it reports. -/
def deliver (surroundings : Surroundings) (address : String) (channel : Int)
    (packets : List Octets) (listen : Double) : Result :=
  let link : Link := { address, channel, listeners := [.inbox] }
  let conversation := Conversation.hold surroundings.outside link packets listen.isPositive
  let notes := conversation.link.trace
  { lines := [s!"Connecting to {address} (channel {channel})..."] ++
      listeningLines listen conversation ++ toldLines notes ++
      (if conversation.error.isNone then ["Done!"] else [])
    notes := notes
    waits := if conversation.error.isNone && listen.isPositive then [listen] else []
    failure := conversation.error.map .call }

/-- Runs an invocation. -/
def Invocation.run (surroundings : Surroundings) (invocation : Invocation) : Result :=
  let options := invocation.options
  let (before, packets) := invocation.request.prepare surroundings
  let result : Result :=
    match packets with
    | .error failure => { failure := some failure }
    | .ok packets =>
      if options.dryRun then { lines := packetLines packets }
      else
        match options.target.resolve surroundings with
        | .error failure => { failure := some failure }
        | .ok (address, channel) =>
          deliver surroundings address channel packets
            (invocation.request.listening options.listen)
  { result with lines := before ++ result.lines, threshold := options.threshold }

/-- Runs a command line. -/
def run (surroundings : Surroundings) (words : List String) : Result :=
  match Invocation.ofWords surroundings.storage surroundings.environment words with
  | .error stop => { failure := some (.stop stop) }
  | .ok invocation => invocation.run surroundings

end PixelPanel.CommandLine
