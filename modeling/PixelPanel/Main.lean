import PixelPanel.Capture.Arguments
import PixelPanel.CommandLine.Run
import Std.Time.Zoned

/-!
# The program

The words of the command line, the files of the directory, the environment and the time of day are
handed to `PixelPanel.CommandLine.run`. With `decode-capture` as the first word the others go to
`PixelPanel.Capture.run`. There is no driver for links here, so an attempt to connect always fails.
-/

namespace PixelPanel.Program

/-- The word that chooses the capture decoder. -/
def captureWord : String := "decode-capture"

/-- The files of the directory whose names occur at the end of some word. -/
def readStorage (words : List String) : IO Storage := do
  let found ← (← IO.currentDir).readDir
  found.toList.filterMapM fun entry => do
    if words.any fun word => word.endsWith entry.fileName then
      if ← entry.path.isDir then return some (entry.fileName, .folder)
      let content ← IO.FS.readBinFile entry.path
      return some (entry.fileName, .document content.toList)
    else return none

/-- The variables of the environment that matter. -/
def readEnvironment : IO (List (String × String)) := do
  [Config.pathVariable, CommandLine.levelVariable].filterMapM fun name => do
    return (← IO.getEnv name).map fun value => (name, value)

/-- The time of day. -/
def readClock : IO Moment := do
  let now ← Std.Time.PlainDateTime.now
  return ⟨now.year.toInt.toNat, now.month.toNat, now.day.toNat, now.hour.toNat, now.minute.toNat,
    now.second.toNat⟩

/-- A number with two digits. -/
def twoDigits (value : Nat) : String :=
  if value < 10 then s!"0{value}" else toString value

/-- The stamp of log entries. -/
def stamp (now : Moment) : String :=
  s!"{twoDigits now.hour}:{twoDigits now.minute}:{twoDigits now.second}.000"

/-- Prints what a program leaves behind. -/
def emit (output : Output) : IO UInt32 := do
  IO.print output.stdout
  IO.eprint output.stderr
  return UInt32.ofNat output.code

/-- Runs the command line. -/
def runCommandLine (words : List String) : IO UInt32 := do
  let environment ← readEnvironment
  let now ← readClock
  let storage ← readStorage (Config.defaultPath :: words ++ environment.map Prod.snd)
  let result := CommandLine.run
    { storage, environment, now, outside := { answer := .unsupported } } words
  emit { code := result.code, stdout := result.stdout, stderr := result.stderr (stamp now) }

end PixelPanel.Program

/-- Runs one of the two programs. -/
def main (words : List String) : IO UInt32 :=
  match words with
  | [] => PixelPanel.Program.runCommandLine []
  | word :: rest =>
    if word = PixelPanel.Program.captureWord then
      PixelPanel.Program.emit (PixelPanel.Capture.run rest)
    else PixelPanel.Program.runCommandLine (word :: rest)
