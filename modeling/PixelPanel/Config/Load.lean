import PixelPanel.Config
import PixelPanel.Json.Document
import PixelPanel.Storage

/-!
# Configuration files

The configuration lies in a JSON file. Its path is given, or an environment variable names it, or it
has the default name.
-/

namespace PixelPanel.Config

/-- The environment variable that can name the file. -/
def pathVariable : String := "PIXELBOX_CONFIG"

/-- The name of the file if nothing else is said. -/
def defaultPath : String := "config.json"

/-- Why no configuration can be loaded. -/
inductive LoadFault
  | reading (path : Path) (fault : Storage.ReadFault)
  | json (path : Path) (fault : Json.Fault)
  | content (fault : Config.Fault)
  deriving Repr

/-- The text of a fault. Only what the system reports, and what is wrong inside of the file, comes with
the path. -/
def LoadFault.message : LoadFault → String
  | .reading path (.system error text) =>
    s!"could not read {path.text}: {(Storage.ReadFault.system error text).message}"
  | .reading _ fault => fault.message
  | .json _ (.longInteger digits) => (Json.Fault.longInteger digits).message
  | .json _ (.tooDeep isObject) => (Json.Fault.tooDeep isObject).message
  | .json path fault => s!"invalid JSON in {path.text}: {fault.message}"
  | .content fault => fault.message

/-- Whether a fault is one of the configuration. All others tell that the file, or the path, is not
what it should be at a lower level: octets that are no text, integers without a bound, containers for
which there is no room. -/
def LoadFault.isOfConfig : LoadFault → Bool
  | .reading _ (.system _ _) => true
  | .reading _ _ => false
  | .json _ (.longInteger _) => false
  | .json _ (.tooDeep _) => false
  | .json _ _ => true
  | .content _ => true

/-- The path of the file. -/
def pathOf (given : Option String) (environment : List (String × String)) : Path :=
  .ofText (given.getD ((environment.lookup pathVariable).getD defaultPath))

/-- Loads the configuration from its file, with room for a number of open containers. -/
def load (room : Nat) (storage : Storage) (environment : List (String × String))
    (given : Option String) : Except LoadFault Config :=
  let path := pathOf given environment
  match storage.readText path.text with
  | .error fault => .error (.reading path fault)
  | .ok text =>
    match Json.read room text with
    | .error fault => .error (.json path fault)
    | .ok value =>
      match ofJson value with
      | .error fault => .error (.content fault)
      | .ok config => .ok config

end PixelPanel.Config
