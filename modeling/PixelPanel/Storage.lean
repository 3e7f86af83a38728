import PixelPanel.Path
import PixelPanel.Picture
import PixelPanel.SystemError
import PixelPanel.Text.Quoted
import PixelPanel.Text.Utf8

/-!
# Files

The files that the program can read all lie in the directory where it runs. A path is followed part by
part; above that directory, and in the directories inside of it, there is nothing to be found.
-/

namespace PixelPanel

/-- A frame of an animated picture, and the time to show it in milliseconds if it has one. -/
structure Shot where
  picture : Picture
  duration : Option Int

/-- What a name in the directory stands for. -/
inductive Entry
  | document (octets : Octets)
  | folder
  | picture (picture : Picture)
  | animation (first : Shot) (rest : List Shot)

/-- The directory where the program runs. -/
abbrev Storage := List (String × Entry)

namespace Storage

/-- Where the following of a path has come to. -/
inductive Place
  /-- The directory where the program runs. -/
  | home
  /-- Some directory above. -/
  | above
  | entry (entry : Entry)

/-- The greatest number of octets of one part of a path. -/
def maxPart : Nat := 255

/-- The greatest number of octets of a path. -/
def maxPath : Nat := 4095

/-- Follows one part of a path. -/
def follow (storage : Storage) (place : Place) (part : String) : Except SystemError Place :=
  let stays := part = "" ∨ part = "."
  match place with
  | .home =>
    if stays then .ok .home
    else if part = ".." then .ok .above
    else if maxPart < part.utf8ByteSize then .error .nameTooLong
    else
      match storage.lookup part with
      | none => .error .noSuchFile
      | some entry => .ok (.entry entry)
  | .above =>
    if stays ∨ part = ".." then .ok .above
    else if maxPart < part.utf8ByteSize then .error .nameTooLong
    else .error .noSuchFile
  | .entry .folder =>
    if stays then .ok place
    else if part = ".." then .ok .home
    else if maxPart < part.utf8ByteSize then .error .nameTooLong
    else .error .noSuchFile
  | .entry _ => .error .notADirectory

/-- What a path leads to. -/
def find (storage : Storage) (path : String) : Except SystemError Place :=
  if path = "" then .error .noSuchFile
  else if maxPath < path.utf8ByteSize then .error .nameTooLong
  else
    let start := if path.startsWith "/" then Place.above else .home
    (Path.split path.toList).foldlM (fun place part => storage.follow place (String.ofList part)) start

/-- Whether a place is a directory. -/
def Place.isFolder : Place → Bool
  | .home => true
  | .above => true
  | .entry .folder => true
  | .entry _ => false

/-- The first octets of a picture in a file, which already are no text. -/
def pictureSignature : Octets := [0x89, 0x50, 0x4E, 0x47, 0x0D, 0x0A, 0x1A, 0x0A]

/-- The first octets of an animation in a file. The last of them is no text. -/
def animationSignature : Octets :=
  [0x47, 0x49, 0x46, 0x38, 0x39, 0x61, 0x10, 0x00, 0x10, 0x00, 0x87]

/-- The octets that a path leads to. -/
def read (storage : Storage) (path : String) : Except SystemError Octets :=
  match storage.find path with
  | .error error => .error error
  | .ok (.entry (.document octets)) => .ok octets
  | .ok (.entry (.picture _)) => .ok pictureSignature
  | .ok (.entry (.animation _ _)) => .ok animationSignature
  | .ok _ => .error .isADirectory

/-- Every end of a line becomes a single line feed. -/
def unifyLines : List Char → List Char
  | '\r' :: '\n' :: rest => '\n' :: unifyLines rest
  | '\r' :: rest => '\n' :: unifyLines rest
  | c :: rest => c :: unifyLines rest
  | [] => []

/-- Why a text cannot be read from a file. -/
inductive ReadFault
  /-- A path cannot hold a zero. -/
  | zeroInPath
  | system (error : SystemError) (path : String)
  | undecodable (fault : Text.Utf8.Fault)
  deriving DecidableEq, Repr

/-- The text of the error for a path that holds a zero. -/
def zeroText : String := "embedded null byte"

/-- The text of a fault. -/
def ReadFault.message : ReadFault → String
  | .zeroInPath => zeroText
  | .system error path => s!"{error.message}: {Text.quoted path}"
  | .undecodable fault => fault.message

/-- Whether a path holds a zero. -/
def holdsZero (path : String) : Bool :=
  '\x00' ∈ path.toList

/-- The text that a path leads to. -/
def readText (storage : Storage) (path : String) : Except ReadFault (List Char) :=
  if holdsZero path then .error .zeroInPath
  else
    match storage.read path with
    | .error error => .error (.system error path)
    | .ok octets =>
      match Text.Utf8.decode octets with
      | .error fault => .error (.undecodable fault)
      | .ok text => .ok (unifyLines text)

end Storage
end PixelPanel
