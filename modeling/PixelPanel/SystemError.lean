/-!
# Errors of the system
-/

namespace PixelPanel

/-- An error that the system reports. -/
structure SystemError where
  code : Int
  text : String
  deriving DecidableEq, Repr

namespace SystemError

/-- The text of an error of the system. -/
def message (error : SystemError) : String :=
  s!"[Errno {error.code}] {error.text}"

/-- The error of a write to a socket that is closed. -/
def closedSocket : SystemError := ⟨9, "Bad file descriptor"⟩

/-- The error for a path where nothing is. -/
def noSuchFile : SystemError := ⟨2, "No such file or directory"⟩

/-- The error for a path that goes on behind a file. -/
def notADirectory : SystemError := ⟨20, "Not a directory"⟩

/-- The error for a directory that is read like a file. -/
def isADirectory : SystemError := ⟨21, "Is a directory"⟩

/-- The error for a path that is too long or has a part that is. -/
def nameTooLong : SystemError := ⟨36, "File name too long"⟩

end SystemError
end PixelPanel
