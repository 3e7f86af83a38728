/-!
# What a program leaves behind
-/

namespace PixelPanel

/-- The exit code of a program and what it has printed. -/
structure Output where
  code : Nat
  stdout : String := ""
  stderr : String := ""
  deriving DecidableEq, Repr

end PixelPanel
