/-!
# Paths

A path is a row of parts behind a root. Parts that mean nothing, the empty one and the single point,
are dropped; two points stay, for the directory before them may be a link to another one.
-/

namespace PixelPanel

/-- A path without the parts that mean nothing. -/
structure Path where
  /-- No mark for a path that begins where one is, else one or two. -/
  root : String
  parts : List String
  deriving DecidableEq, Repr

namespace Path

/-- The parts of a text between its marks. -/
def split : List Char → List (List Char)
  | [] => [[]]
  | c :: rest =>
    match split rest with
    | [] => [[c]]
    | part :: parts => if c = '/' then [] :: part :: parts else (c :: part) :: parts

/-- Whether a part means something. -/
def counts (part : List Char) : Bool :=
  part ≠ [] ∧ part ≠ ['.']

/-- The root that a text begins with. Exactly two marks are a root of their own. -/
def rootOf (text : List Char) : String :=
  match (text.takeWhile (· == '/')).length with
  | 0 => ""
  | 2 => "//"
  | _ => "/"

/-- The path that a text names. -/
def ofText (text : String) : Path :=
  ⟨rootOf text.toList, ((split text.toList).filter counts).map String.ofList⟩

/-- A path as text. -/
def text (path : Path) : String :=
  if path.root = "" ∧ path.parts = [] then "."
  else path.root ++ "/".intercalate path.parts

/-- The last part of a path. -/
def name (path : Path) : String :=
  path.parts.getLast?.getD ""

end Path
end PixelPanel
