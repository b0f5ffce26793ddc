import EnumBindings.Text.Pieces

/-!
# Paths

A path as it is shown to the user: without empty parts and without dots for the place
itself. The parts that go up are kept.
-/

namespace EnumBindings

/-- A path below the current directory or below a root. -/
structure Path where
  /-- The slashes in front: none, one or two. -/
  root : String
  parts : List String
  deriving DecidableEq, Repr

namespace Path

/-- The parts between the slashes of a spelling. -/
def spelledParts (spelling : String) : List String :=
  (Text.pieces '/' spelling.toList).map String.ofList

/-- The slashes in front of a spelling. Two of them are kept, any other number is as good
as one. -/
def rootOf : List Char → String
  | '/' :: '/' :: '/' :: _ => "/"
  | '/' :: '/' :: _ => "//"
  | '/' :: _ => "/"
  | _ => ""

/-- The path of a spelling. -/
def ofString (spelling : String) : Path where
  root := rootOf spelling.toList
  parts := (spelledParts spelling).filter fun part => !(part.isEmpty || part = ".")

/-- The shortest spelling of a path. -/
def toString (path : Path) : String :=
  if path.root.isEmpty && path.parts.isEmpty then "." else path.root ++ "/".intercalate path.parts

/-- The path one part shorter. A path without parts is its own parent. -/
def parent (path : Path) : Path :=
  { path with parts := path.parts.dropLast }

/-- The last part of a path. -/
def name (path : Path) : String :=
  path.parts.getLast?.getD ""

end Path

end EnumBindings
