import EnumBindings.Command.Arguments
import EnumBindings.Command.FileTree

/-!
# The footprint of a run

The locations that a run may ask about: those on the way to its two paths, and those on
the way to each directory above its target.
-/

namespace EnumBindings

/-- The locations on the way along parts, the last one included. -/
def Location.along (location : Location) : List String → List Location
  | [] => [location]
  | part :: parts => location :: along (FileTree.follow location part) parts

/-- The locations on the way to a spelling. -/
def footprintOf (current : Location) (spelling : String) : List Location :=
  Location.along (if (Path.rootOf spelling.toList).isEmpty then current else [])
    (Path.spelledParts spelling)

/-- The locations on the way to the paths of a command line. -/
def Arguments.footprint (current : Location) (arguments : Arguments) : List Location :=
  (arguments.positionals.flatMap fun spelling =>
    footprintOf current spelling ++ footprintOf current (Path.ofString spelling).toString).eraseDups

end EnumBindings
