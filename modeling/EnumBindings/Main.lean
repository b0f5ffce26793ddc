import EnumBindings.Command.Footprint
import EnumBindings.Command.Run

/-!
# The command

The part of the file system that a run may ask about is read into a file tree. The run
itself works on that tree, and what it leaves behind is carried over to the file system.
-/

namespace EnumBindings

/-- How to use the command. -/
def usageText : String :=
  "usage: enum-bindings [-v | --verbose] [-o OPTIONS | --opt OPTIONS] DESCRIPTOR_FILE OUTPUT_FILE"

/-- The spelling of a location. -/
def locationText (location : Location) : String :=
  "/" ++ "/".intercalate location

/-- The entry at a location of the file system. -/
def observe (location : Location) : IO (Option (Location × Entry)) := do
  let path := (← IO.currentDir) / locationText location
  if ← path.isDir then return some (location, .directory)
  else if ← path.pathExists then return some (location, .file (← IO.FS.readBinFile path))
  else return none

/-- The file tree that a command line works on. -/
def observeTree (arguments : List String) : IO FileTree := do
  let current := (Path.ofString (← IO.currentDir).toString).parts
  let known := (Arguments.read arguments).getD {}
  let entries ← (known.footprint current).filterMapM observe
  return ⟨entries, current⟩

/-- Carries the changes of a run over to the file system. -/
def carryOver (before after : FileTree) : IO Unit := do
  for location in FileTree.newDirectories before after do
    IO.FS.createDirAll (locationText location)
  for (location, bytes) in FileTree.newFiles before after do
    IO.FS.writeBinFile (locationText location) bytes

/-- The limits of the command. -/
def commandLimits : Limits := .ordinary 900

/-- Runs a command line and returns its exit code. -/
def runCommand (arguments : List String) : IO UInt32 := do
  let tree ← observeTree arguments
  match run commandLimits tree arguments with
  | .usage =>
    IO.eprintln usageText
    return 2
  | .help =>
    IO.println usageText
    return 0
  | .interrupted notices failure =>
    IO.eprint (logText notices)
    IO.eprintln failure.message
    return 1
  | .finished exitCode notices after =>
    carryOver tree after
    IO.eprint (logText notices)
    return UInt32.ofNat exitCode

end EnumBindings

/-- Generates bindings for the descriptors in a file. -/
def main (arguments : List String) : IO UInt32 :=
  EnumBindings.runCommand arguments
