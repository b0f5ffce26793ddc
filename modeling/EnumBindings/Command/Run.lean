import EnumBindings.Command.Arguments
import EnumBindings.Command.FileTree
import EnumBindings.Output.Pipeline
import EnumBindings.Text.Lines

/-!
# A run of the command

The command reads a file of descriptors and writes a module. It works on a file tree and
leaves one behind; nothing is written unless the whole module has been generated.
-/

namespace EnumBindings

/-- The two paths of a run as they were given, and its options. -/
structure Request where
  source : String
  target : String
  parameter : Option String
  verbose : Bool
  deriving DecidableEq, Repr

/-- The request of a command line, if its paths can be used: the source is a file, and the
target is no directory. -/
def Request.ofArguments? (tree : FileTree) (arguments : Arguments) : Option Request :=
  match arguments.positionals with
  | [source, target] =>
    match tree.find? source, tree.find? target with
    | some (.file _), some .directory => none
    | some (.file _), _ => some ⟨source, target, arguments.parameter, arguments.verbose⟩
    | _, _ => none
  | _ => none

/-- The bytes of the source. -/
def Request.bytes (tree : FileTree) (request : Request) : ByteArray :=
  match tree.find? request.source with
  | some (.file bytes) => bytes
  | _ => .empty

/-- Reads descriptors from the bytes of a file. All line breaks count as line feeds. -/
def loadFile (bytes : ByteArray) (limits : Limits := {}) :
    Reported LoadError (List EnumDescriptor) :=
  match String.fromUTF8? bytes with
  | none => .ofExcept (.error (.descriptor ⟨.notUtf8, none, none⟩))
  | some text => loadText (Text.unifyLineBreaks text.toList) limits

/-- Generates the module for the bytes of the source. -/
def Request.generate (limits : Limits) (request : Request) (bytes : ByteArray) :
    Reported Failure String := do
  let source := Path.ofString request.source
  .report .info ("Reading enum descriptors from: " ++ source.toString)
  .report .info ("Writing TypeScript code to: " ++ (Path.ofString request.target).toString)
  let options ← (Options.parse request.parameter {}).mapError .options
  .report .debug ("Loading descriptors from " ++ source.toString)
  let enums ← (loadFile bytes limits).mapError .loading
  .reportAll (if enums.isEmpty then
    [⟨.warning, "No enums found in descriptor file. Output file will only hold the header."⟩]
    else [])
  (generateModule enums options source.name limits).mapError .writing

/-- How a run ends. -/
inductive Ending where
  /-- The command line cannot be used. -/
  | usage
  /-- Help is asked for. -/
  | help
  /-- Something is too long or too deep for the run. -/
  | interrupted (notices : List Notice) (failure : Failure)
  /-- The run is over, with an exit code and the tree that it leaves. -/
  | finished (exitCode : Nat) (notices : List Notice) (tree : FileTree)

/-- The notices that are shown: all but the minor ones, and those too on demand. -/
def shownNotices (verbose : Bool) (notices : List Notice) : List Notice :=
  notices.filter fun notice => verbose || notice.level != .debug

/-- The lines of a log. -/
def logText (notices : List Notice) : String :=
  String.join (notices.map fun notice => notice.line ++ "\n")

/-- Carries out a request. -/
def Request.run (limits : Limits) (tree : FileTree) (request : Request) : Ending :=
  let generated := request.generate limits (request.bytes tree)
  let finish (exitCode : Nat) (notice : Notice) (tree : FileTree) : Ending :=
    .finished exitCode (shownNotices request.verbose (generated.notices ++ [notice])) tree
  match generated.outcome with
  | .error failure =>
    if failure.interrupts then
      .interrupted (shownNotices request.verbose generated.notices) failure
    else finish 1 ⟨.error, "Failed to generate TypeScript: " ++ failure.message⟩ tree
  | .ok code =>
    let target := Path.ofString request.target
    let stored := tree.store target code.toUTF8
    match stored.error with
    | some error =>
      finish 1 ⟨.error, "Failed to write TypeScript file: " ++ error.message⟩ stored.tree
    | none =>
      finish 0 ⟨.info, "Successfully generated TypeScript code to " ++ target.toString⟩ stored.tree

/-- Runs a command line on a file tree. -/
def run (limits : Limits) (tree : FileTree) (arguments : List String) : Ending :=
  match Arguments.read arguments with
  | none => .usage
  | some arguments =>
    if arguments.help then .help
    else
      match Request.ofArguments? tree arguments with
      | none => .usage
      | some request => request.run limits tree

end EnumBindings
