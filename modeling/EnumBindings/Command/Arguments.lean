import EnumBindings.Text.Pieces

/-!
# Command line arguments

Two paths are given in any mix with options: `-o` or `--opt` with the option string, of
which the last counts, and `-v` or `--verbose`. Single letters may be joined, and the value
may be joined to its option. Behind `--` nothing is an option.
-/

namespace EnumBindings

/-- What the arguments say. -/
structure Arguments where
  positionals : List String := []
  parameter : Option String := none
  verbose : Bool := false
  help : Bool := false
  deriving DecidableEq, Repr

/-- Whether an argument brings an option string. -/
inductive GivenValue where
  | nothing
  | given (value : String)
  /-- It is the next argument. -/
  | due
  deriving DecidableEq, Repr

/-- What a single argument is. -/
inductive Spelling where
  | positional
  | options (verbose : Bool) (value : GivenValue)
  | help
  | unknown
  deriving DecidableEq, Repr

/-- Reads joined letters. -/
def Spelling.ofLetters (verbose : Bool) : List Char → Spelling
  | [] => .options verbose .nothing
  | 'v' :: letters => ofLetters true letters
  | ['o'] => .options verbose .due
  | 'o' :: value => .options verbose (.given (String.ofList value))
  | _ => .unknown

/-- Reads an argument with two dashes. -/
def Spelling.ofWord (argument : List Char) : Spelling :=
  let (name, value?) := Text.cutAtFirst '=' argument
  match String.ofList name, value? with
  | "--opt", some value => .options false (.given (String.ofList value))
  | "--opt", none => .options false .due
  | "--verbose", none => .options true .nothing
  | "--help", none => .help
  | _, _ => .unknown

/-- Reads an argument. A dash alone is no option. -/
def Spelling.ofArgument (argument : String) : Spelling :=
  match argument.toList with
  | '-' :: '-' :: letters => .ofWord ('-' :: '-' :: letters)
  | '-' :: letter :: letters => .ofLetters false (letter :: letters)
  | _ => .positional

namespace Arguments

/-- Reads arguments one by one, on top of what is known. There is no result for an unknown
option or a missing value. -/
def readFrom (known : Arguments) : List String → Option Arguments
  | [] => some known
  | argument :: rest =>
    if argument = "--" then some { known with positionals := known.positionals ++ rest }
    else
      match Spelling.ofArgument argument with
      | .positional =>
        readFrom { known with positionals := known.positionals ++ [argument] } rest
      | .options verbose .nothing =>
        readFrom { known with verbose := known.verbose || verbose } rest
      | .options verbose (.given value) =>
        readFrom { known with verbose := known.verbose || verbose, parameter := some value } rest
      | .options verbose .due =>
        match rest with
        | [] => none
        | value :: rest =>
          readFrom { known with verbose := known.verbose || verbose, parameter := some value } rest
      | .help => readFrom { known with help := true } rest
      | .unknown => none

/-- Reads a command line. -/
def read (arguments : List String) : Option Arguments :=
  readFrom {} arguments

end Arguments

end EnumBindings
