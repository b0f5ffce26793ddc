import EnumBindings.Options.Basic
import EnumBindings.Script.Lines

/-!
# Representations

An enumeration is represented by an enumeration of the target language, or by a constant
object with a type of the same name for its values and one for each member.
-/

namespace EnumBindings.Script

/-- How an enumeration is represented. -/
inductive Representation where
  /-- An enumeration, which may be erased at compile time. -/
  | native (erased : Bool)
  /-- A constant object. -/
  | literal
  deriving DecidableEq, Repr

namespace Representation

/-- The representation that options ask for. -/
def ofOptions (options : Options) : Representation :=
  if options.enumsAsLiterals then .literal else .native options.constEnums

/-- The name of a representation. -/
def name : Representation → String
  | .native _ => "NativeEnumStrategy"
  | .literal => "LiteralObjectStrategy"

/-- Opens a scope. One that holds a constant cannot be ambient. -/
def scopeOpening (representation : Representation) (scope : String) : String :=
  match representation with
  | .native _ => "export declare namespace " ++ scope ++ " \x7b"
  | .literal => "export namespace " ++ scope ++ " \x7b"

/-- Opens a declaration. -/
def declarationOpening (representation : Representation) (name : String) : String :=
  match representation with
  | .native true => "export const enum " ++ name ++ " \x7b"
  | .native false => "export enum " ++ name ++ " \x7b"
  | .literal => "export const " ++ name ++ " = \x7b"

/-- Declares a member with the code of its value. -/
def memberLine (representation : Representation) (name valueCode : String) : String :=
  match representation with
  | .native _ => name ++ " = " ++ valueCode ++ ","
  | .literal => name ++ ": " ++ valueCode ++ ","

/-- Names the type of one member of a constant object. -/
def aliasLine (name member : String) : String :=
  "export type " ++ member ++ " = typeof " ++ name ++ "." ++ member ++ ";"

/-- Closes a declaration with the given members. An object is no type, so its types follow
it in a namespace of the same name. -/
def closing (representation : Representation) (name : String) (members : List String) :
    List String :=
  match representation with
  | .native _ => ["\x7d"]
  | .literal =>
    ["\x7d as const;", "",
      "export type " ++ name ++ " = typeof " ++ name ++ "[keyof typeof " ++ name ++ "];", "",
      "export namespace " ++ name ++ " \x7b"] ++
    indent 1 (members.map (aliasLine name)) ++ ["\x7d"]

end Representation

end EnumBindings.Script
