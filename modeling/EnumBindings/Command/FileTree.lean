import EnumBindings.Command.Path
import EnumBindings.Text.Quoted

/-!
# File trees

The directories and files that a run can see. Paths are followed part by part from the
current directory or from the root; what fails is reported with the path it failed for.
-/

namespace EnumBindings

/-- A directory or a file with its bytes. -/
inductive Entry where
  | directory
  | file (bytes : ByteArray)

/-- Files are equal if their bytes are. -/
instance : DecidableEq Entry
  | .directory, .directory => isTrue rfl
  | .directory, .file _ => isFalse nofun
  | .file _, .directory => isFalse nofun
  | .file left, .file right =>
    decidable_of_iff (left.data = right.data)
      ⟨fun h => congrArg Entry.file (ByteArray.ext h),
        fun h => congrArg ByteArray.data (Entry.file.inj h)⟩

/-- A place in a tree: the names on the way from the root. -/
abbrev Location := List String

/-- The entries of a file system. The root is always a directory. -/
structure FileTree where
  entries : List (Location × Entry) := []
  current : Location := []

/-- Why a path cannot be used. -/
inductive FileFault where
  | missing
  | alreadyExists
  | notDirectory
  | isDirectory
  | nameTooLong
  deriving DecidableEq, Repr

/-- The number and the wording of a fault. -/
def FileFault.message : FileFault → String
  | .missing => "[Errno 2] No such file or directory"
  | .alreadyExists => "[Errno 17] File exists"
  | .notDirectory => "[Errno 20] Not a directory"
  | .isDirectory => "[Errno 21] Is a directory"
  | .nameTooLong => "[Errno 36] File name too long"

/-- A fault with the path that has it. -/
structure FileError where
  fault : FileFault
  path : Path
  deriving DecidableEq, Repr

/-- The wording of an error. -/
def FileError.message (error : FileError) : String :=
  error.fault.message ++ ": " ++ showQuoted error.path.toString

/-- The longest name of a file, in bytes. -/
def nameLimit : Nat := 255

/-- The longest spelling of a path, in bytes. -/
def spellingLimit : Nat := 4095

namespace FileTree

/-- The entry at a location. -/
def entryAt? (tree : FileTree) (location : Location) : Option Entry :=
  if location.isEmpty then some .directory else tree.entries.lookup location

/-- Puts an entry at a location. -/
def put (tree : FileTree) (location : Location) (entry : Entry) : FileTree :=
  { tree with entries := (location, entry) :: tree.entries.filter (·.1 ≠ location) }

/-- The location that one part leads to. -/
def follow (location : Location) (part : String) : Location :=
  if part.isEmpty || part = "." then location
  else if part = ".." then location.dropLast
  else location ++ [part]

/-- Follows parts, each of which has to start in a directory. What the last one leads to
need not exist. -/
def walk (tree : FileTree) (location : Location) : List String → Except FileFault Location
  | [] => .ok location
  | part :: parts =>
    match tree.entryAt? location with
    | none => .error .missing
    | some (.file _) => .error .notDirectory
    | some .directory =>
      if nameLimit < part.utf8ByteSize then .error .nameTooLong
      else tree.walk (follow location part) parts

/-- The location that a spelling leads to. -/
def locate (tree : FileTree) (spelling : String) : Except FileFault Location :=
  if spelling.isEmpty then .error .missing
  else if spellingLimit < spelling.utf8ByteSize then .error .nameTooLong
  else
    tree.walk (if (Path.rootOf spelling.toList).isEmpty then tree.current else [])
      (Path.spelledParts spelling)

/-- The entry that a spelling leads to. -/
def find? (tree : FileTree) (spelling : String) : Option Entry :=
  match tree.locate spelling with
  | .error _ => none
  | .ok location => tree.entryAt? location

/-- Makes a directory, whose parent must exist. -/
def makeDirectory (tree : FileTree) (path : Path) : Except FileError FileTree :=
  match tree.locate path.toString with
  | .error fault => .error ⟨fault, path⟩
  | .ok location =>
    match tree.entryAt? location with
    | some _ => .error ⟨.alreadyExists, path⟩
    | none => .ok (tree.put location .directory)

/-- What an attempt leaves behind, and the error it ended with if it failed. -/
structure Attempt where
  tree : FileTree
  error : Option FileError

/-- Makes a directory unless it exists. -/
def makeDirectoryOnce (tree : FileTree) (path : Path) : Attempt :=
  match tree.makeDirectory path with
  | .ok made => ⟨made, none⟩
  | .error error =>
    match error.fault, tree.find? path.toString with
    | .missing, _ => ⟨tree, some error⟩
    | _, some .directory => ⟨tree, none⟩
    | _, _ => ⟨tree, some error⟩

/-- Makes a directory with its parents. No path has more parents than the given number. -/
def makeDirectoriesWithin (tree : FileTree) (path : Path) : Nat → Attempt
  | 0 => tree.makeDirectoryOnce path
  | depth + 1 =>
    let attempt := tree.makeDirectoryOnce path
    match attempt.error.map FileError.fault with
    | some .missing =>
      let above := tree.makeDirectoriesWithin path.parent depth
      if above.error.isSome then above else above.tree.makeDirectoryOnce path
    | _ => attempt

/-- Makes a directory with its parents, as far as they are missing. -/
def makeDirectories (tree : FileTree) (path : Path) : Attempt :=
  tree.makeDirectoriesWithin path path.parts.length

/-- Writes a file in place of any file of that name. -/
def writeFile (tree : FileTree) (path : Path) (bytes : ByteArray) : Attempt :=
  match tree.locate path.toString with
  | .error fault => ⟨tree, some ⟨fault, path⟩⟩
  | .ok location =>
    match tree.entryAt? location with
    | some .directory => ⟨tree, some ⟨.isDirectory, path⟩⟩
    | _ => ⟨tree.put location (.file bytes), none⟩

/-- Writes a file and makes the directories above it. -/
def store (tree : FileTree) (path : Path) (bytes : ByteArray) : Attempt :=
  let above := tree.makeDirectories path.parent
  if above.error.isSome then above else above.tree.writeFile path bytes

/-- The files that a tree has and another has not, or has with other bytes. -/
def newFiles (before after : FileTree) : List (Location × ByteArray) :=
  after.entries.filterMap fun (location, entry) =>
    match entry with
    | .directory => none
    | .file bytes =>
      if before.entryAt? location = some (.file bytes) then none else some (location, bytes)

/-- The directories that a tree has and another has not, each behind those above it. -/
def newDirectories (before after : FileTree) : List Location :=
  after.entries.reverse.filterMap fun (location, entry) =>
    match entry with
    | .file _ => none
    | .directory => if (before.entryAt? location).isSome then none else some location

end FileTree

end EnumBindings
