import LicenseSeal.Encoding.Codecs
import LicenseSeal.FileSystem.Path

/-!
# File system

Files and directories by their names from the root, and a current directory.  A path is followed
name by name, and every name on the way has to be a directory.
-/

namespace LicenseSeal

/-- The names that lead from the root to a file or directory. -/
abbrev Location := List Text

/-- What is at a location. -/
inductive Entry where
  | file (content : Bytes)
  | directory
  deriving DecidableEq, Repr

/-- A step of writing a file at which the system can fail. -/
inductive WriteStep where
  | directory
  | create
  | fill
  | replace
  deriving DecidableEq, Repr

theorem PathFault.ofText?_root : ∀ name ∈ ([] : Location), PathFault.ofText? name = none :=
  List.forall_mem_nil _

/-- Files and directories. -/
structure FileSystem where
  /-- The current directory. -/
  current : Location
  entries : List (Location × Entry)
  /-- The steps of writing at which the system fails. -/
  faults : List WriteStep := []
  /-- How many bytes of a content are written before that fails. -/
  written : Nat := 0
  codecs : Encoding.Codecs := .ascii
  /-- The system itself names the current directory. -/
  usable : ∀ name ∈ current, PathFault.ofText? name = none := by
    exact PathFault.ofText?_root

namespace FileSystem

/-- The files of a current directory before any is found, if its names can be used. -/
def empty? (current : Location) : Option FileSystem :=
  if usable : ∀ name ∈ current, PathFault.ofText? name = none then
    some { current, entries := [], usable }
  else none

/-- The entry at a location among entries. -/
def find? (location : Location) : List (Location × Entry) → Option Entry
  | [] => none
  | (first, entry) :: rest => if first = location then some entry else find? location rest

/-- What is at a location; the root is always a directory. -/
def entryAt? (files : FileSystem) (location : Location) : Option Entry :=
  if location.isEmpty then some .directory else find? location files.entries

/-- Puts an entry among entries, in place of the one at its location. -/
def putEntry (location : Location) (entry : Entry) :
    List (Location × Entry) → List (Location × Entry)
  | [] => [(location, entry)]
  | (first, old) :: rest =>
      if first = location then (location, entry) :: rest
      else (first, old) :: putEntry location entry rest

def put (files : FileSystem) (location : Location) (entry : Entry) : FileSystem :=
  { files with entries := putEntry location entry files.entries }

/-- The files without the entry at a location. -/
def remove (files : FileSystem) (location : Location) : FileSystem :=
  { files with entries := files.entries.filter fun entry => entry.1 ≠ location }

/-- The most bytes that one name can have. -/
def nameLimit : Nat := 255

/-- The most bytes that a path can have. -/
def pathLimit : Nat := 4095

/-- Follows one name from a location. -/
def step (files : FileSystem) (location : Location) (part : Text) :
    Except FileProblem Location :=
  match files.entryAt? location with
  | none => .error .missing
  | some (.file _) => .error .notDirectory
  | some .directory =>
      if nameLimit < (Encoding.Utf8.systemBytes part).length then .error .nameTooLong
      else .ok (Path.descend location part)

/-- The location that a path leads to; nothing need be there. -/
def locate (files : FileSystem) (path : Path) : Except FileProblem Location :=
  if pathLimit < (Encoding.Utf8.systemBytes path.text).length then .error .nameTooLong
  else path.parts.foldlM files.step (if path.root.isEmpty then files.current else [])

/-- What a path leads to. -/
def lookUp (files : FileSystem) (path : Path) : Except FileProblem Entry :=
  match files.locate path with
  | .error problem => .error problem
  | .ok location =>
      match files.entryAt? location with
      | none => .error .missing
      | some entry => .ok entry

/-- Whether a path leads to anything. -/
def pathExists (files : FileSystem) (path : Path) : Bool :=
  path.fault?.isNone && (files.lookUp path).isOk

/-- Whether anything is at a path, unless the path cannot be followed at all. -/
def pathTaken (files : FileSystem) (path : Path) : Except FileError Bool :=
  if path.fault?.isSome then .ok false
  else
    match files.lookUp path with
    | .ok _ => .ok true
    | .error .nameTooLong => .error (.refused .nameTooLong path.text none)
    | .error _ => .ok false

/-- Whether a path leads to a directory. -/
def isDirectory (files : FileSystem) (path : Path) : Bool :=
  path.fault?.isNone && (files.lookUp path).toOption = some .directory

/-- Whether a path leads to a file. -/
def isFile (files : FileSystem) (path : Path) : Bool :=
  files.pathExists path && !files.isDirectory path

/-- The content of the file that a path leads to. -/
def read (files : FileSystem) (path : Path) : Except FileError Bytes :=
  match path.fault? with
  | some fault => .error (.unusable fault)
  | none =>
    match files.lookUp path with
    | .error problem => .error (.refused problem path.text none)
    | .ok .directory => .error (.refused .isDirectory path.text none)
    | .ok (.file content) => .ok content

end FileSystem

end LicenseSeal
