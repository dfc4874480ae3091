import LicenseSeal.Encoding.Utf8
import LicenseSeal.Text.Quoted

/-!
# Paths

A path is a sequence of names below a starting point: the current directory, or the root.  Empty
names and the name of the same directory are dropped when a path is read, the name of the parent
directory is kept.
-/

namespace LicenseSeal

/-- A path: the slashes that it starts with, if it starts at the root, and its names. -/
structure Path where
  root : Text
  parts : List Text
  deriving DecidableEq, Repr

namespace Path

/-- The name of the parent directory. -/
def upward : Text := ['.', '.']

/-- The slashes at the front of a path: exactly two are kept, any other number is one. -/
private def rootOf (text : Text) : Text :=
  let slashes := text.takeWhile fun (c : CodePoint) => c = '/'
  if slashes.length ≤ 2 then slashes else ['/']

/-- Reads a path. -/
def ofText (text : Text) : Path :=
  ⟨rootOf text, (Text.splitAt '/' text).filter fun part => !part.isEmpty && part ≠ ".".text⟩

def text (path : Path) : Text :=
  if path.root.isEmpty && path.parts.isEmpty then ['.']
  else path.root ++ Text.join ['/'] path.parts

/-- The path without its last name. -/
def parent (path : Path) : Path :=
  ⟨path.root, path.parts.dropLast⟩

/-- The last name, empty if there is none. -/
def name (path : Path) : Text :=
  path.parts.getLast?.getD []

/-- A path that continues another one, unless it starts at the root itself. -/
def join (base path : Path) : Path :=
  if path.root.isEmpty then ⟨base.root, base.parts ++ path.parts⟩ else path

/-- Adds one name to names from the root; the parent's name takes one away. -/
def descend (names : List Text) (part : Text) : List Text :=
  if part = upward then names.dropLast else names ++ [part]

/-- The names from the root of a path that starts at `current`, as the names alone say. -/
def absolute (current : List Text) (path : Path) : List Text :=
  path.parts.foldl descend (if path.root.isEmpty then current else [])

/-- The text of names from the root. -/
def absoluteText (names : List Text) : Text :=
  text ⟨['/'], names⟩

end Path

/-- Why the system cannot take a path at all. -/
inductive PathFault where
  /-- It holds a surrogate that stands for no byte. -/
  | unencodable (error : Encoding.EncodeError)
  | nullCharacter
  deriving DecidableEq, Repr

namespace PathFault

/-- The name that a path which cannot be taken is reported under. -/
def name : PathFault → Text
  | .unencodable _ => "UnicodeEncodeError".text
  | .nullCharacter => "ValueError".text

def message : PathFault → Text
  | .unencodable error => error.message.text
  | .nullCharacter => "embedded null byte".text

/-- What is wrong with a text that is handed to the system as a path. -/
def ofText? (text : Text) : Option PathFault :=
  match Encoding.Utf8.systemError? 0 text with
  | some error => some (.unencodable error)
  | none => if text.contains (CodePoint.ofNat 0) then some .nullCharacter else none

end PathFault

namespace Path

def fault? (path : Path) : Option PathFault :=
  PathFault.ofText? path.text

/-- What is wrong with a path that is handed to the system name by name, as it is resolved: the
first fault counts, with the names in front of it. -/
def resolvingFault? (path : Path) : Option PathFault :=
  go [] path.parts
where
  go (before : List Text) : List Text → Option PathFault
    | [] => none
    | part :: rest =>
        match PathFault.ofText? (text ⟨path.root, before ++ [part]⟩) with
        | some fault => some fault
        | none => go (climb before part) rest
  /-- The names of a path that a name continues; the parent's name takes one away, if there is one
  that is not the parent's name itself. -/
  climb (before : List Text) (part : Text) : List Text :=
    if part ≠ upward then before ++ [part]
    else if before = [] && !path.root.isEmpty then []
    else if before = [] || before.getLast? = some upward then before ++ [part]
    else before.dropLast

end Path

/-- Why the system refuses an operation on a path. -/
inductive FileProblem where
  | missing
  | inputOutput
  | busy
  | present
  | notDirectory
  | isDirectory
  | nameTooLong
  deriving DecidableEq, Repr

/-- A failed operation on files. -/
inductive FileError where
  /-- The system refuses an operation on a path, or on a path and a second one. -/
  | refused (problem : FileProblem) (path : Text) (target : Option Text)
  /-- The system cannot take the path at all. -/
  | unusable (fault : PathFault)
  deriving DecidableEq, Repr

namespace FileProblem

/-- The number of a problem and its description. -/
def report : FileProblem → Nat × String
  | .missing => (2, "No such file or directory")
  | .inputOutput => (5, "Input/output error")
  | .busy => (16, "Device or resource busy")
  | .present => (17, "File exists")
  | .notDirectory => (20, "Not a directory")
  | .isDirectory => (21, "Is a directory")
  | .nameTooLong => (36, "File name too long")

/-- The name that a problem is reported under. -/
def name : FileProblem → Text
  | .missing => "FileNotFoundError".text
  | .present => "FileExistsError".text
  | .notDirectory => "NotADirectoryError".text
  | .isDirectory => "IsADirectoryError".text
  | .inputOutput | .busy | .nameTooLong => "OSError".text

end FileProblem

namespace FileError

/-- The name that a failed operation is reported under. -/
def name : FileError → Text
  | .refused problem _ _ => problem.name
  | .unusable fault => fault.name

/-- The message of a failed operation. -/
def message : FileError → Text
  | .unusable fault => fault.message
  | .refused problem path target =>
      let (number, description) := problem.report
      let shown :=
        match target with
        | none => Text.quoted path
        | some target => Text.quoted path ++ " -> ".text ++ Text.quoted target
      "[Errno ".text ++ Text.ofNat number ++ "] ".text ++ description.text ++ ": ".text
        ++ shown

/-- Whether the system refused the operation. -/
def isRefusal : FileError → Bool
  | .refused _ _ _ => true
  | .unusable _ => false

end FileError

end LicenseSeal
