import LicenseSeal.FileSystem

/-!
# Writing files

A file is written to a temporary file beside it, which then takes its place.  The directories above
it are created first and stay, whatever happens later.
-/

namespace LicenseSeal.FileSystem

/-- An operation that changes files and can fail; the changes made before a failure stay. -/
abbrev Action (ε α : Type) := ExceptT ε (StateM FileSystem) α

def refuse {α : Type} (problem : FileProblem) (path : Path) : Action FileError α :=
  throw (.refused problem path.text none)

/-- Creates one directory. -/
def create (path : Path) : StateM FileSystem (Except FileProblem Unit) := do
  let files ← get
  match files.locate path with
  | .error problem => pure (.error problem)
  | .ok location =>
      if (files.entryAt? location).isSome then pure (.error .present)
      else if files.faults.contains .directory then pure (.error .inputOutput)
      else
        set (files.put location .directory)
        pure (.ok ())

/-- Accepts a failure to create a directory if it is there. -/
def unlessDirectory (problem : FileProblem) (path : Path) : Action FileError Unit := do
  let files ← get
  if files.isDirectory path then pure () else refuse problem path

/-- Creates the directory of some names, and those above it, unless they are there. -/
def createNamed (root : Text) (parts : List Text) : Action FileError Unit := do
  let path : Path := ⟨root, parts⟩
  match ← create path with
  | .ok _ => pure ()
  | .error .missing =>
      if _more : parts = [] then refuse .missing path
      else
        createNamed root parts.dropLast
        match ← create path with
        | .ok _ => pure ()
        | .error .missing => refuse .missing path
        | .error problem => unlessDirectory problem path
  | .error problem => unlessDirectory problem path
termination_by parts.length
decreasing_by
  have := List.length_pos_iff.mpr _more
  simp only [List.length_dropLast]
  omega

/-- Creates the directory of a path, and those above it, unless they are there. -/
def createAll (path : Path) : Action FileError Unit :=
  match path.fault? with
  | some fault => throw (.unusable fault)
  | none => createNamed path.root path.parts

/-- The name of a temporary file for a file of a name: the name, a number of letters that nothing
else tells apart, and an ending. -/
def temporaryName (name : Text) (count : Nat) : Text :=
  name ++ ".".text ++ List.replicate (8 + count) ('X' : CodePoint) ++ ".tmp".text

/-- A location beside others that nothing is at, for a temporary file for a file of a name. -/
def freshLocation (files : FileSystem) (directory : Location) (name : Text) : Location :=
  let candidate (count : Nat) : Location := directory ++ [temporaryName name count]
  let isFree (count : Nat) : Bool := (files.entryAt? (candidate count)).isNone
  candidate (((List.range (files.entries.length + 1)).find? isFree).getD 0)

def atStep (step : WriteStep) (failure : FileError) : Action FileError Unit := do
  let files ← get
  if files.faults.contains step then throw failure else pure ()

/-- Creates an empty temporary file beside the one of a path. -/
def createTemporary (path : Path) : Action FileError Location := do
  let files ← get
  let location := files.freshLocation (path.parent.absolute files.current) path.name
  if let some fault := PathFault.ofText? (Path.absoluteText location) then
    throw (.unusable fault)
  let failure (problem : FileProblem) : FileError :=
    .refused problem (Path.absoluteText location) none
  if nameLimit < (Encoding.Utf8.systemBytes (location.getLast?.getD [])).length then
    throw (failure .nameTooLong)
  atStep .create (failure .inputOutput)
  set (files.put location (.file []))
  pure location

/-- Writes the content of a temporary file; if that fails, a part of it may be there. -/
def fill (location : Location) (content : Bytes) : Action FileError Unit := do
  let files ← get
  if files.faults.contains .fill then
    set (files.put location (.file (content.take files.written)))
    throw (.refused .inputOutput (Path.absoluteText location) none)
  else set (files.put location (.file content))

/-- What keeps a file from being put at a path. -/
def obstacle? (files : FileSystem) (path : Path) : Except FileProblem Location :=
  if path.name.isEmpty || path.name = Path.upward then .error .busy
  else
    match files.locate path with
    | .error problem => .error problem
    | .ok location =>
        if files.entryAt? location = some .directory then .error .isDirectory
        else if files.faults.contains .replace then .error .inputOutput
        else .ok location

/-- Puts a temporary file in the place of the file of a path; if that fails, the temporary file is
removed. -/
def replaceWith (temporary : Location) (path : Path) : Action FileError Unit := do
  let files ← get
  match obstacle? files path, files.entryAt? temporary with
  | .ok location, some entry => set ((files.remove temporary).put location entry)
  | .error problem, _ =>
      set (files.remove temporary)
      throw (.refused problem (Path.absoluteText temporary) (some path.text))
  | .ok _, none => throw (.refused .missing (Path.absoluteText temporary) (some path.text))

/-- Writes a file as a whole. -/
def writeWhole (path : Path) (content : Bytes) : Action FileError Unit := do
  let temporary ← createTemporary path
  fill temporary content
  replaceWith temporary path

end LicenseSeal.FileSystem
