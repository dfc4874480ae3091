import LicenseSeal.FileSystem.TextFile
import LicenseSeal.License.Traced
import LicenseSeal.Text.Styling

/-!
# Sessions

What a command sees and leaves: the files, what it prints and what it logs.  A command can end
early, with an exit code or because of a failure that it does not handle; whatever it did before
stays.
-/

namespace LicenseSeal.CommandLine

/-- The files, and what has been printed and logged. -/
structure Session where
  files : FileSystem
  printed : Text
  records : List LogRecord

/-- How a command ends. -/
inductive Ending where
  | exit (code : Nat)
  /-- The command line is no proper use of the program. -/
  | misuse
  /-- The command fails in a way that it does not handle. -/
  | failure (failure : Failure)

/-- A step of a command. -/
abbrev Run (α : Type) := ExceptT Ending (StateM Session) α

namespace Run

/-- The exit code of a failed command. -/
def errorCode : Nat := 1

/-- Prints a text without its styling sequences, unless the system does not take it. -/
def print (text : Text) : Run Unit :=
  let plain := text.withoutStyling
  match Encoding.Utf8.systemError? 0 plain with
  | some error => throw (.failure (.unencodable error))
  | none => modify fun session => { session with printed := session.printed ++ plain }

def printLine (text : Text) : Run Unit :=
  print (text ++ "\n".text)

/-- Prints an error and ends the command. -/
def stop {α : Type} (code : Nat) (message : Text) : Run α := do
  printLine ("ERROR: ".text ++ message)
  throw (.exit code)

/-- The files as they are. -/
def files : Run FileSystem := do
  let session ← get
  pure session.files

/-- Runs a traced operation and logs its events. -/
def traced {α : Type} (operation : Traced α) : Run (Except Failure α) := do
  modify fun session =>
    { session with records := session.records ++ operation.events.map Event.record }
  pure operation.outcome

/-- Runs an action on the files. -/
def action {α : Type} (change : FileSystem.Action TextFileError α) :
    Run (Except TextFileError α) := do
  let session ← get
  let (outcome, files) := change.run.run session.files
  set { session with files }
  pure outcome

/-- A line that names a failure and describes it. -/
def described (failure : Failure) : Text :=
  failure.name ++ ": ".text ++ failure.message

/-- Whether a failure of licensing or of what was given is reported as an error. -/
def isReported : Failure → Bool
  | .license error =>
      match error.family with
      | .input | .contract | .key | .template => true
      | .general | .corrupted => false
  | failure => failure.isImproper

/-- The result of an operation; a failure is reported if it can be, and ends the command. -/
def reported {α : Type} (outcome : Except Failure α) : Run α :=
  match outcome with
  | .ok result => pure result
  | .error failure =>
      if isReported failure then stop errorCode (described failure)
      else throw (.failure failure)

/-- Writes to a file; if the system refuses it, the command ends with an error of this front. -/
def written (front : String) (change : FileSystem.Action TextFileError Unit) : Run Unit := do
  match ← action change with
  | .ok () => pure ()
  | .error error =>
      if error.isRefusal then stop errorCode (front.text ++ ": ".text ++ error.message)
      else throw (.failure (.textFile error))

end Run

end LicenseSeal.CommandLine
