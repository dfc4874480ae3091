import LicenseSeal.CommandLine.Places
import LicenseSeal.CommandLine.Run

/-!
# The program

Loads what a command line can look at, runs it, and puts the files that it has changed in their
place.
-/

namespace LicenseSeal.Program

open LicenseSeal.CommandLine

private def locationText (location : Location) : String :=
  Text.str (Path.absoluteText location)

/-- What is at a location, if anything can be found there. -/
private def entryAt (location : Location) : IO (Option Entry) := do
  try
    let content ← IO.FS.readBinFile (locationText location)
    return some (.file content.toList)
  catch
    | .noFileOrDirectory .. => return none
    | .inappropriateType .. => return some .directory
    | _ => return none

private def load (files : FileSystem) (locations : List Location) : IO FileSystem := do
  let mut files := files
  for location in locations do
    if (files.entryAt? location).isNone then
      if let some entry ← entryAt location then
        files := files.put location entry
  return files

/-- Puts a file in its place as a whole. -/
private def store (location : Location) (content : Bytes) : IO Unit := do
  let target := locationText location
  let temporary := target ++ ".tmp"
  IO.FS.createDirAll (locationText location.dropLast)
  IO.FS.writeBinFile temporary ⟨content.toArray⟩
  IO.FS.rename temporary target

/-- Prints what a run leaves. -/
private def printReport (report : Report) : IO Unit := do
  IO.print (Text.str report.printed)
  IO.eprint (Text.str report.logged)
  match report.ending with
  | .exit _ => pure ()
  | .misuse => IO.eprintln "ERROR: the command line is not understood"
  | .failure failure => IO.eprintln (Text.str (Run.described failure))

/-- Runs a command line and gives its exit code. -/
def execute (arguments : List String) : IO UInt32 := do
  let words := arguments.map String.text
  let environment := (← IO.getEnv "LICENSEFILE_CONFIG").map String.text
  let current := (Path.ofText (toString (← IO.currentDir)).text).parts
  let paths := namedPaths words ++ environmentPath environment
  let some empty := FileSystem.empty? current
    | throw (IO.userError "the current directory has no proper name")
  let start ← load empty (Path.passed [] ⟨['/'], current⟩)
  let named ← load start (locationsOf current paths)
  let before ← load named (locationsOf current (paths.filterMap (templatePath? named)))
  let report := run environment before words
  for (location, content) in changedFiles before report.files do
    store location content
  printReport report
  return UInt32.ofNat report.exitCode

end LicenseSeal.Program

/-- Runs the program. -/
def main (arguments : List String) : IO UInt32 :=
  LicenseSeal.Program.execute arguments
