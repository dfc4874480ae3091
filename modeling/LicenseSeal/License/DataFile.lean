import LicenseSeal.FileSystem.TextFile
import LicenseSeal.Json.Reader
import LicenseSeal.Value.Reading

/-!
# Data files

The fields of a license can be given as a JSON object in a file.
-/

namespace LicenseSeal

/-- Why a file gives no fields. -/
inductive DataError where
  /-- The file is no JSON. -/
  | malformed (path : Path)
  | tooManyDigits (count : Nat)
  /-- The file holds another JSON value than an object. -/
  | notObject
  /-- The file cannot be read as a text. -/
  | textFile (error : TextFileError)

namespace DataError

/-- The name that an error is reported under. -/
def name : DataError → Text
  | .textFile error => error.name
  | _ => "ValueError".text

def message : DataError → Text
  | .malformed path => "Invalid data JSON: ".text ++ path.text
  | .tooManyDigits count => Integer.tooLongMessage count
  | .notObject => "Data JSON must be an object".text
  | .textFile error => error.message

end DataError

/-- Loads the fields of a data file. -/
def loadData (files : FileSystem) (path : Path) : Except DataError (Fields Value) :=
  match files.readLines path with
  | .error error => .error (.textFile error)
  | .ok text =>
      match Json.read text with
      | .error .malformed => .error (.malformed path)
      | .error (.tooManyDigits count) => .error (.tooManyDigits count)
      | .ok value =>
          match value.asFields? with
          | some fields => .ok fields
          | none => .error .notObject

end LicenseSeal
