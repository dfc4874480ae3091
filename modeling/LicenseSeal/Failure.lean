import LicenseSeal.Config.Load
import LicenseSeal.License.DataFile
import LicenseSeal.License.Error
import LicenseSeal.Signing.Payload
import LicenseSeal.Signing.Serial

/-!
# Failures

Everything that keeps an operation from its result: an error of licensing, a file, configuration or
data file that cannot be used, a key that is too small, a value without a text, a text without
bytes, or an exception of foreign code.
-/

namespace LicenseSeal

/-- Why an operation fails. -/
inductive Failure where
  | license (error : LicenseError)
  | textFile (error : TextFileError)
  | config (error : ConfigError)
  | data (error : DataError)
  | serial (error : SerialError)
  | uncoercible (error : Uncoercible)
  /-- A text that is signed, a key or a password holds a surrogate. -/
  | unencodable (error : Encoding.EncodeError)
  /-- What the code of a caller raises is passed on. -/
  | raised (exception : Raised)

namespace Failure

/-- The failure of data without a payload. -/
def ofPayload : PayloadError → Failure
  | .uncoercible error => .uncoercible error
  | .unencodable error => .unencodable error

/-- The name that a failure is reported under. -/
def name : Failure → Text
  | .license error => error.name
  | .textFile error => error.name
  | .config error => error.name
  | .data error => error.name
  | .serial _ => "ValueError".text
  | .uncoercible error => error.name
  | .unencodable _ => "UnicodeEncodeError".text
  | .raised exception => exception.name

def message : Failure → Text
  | .license error => error.message
  | .textFile error => error.message
  | .config error => error.message
  | .data error => error.message
  | .serial error => error.message
  | .uncoercible error => error.message
  | .unencodable error => error.message.text
  | .raised exception => exception.message

/-- Whether the system refused an operation on files. -/
def isRefusal : Failure → Bool
  | .license _ => false
  | .textFile error | .config (.textFile error) | .data (.textFile error) => error.isRefusal
  | .config _ | .data _ | .serial _ | .uncoercible _ | .unencodable _ | .raised _ => false

/-- Whether a file, a text or a name that was given has an improper content. -/
def isImproper : Failure → Bool
  | .license _ => false
  | .textFile error | .data (.textFile error) => error.isImproper
  | .config error => error.isImproper
  | .data _ | .serial _ | .unencodable _ => true
  | .uncoercible error => error.isImproper
  | .raised exception => exception.isImproper

end Failure

end LicenseSeal
