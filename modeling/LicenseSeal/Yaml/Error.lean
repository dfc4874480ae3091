import LicenseSeal.Number.Integer
import LicenseSeal.Text.Quoted

/-!
# What can be wrong with a YAML text

A text that is not one YAML document is malformed, whatever the reason.  Faults inside a well-formed
document, in the value that a scalar writes, are told apart.
-/

namespace LicenseSeal.Yaml

/-- Why a date or a time has no value. -/
inductive TimestampFault where
  /-- The scalar does not have the form of a date. -/
  | noDate
  /-- What should be a date is no scalar. -/
  | notScalar
  | year
  | month
  | day
  | hour
  | minute
  | second
  /-- The distance from universal time, in seconds, is a day or more. -/
  | zone (seconds : Int)
  deriving DecidableEq, Repr

/-- Why a text gives no value. -/
inductive ReadError where
  /-- The text is not one YAML document, or has a node that no value is made of. -/
  | malformed
  /-- An escape has a code that is no code point's. -/
  | badCode (code : Nat)
  /-- What should be a truth value is another word, here in lower case. -/
  | notTruth (word : Text)
  /-- What should be a number has no digits at all. -/
  | noNumber
  | badInteger (base : Nat) (written : Text)
  /-- An integer has more digits than are converted. -/
  | tooManyDigits (count : Nat)
  | badFloat (written : Text)
  | badTimestamp (fault : TimestampFault)
  deriving DecidableEq, Repr

/-- The largest code that is looked up at all. -/
def codeLimit : Nat := 0x7FFFFFFF

namespace TimestampFault

/-- The name that a fault is reported under. -/
def name : TimestampFault → Text
  | .noDate => "AttributeError".text
  | .notScalar => "TypeError".text
  | _ => "ValueError".text

/-- A distance in time, in whole days and the seconds that are left. -/
private def durationText (seconds : Int) : Text :=
  let days := Int.fdiv seconds 86400
  let rest := Int.fmod seconds 86400
  let daysText := "days=".text ++ Text.ofInt days
  let restText := if rest = 0 then [] else ", seconds=".text ++ Text.ofInt rest
  "datetime.timedelta(".text ++ daysText ++ restText ++ ")".text

def message : TimestampFault → Text
  | .noDate => "'NoneType' object has no attribute 'groupdict'".text
  | .notScalar => "expected string or bytes-like object, got 'list'".text
  | .year => "year 0 is out of range".text
  | .month => "month must be in 1..12".text
  | .day => "day is out of range for month".text
  | .hour => "hour must be in 0..23".text
  | .minute => "minute must be in 0..59".text
  | .second => "second must be in 0..59".text
  | .zone seconds =>
      ("offset must be a timedelta strictly between -timedelta(hours=24) and "
        ++ "timedelta(hours=24), not ").text ++ durationText seconds ++ ".".text

end TimestampFault

namespace ReadError

/-- The name that an error is reported under. -/
def name : ReadError → Text
  | .badCode code => if code ≤ codeLimit then "ValueError".text else "OverflowError".text
  | .notTruth _ => "KeyError".text
  | .noNumber => "IndexError".text
  | .badTimestamp fault => fault.name
  | .malformed | .badInteger _ _ | .tooManyDigits _ | .badFloat _ => "ValueError".text

def message : ReadError → Text
  | .malformed => "Invalid YAML".text
  | .badCode code =>
      if code ≤ codeLimit then "chr() arg not in range(0x110000)".text
      else "Python int too large to convert to C int".text
  | .notTruth word => Text.quoted word
  | .noNumber => "string index out of range".text
  | .badInteger base written =>
      "invalid literal for int() with base ".text ++ Text.ofNat base ++ ": ".text
        ++ (Text.quoted written).take 200
  | .tooManyDigits count => Integer.tooLongMessage count
  | .badFloat written => "could not convert string to float: ".text ++ Text.quoted written
  | .badTimestamp fault => fault.message

/-- Whether the content of the text is to blame, and not what it is used for. -/
def isImproper (error : ReadError) : Bool :=
  error.name = "ValueError".text

end ReadError

/-- A value that has to be there in a well-formed document. -/
def needed {α : Type} (found : Option α) : Except ReadError α :=
  match found with
  | some value => .ok value
  | none => .error .malformed

end LicenseSeal.Yaml
