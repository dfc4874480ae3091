import LicenseSeal.Encoding.Utf8
import LicenseSeal.Fields
import LicenseSeal.Value

/-!
# Reading values

Values given by a caller or a configuration file are read as texts or as named fields.  Bytes are
accepted for a text if they are UTF-8.
-/

namespace LicenseSeal

/-- Why a value is not a text. -/
inductive TextFault where
  | notText
  | notUtf8
  deriving DecidableEq, Repr

/-- The description of a value that is not a text. -/
def TextFault.message : TextFault → Text
  | .notText => "Input should be a valid string".text
  | .notUtf8 =>
      "Input should be a valid string, unable to parse raw data as a unicode string".text

namespace Value

def asText : Value → Except TextFault Text
  | .scalar (.text content) => .ok content
  | .scalar (.bytes content) =>
      match Encoding.Utf8.decode? content with
      | some text => .ok text
      | none => .error .notUtf8
  | _ => .error .notText

/-- Entries with every key read as a text. -/
def namedEntries? : List (Scalar × Value) → Option (List (Text × Value))
  | [] => some []
  | (key, value) :: rest =>
      match (Value.scalar key).asText, namedEntries? rest with
      | .ok name, some others => some ((name, value) :: others)
      | _, _ => none

/-- A mapping as fields: keys that are read as the same text give one field. -/
def asFields? : Value → Option (Fields Value)
  | .map entries => (namedEntries? entries).map Fields.ofList
  | _ => none

end Value

end LicenseSeal
