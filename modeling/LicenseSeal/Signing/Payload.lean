import LicenseSeal.Encoding.Utf8
import LicenseSeal.Fields
import LicenseSeal.Json.Writer

/-!
# Signed payload

What is signed is either one plain text or a list of named texts.  Fields count as one plain text
if the only one, the serial aside, is the raw field; otherwise they are signed as compact JSON in
their order.
-/

namespace LicenseSeal

/-- The names that have a meaning of their own: the field of the signature and the field whose text
is signed as it is. -/
structure FieldNames where
  serial : Text := "serial".text
  raw : Text := "string".text
  deriving DecidableEq, Repr

/-- What is licensed: a text or named values. -/
inductive LicenseData where
  | text (content : Text)
  | fields (values : Fields Value)

/-- What is signed. -/
inductive Signed where
  /-- A text as it is. -/
  | raw (text : Text)
  /-- Named texts in order. -/
  | structured (entries : List (Text × Text))
  deriving DecidableEq, Repr

/-- Whether the names of some fields are those of a plain text: the raw field alone. -/
def isRaw {κ : Type} [DecidableEq κ] (raw : κ) (names : List κ) : Bool :=
  names = [raw]

namespace Signed

/-- What is signed for fields, the serial left out. -/
def ofFields (names : FieldNames) (fields : Fields Text) : Signed :=
  let kept := fields.erase names.serial
  if isRaw names.raw kept.names then .raw ((kept.get? names.raw).getD [])
  else .structured kept.entries

/-- What is signed for entries whose keys need not be texts. -/
def ofEntries (names : FieldNames) (entries : List (Scalar × Value)) :
    Except Json.WriteError Signed :=
  let kept := entries.filter fun entry => entry.1 ≠ .text names.serial
  match coerceEntries kept with
  | .error error => .error (.uncoercible error)
  | .ok [(key, text)] =>
      if key = .text names.raw then .ok (.raw text) else named [(key, text)]
  | .ok coerced => named coerced
where
  named (entries : List (Scalar × Text)) : Except Json.WriteError Signed :=
    (entries.mapM fun entry => (Json.memberName entry.1).map fun name => (name, entry.2)).map
      Signed.structured

def text : Signed → Text
  | .raw text => text
  | .structured entries =>
      Json.object (entries.map fun entry => (entry.1, Json.string entry.2))

def bytes (signed : Signed) : Except Encoding.EncodeError Bytes :=
  Encoding.Utf8.encode signed.text

end Signed

/-- Why nothing is signed for data. -/
inductive PayloadError where
  | uncoercible (error : Uncoercible)
  /-- A text holds a surrogate. -/
  | unencodable (error : Encoding.EncodeError)
  deriving DecidableEq, Repr

namespace PayloadError

/-- The name that data without a payload is reported under. -/
def name : PayloadError → Text
  | .uncoercible error => error.name
  | .unencodable _ => "UnicodeEncodeError".text

def message : PayloadError → Text
  | .uncoercible error => error.message
  | .unencodable error => error.message.text

end PayloadError

namespace LicenseData

/-- What is signed for data, if its values have texts; that of the serial's name need not. -/
def signed (names : FieldNames) : LicenseData → Except Uncoercible Signed
  | .text content => .ok (.raw content)
  | .fields values => (values.erase names.serial).coerced.map (Signed.ofFields names)

def payload (names : FieldNames) (data : LicenseData) : Except PayloadError Bytes := do
  let signed ← (data.signed names).mapError .uncoercible
  signed.bytes.mapError .unencodable

end LicenseData

end LicenseSeal
