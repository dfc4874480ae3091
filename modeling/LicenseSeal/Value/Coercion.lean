import LicenseSeal.Fields
import LicenseSeal.Number.Integer
import LicenseSeal.Text.Quoted
import LicenseSeal.Value

/-!
# The text of a value

Signing and rendering see field values as text.  A text stands for itself, a truth value is `true`
or `false`, an absent value is empty, a number is written with the digits it needs, and a list or a
mapping is written with its brackets and its parts in quoted form.  An integer that is too long has
no text, and neither has an object whose code raises an exception instead.
-/

namespace LicenseSeal

/-- Why a value has no text. -/
inductive Uncoercible where
  | longInteger
  /-- An object of the caller raises an exception. -/
  | raised (exception : Raised)
  deriving DecidableEq, Repr

namespace Uncoercible

def name : Uncoercible → Text
  | .longInteger => "ValueError".text
  | .raised exception => exception.name

def message : Uncoercible → Text
  | .longInteger => Integer.tooLongToWriteMessage
  | .raised exception => exception.message

/-- Whether the value is to blame, as far as handlers can tell. -/
def isImproper : Uncoercible → Bool
  | .longInteger => true
  | .raised exception => exception.isImproper

end Uncoercible

/-- The digits of an integer, unless they are too many. -/
def Integer.written (number : Int) : Except Uncoercible Text :=
  if Integer.isTooLong number then .error .longInteger else .ok (Text.ofInt number)

/-- A scalar inside a list or a mapping. -/
def Scalar.nestedText : Scalar → Except Uncoercible Text
  | .null => .ok "None".text
  | .bool true => .ok "True".text
  | .bool false => .ok "False".text
  | .int number => Integer.written number
  | .float number => .ok number.text
  | .decimal number => .ok ("Decimal(".text ++ Text.quoted number.text ++ ")".text)
  | .text content => .ok (Text.quoted content)
  | .bytes content => .ok (Text.quotedBytes content)
  | .instant written => .ok written
  | .object _ _ nested => nested.mapError .raised

mutual

/-- A value inside a list or a mapping. -/
def Value.nestedText : Value → Except Uncoercible Text
  | .scalar content => content.nestedText
  | .list items => do
      let written ← nestedItems items
      pure ("[".text ++ Text.join ", ".text written ++ "]".text)
  | .map entries => do
      let written ← nestedEntries entries
      pure ("\x7b".text ++ Text.join ", ".text written ++ "\x7d".text)

/-- The items of a list, each in quoted form. -/
def Value.nestedItems : List Value → Except Uncoercible (List Text)
  | [] => .ok []
  | item :: items => do
      let written ← item.nestedText
      let others ← nestedItems items
      pure (written :: others)

/-- The entries of a mapping, each as key and value. -/
def Value.nestedEntries : List (Scalar × Value) → Except Uncoercible (List Text)
  | [] => .ok []
  | (key, value) :: entries => do
      let name ← key.nestedText
      let written ← value.nestedText
      let others ← nestedEntries entries
      pure ((name ++ ": ".text ++ written) :: others)

end

/-- The text of a scalar by itself, where it is not the one inside a list or a mapping. -/
def Scalar.ownText : Scalar → Except Uncoercible Text
  | .text content => .ok content
  | .decimal number => .ok number.text
  | .object _ own _ => own.mapError .raised
  | content => content.nestedText

/-- The text of a value by itself. -/
def Value.ownText : Value → Except Uncoercible Text
  | .scalar content => content.ownText
  | value => value.nestedText

/-- The text that a field value contributes to a document and to what is signed. -/
def Value.coerced : Value → Except Uncoercible Text
  | .scalar (.bool true) => .ok "true".text
  | .scalar (.bool false) => .ok "false".text
  | .scalar .null => .ok []
  | value => value.ownText

/-- The entries of a mapping with every value coerced, keys and order kept. -/
def coerceEntries {κ : Type} : List (κ × Value) → Except Uncoercible (List (κ × Text))
  | [] => .ok []
  | (key, value) :: entries => do
      let text ← value.coerced
      let others ← coerceEntries entries
      pure ((key, text) :: others)

/-- Fields with every value coerced. -/
def Fields.coerced (fields : Fields Value) : Except Uncoercible (Fields Text) :=
  (coerceEntries fields.entries).map Fields.ofList

end LicenseSeal
