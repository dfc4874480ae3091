import LicenseSeal.Signing.Payload
import LicenseSeal.Template.Placeholder
import LicenseSeal.Value.Reading

/-!
# Configuration

The settings that generating and parsing share: the template used when none is given, the two
special field names, and the encoding of files.  `Config.ofValue` reads a configuration and reports
everything that is wrong with it.
-/

namespace LicenseSeal

/-- The settings of generating and parsing. -/
structure Config where
  defaultTemplate : Text
  names : FieldNames := {}
  encoding : Text := "utf-8".text
  deriving DecidableEq, Repr

namespace Config

/-- A setting. -/
inductive Setting where
  | defaultTemplate
  | serialField
  | rawField
  | encoding
  deriving DecidableEq, Repr

namespace Setting

/-- The settings in order. -/
def all : List Setting := [.defaultTemplate, .serialField, .rawField, .encoding]

def name : Setting → Text
  | .defaultTemplate => "default_template".text
  | .serialField => "serial_field".text
  | .rawField => "raw_field".text
  | .encoding => "encoding".text

/-- The key of a setting in a mapping. -/
def key (setting : Setting) : Scalar := .text setting.name

def isFieldName : Setting → Bool
  | .serialField | .rawField => true
  | .defaultTemplate | .encoding => false

end Setting

/-- Something that is wrong with a configuration. -/
inductive Fault where
  | missing (setting : Setting)
  | text (setting : Setting) (fault : TextFault)
  /-- The setting is no field name. -/
  | badName (setting : Setting)
  | unknown (name : Text)
  | badKey (key : Scalar)
  | notMapping
  deriving DecidableEq, Repr

namespace Fault

/-- The text of a key that is no text. -/
private def keyText : Scalar → Text
  | .bool true => ['1']
  | .bool false => ['0']
  | key => key.nestedText.toOption.getD []

/-- Where the fault is. -/
def location : Fault → Text
  | .missing setting | .text setting _ | .badName setting => setting.name
  | .unknown name => name
  | .badKey key => keyText key
  | .notMapping => []

def word : Fault → String
  | .missing _ => "missing"
  | .text _ .notText => "string_type"
  | .text _ .notUtf8 => "string_unicode"
  | .badName _ => "string_pattern_mismatch"
  | .unknown _ => "extra_forbidden"
  | .badKey _ => "invalid_key"
  | .notMapping => "model_type"

/-- The description of a fault. -/
def message : Fault → Text
  | .missing _ => "Field required".text
  | .text _ fault => fault.message
  | .badName _ => "String should match pattern '^[A-Za-z0-9_]+$'".text
  | .unknown _ => "Extra inputs are not permitted".text
  | .badKey _ => "Keys should be strings".text
  | .notMapping =>
      "Input should be a valid dictionary or instance of LicenseConfig".text

end Fault

/-- The value of a setting among entries. -/
def given? (entries : List (Scalar × Value)) (setting : Setting) : Option Value :=
  Value.ofKey? setting.key entries

def settingFault? (setting : Setting) (value : Value) : Option Fault :=
  match value.asText with
  | .error fault => some (.text setting fault)
  | .ok text =>
      if setting.isFieldName && text.any CodePoint.isSurrogate then some (.text setting .notUtf8)
      else if setting.isFieldName && !decide (IsName text) then some (.badName setting)
      else none

/-- The fault in a setting, if there is one; only the template has to be given. -/
def faultOf? (entries : List (Scalar × Value)) (setting : Setting) : Option Fault :=
  match given? entries setting with
  | some value => settingFault? setting value
  | none => if setting = .defaultTemplate then some (.missing setting) else none

def keyFault? : Scalar → Option Fault
  | .text name => if Setting.all.any (·.name = name) then none else some (.unknown name)
  | key => some (.badKey key)

/-- Everything that is wrong with entries: the settings in order, then the keys. -/
def faults (entries : List (Scalar × Value)) : List Fault :=
  Setting.all.filterMap (faultOf? entries) ++ entries.filterMap fun entry => keyFault? entry.1

/-- The text of a setting, or what it is when it is not given. -/
def textOf (entries : List (Scalar × Value)) (setting : Setting) (otherwise : Text) : Text :=
  match given? entries setting with
  | some value => value.asText.toOption.getD otherwise
  | none => otherwise

/-- The configuration of entries. -/
def ofEntries (entries : List (Scalar × Value)) : Except (List Fault) Config :=
  match faults entries with
  | [] =>
      let names : FieldNames := {}
      .ok {
        defaultTemplate := textOf entries .defaultTemplate []
        names := ⟨textOf entries .serialField names.serial, textOf entries .rawField names.raw⟩
        encoding := textOf entries .encoding "utf-8".text }
  | faults => .error faults

/-- The configuration of a value. -/
def ofValue : Value → Except (List Fault) Config
  | .map entries => ofEntries entries
  | _ => .error [.notMapping]

/-- The built-in configuration. -/
def builtIn : Config where
  defaultTemplate := ("====BEGIN LICENSE====\n\x7b\x7b&string\x7d\x7d\n\x7b\x7b&serial\x7d\x7d\n"
    ++ "=====END LICENSE=====").text

end Config

end LicenseSeal
