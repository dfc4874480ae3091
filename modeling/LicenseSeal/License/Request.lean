import LicenseSeal.License.Extractor
import LicenseSeal.License.KeyOptions

/-!
# Requests

The options of a call are read into a request.  The first option that is wrong by itself decides
the error: the known options in their order, then the unknown ones.
-/

namespace LicenseSeal

/-- What an option is given as. -/
inductive OptionValue where
  | value (value : Value)
  | extractor (extractor : Extractor)

/-- The options of a call by name. -/
abbrev Options := Fields OptionValue

namespace Options

/-- The value of an option, unless it is absent. -/
def given? (options : Options) (name : Text) : Option OptionValue :=
  match options.get? name with
  | some (.value (.scalar .null)) => none
  | found => found

/-- Reads what is given for an option; an extractor is read like anything else that is neither text
nor bytes nor mapping. -/
def readAs {α : Type} (read : Value → Except OptionFault α) (options : Options)
    (name : Text) : Except (Text × OptionFault) (Option α) :=
  match options.given? name with
  | none => .ok none
  | some (.value value) =>
      match read value with
      | .ok found => .ok (some found)
      | .error fault => .error (name, fault)
  | some (.extractor _) =>
      match read (.list []) with
      | .ok found => .ok (some found)
      | .error fault => .error (name, fault)

/-- Reads a value as a text. -/
def textValue (value : Value) : Except OptionFault Text :=
  value.asText.mapError .text

/-- Reads a value as the path of a file, which has to be a text itself. -/
def pathValue : Value → Except OptionFault Path
  | .scalar (.text content) => .ok (Path.ofText content)
  | _ => .error .notPath

/-- Reads a value as the content of a key. -/
def keyValue : Value → Except OptionFault KeyContent
  | .scalar (.text content) => .ok (.text content)
  | .scalar (.bytes content) => .ok (.bytes content)
  | _ => .error (.text .notText)

/-- Reads a value as data: a text, or a mapping whose keys are texts. -/
def dataValue (value : Value) : Except OptionFault LicenseData :=
  match value.asFields? with
  | some fields => .ok (.fields fields)
  | none => (textValue value).map .text

def text (options : Options) (name : Text) : Except (Text × OptionFault) (Option Text) :=
  readAs textValue options name

/-- An option that is the path of a file. -/
def path (options : Options) (name : Text) : Except (Text × OptionFault) (Option Path) :=
  readAs pathValue options name

def key (options : Options) (name : Text) : Except (Text × OptionFault) (Option KeyContent) :=
  readAs keyValue options name

def data (options : Options) (name : Text) : Except (Text × OptionFault) (Option LicenseData) :=
  readAs dataValue options name

/-- Checks that there is no option beyond the known ones. -/
def checkKnown (options : Options) (known : List Text) : Except (Text × OptionFault) Unit :=
  match options.names.find? fun name => !known.contains name with
  | some name => .error (name, .unknown)
  | none => .ok ()

end Options

/-- What a license is generated from. -/
structure GenerateRequest where
  data : Option LicenseData
  key : KeyOptions
  password : Option Text
  template : Option Text

namespace GenerateRequest

def optionNames : List Text :=
  ["data", "private_key", "private_key_path", "private_key_password", "template"].map
    String.text

/-- Reads the options of a call. -/
def ofOptions (options : Options) : Except LicenseError GenerateRequest :=
  let request : Except (Text × OptionFault) GenerateRequest := do
    let data ← options.data "data".text
    let content ← options.key "private_key".text
    let path ← options.path "private_key_path".text
    let password ← options.text "private_key_password".text
    let template ← options.text "template".text
    options.checkKnown optionNames
    pure ⟨data, ⟨content, path⟩, password, template⟩
  request.mapError fun (name, fault) => .input (.badOption .generate name fault)

end GenerateRequest

/-- A document by its text or by the path of its file. -/
structure DocumentOptions where
  content : Option Text
  path : Option Path
  deriving DecidableEq, Repr

/-- What a license is parsed from. -/
structure ParseRequest where
  document : DocumentOptions
  key : KeyOptions
  template : Option Text
  extractor : Option OptionValue

namespace ParseRequest

def optionNames : List Text :=
  ["document", "document_path", "public_key", "public_key_path", "template", "extractor"].map
    String.text

/-- Reads the options of a call. -/
def ofOptions (options : Options) : Except LicenseError ParseRequest :=
  let request : Except (Text × OptionFault) ParseRequest := do
    let document ← options.text "document".text
    let documentPath ← options.path "document_path".text
    let content ← options.key "public_key".text
    let path ← options.path "public_key_path".text
    let template ← options.text "template".text
    options.checkKnown optionNames
    pure ⟨⟨document, documentPath⟩, ⟨content, path⟩, template,
      options.given? "extractor".text⟩
  request.mapError fun (name, fault) => .input (.badOption .parse name fault)

end ParseRequest

end LicenseSeal
