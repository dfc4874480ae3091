import LicenseSeal.Config
import LicenseSeal.License.Request
import LicenseSeal.License.Traced
import LicenseSeal.Signing.Serial
import LicenseSeal.Template.Render

/-!
# Generating a license

The data is coerced to texts, those that the template names are signed in its order, and the
template is rendered with them and with the serial.  Every value is coerced, also one that the
template does not name.
-/

namespace LicenseSeal

namespace LicenseData

/-- Whether there is nothing to sign. -/
def isEmpty : LicenseData → Bool
  | .text content => content.isEmpty
  | .fields values => values.isEmpty

/-- Data as fields; a text is the raw field. -/
def toFields (names : FieldNames) : LicenseData → Fields Value
  | .text content => Fields.empty.put names.raw (.text content)
  | .fields values => values

end LicenseData

/-- What is to be signed and rendered, once the options, the data and the template are accepted. -/
structure Outline where
  template : Text
  scan : Scan
  isDefaultTemplate : Bool
  /-- The data of the caller. -/
  fields : Fields Value

/-- What is signed and rendered. -/
structure Draft where
  template : Text
  scan : Scan
  isDefaultTemplate : Bool
  /-- The data of the caller as texts. -/
  coerced : Fields Text

namespace Outline

/-- The fields of an accepted request. -/
def fieldsOf (names : FieldNames) (request : GenerateRequest) :
    Except LicenseError (Fields Value) :=
  match request.data with
  | none => .error (.input .noData)
  | some data =>
      if data.isEmpty then .error (.input .noData)
      else
        match request.key.problem? "private_key".text with
        | some problem => .error (.input problem)
        | none =>
            let fields := data.toFields names
            if fields.contains names.serial then .error (.input (.reservedField names.serial))
            else .ok fields

/-- The outline of a request; its template must have a token for the serial. -/
def ofRequest (config : Config) (request : GenerateRequest) : Except LicenseError Outline := do
  let fields ← fieldsOf config.names request
  let template := request.template.getD config.defaultTemplate
  let scan := Template.scan template
  if scan.fields.contains config.names.serial then
    .ok ⟨template, scan, request.template.isNone, fields⟩
  else .error (.template (.lacks config.names.serial (some scan)))

/-- The kinds of the template's unsupported fragments, in the order of their words. -/
def unsupportedKinds (outline : Outline) : List UnsupportedKind :=
  [.invalidFormat, .strayClose, .unclosedOpen].filter fun kind =>
    outline.scan.unsupported.any fun fragment => fragment.kind = kind

/-- The events before the data is coerced. -/
def events (outline : Outline) : List Event :=
  let unsupported := outline.scan.unsupported
  (if unsupported.isEmpty then []
    else [.unsupportedPlaceholders unsupported.length outline.unsupportedKinds])
  ++ [.generateStart outline.fields.size outline.isDefaultTemplate]

/-- The draft of an outline, if every value has a text. -/
def draft (outline : Outline) : Except Uncoercible Draft :=
  outline.fields.coerced.map fun coerced =>
    ⟨outline.template, outline.scan, outline.isDefaultTemplate, coerced⟩

end Outline

namespace Draft

/-- The fields that are signed: those of the template that the data has, in the template's order. -/
def signedFields (draft : Draft) : Fields Text :=
  Fields.ofList <| draft.scan.fields.filterMap fun name =>
    (draft.coerced.get? name).map fun value => (name, value)

/-- The data's names that the template does not have, in the order of the data. -/
def extraNames (draft : Draft) : List Text :=
  draft.coerced.names.filter fun name => !draft.signedFields.contains name

/-- The template's names, the serial's aside, that the data does not have. -/
def missingNames (names : FieldNames) (draft : Draft) : List Text :=
  draft.scan.fields.filter fun name => name ≠ names.serial && !draft.coerced.contains name

/-- The events about names that the data and the template do not share. -/
def events (names : FieldNames) (draft : Draft) : List Event :=
  (if draft.extraNames.isEmpty then [] else [.fieldsNotInTemplate draft.extraNames])
  ++ (if (draft.missingNames names).isEmpty then []
    else [.missingFields (draft.missingNames names)])

/-- The serial of a draft under a key. -/
def serial (names : FieldNames) (draft : Draft) (key : PrivateKey) : Except Failure Text := do
  let payload ← (Signed.ofFields names draft.signedFields).bytes.mapError .unencodable
  (key.serial payload).mapError .serial

def document (names : FieldNames) (draft : Draft) (serial : Text) : Text :=
  Template.render draft.template (draft.signedFields.put names.serial serial)

end Draft

def GenerateRequest.privateKey (files : FileSystem) (request : GenerateRequest) :
    Except Failure PrivateKey := do
  let found ← request.key.read files "private_key".text
  let password ← (request.password.mapM Encoding.Utf8.encode).mapError .unencodable
  (PrivateKey.load found.content password found.source).mapError fun error => .license (.key error)

/-- Generates the license of a request. -/
def GenerateRequest.run (config : Config) (files : FileSystem) (request : GenerateRequest) :
    Traced Text := do
  let outline ← Traced.ofLicense (Outline.ofRequest config request)
  Traced.report outline.events
  let draft ← Traced.of (outline.draft.mapError .uncoercible)
  Traced.report (draft.events config.names)
  let key ← Traced.of (request.privateKey files)
  let serial ← Traced.of (draft.serial config.names key)
  let document := draft.document config.names serial
  Traced.report [.generateDone draft.signedFields.size document.length]
  return document

/-- Generates the license of a call with options. -/
def generate (config : Config) (files : FileSystem) (options : Options) : Traced Text := do
  let request ← Traced.ofLicense (GenerateRequest.ofOptions options)
  request.run config files

end LicenseSeal
