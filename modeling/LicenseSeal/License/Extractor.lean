import LicenseSeal.Failure
import LicenseSeal.Json.Writer
import LicenseSeal.Signing.Payload
import LicenseSeal.Template.Grammar.Match

/-!
# Extractors

An extractor recovers the serial and the data from a document.  The usual one matches the document
against a template; a caller can give one of its own, whose result is checked before it is used.
What a caller's extractor does is taken as it comes: its result can fail when it is read, and its
exceptions can have classes of its own.
-/

namespace LicenseSeal

/-- The serial and the data recovered from a document. -/
structure ExtractedLicense where
  serial : Text
  data : LicenseData

/-- What an extractor does with a document. -/
inductive Extraction where
  /-- It gives a serial and data. -/
  | extracted (license : ExtractedLicense)
  /-- It gives a plain value. -/
  | value (value : Value)
  /-- It gives a mapping, and an exception is raised when that is read. -/
  | unreadable (exception : Raised)
  /-- It refuses the document with an error of licensing. -/
  | refused (error : LicenseError)
  /-- It fails with an error of its own. -/
  | failed (kind message : Text)
  /-- It is left by an exception that is not handled at all: an interruption, or what is raised when
  the message of its error is asked for. -/
  | interrupted (exception : Raised)

/-- How a caller gives an extractor. -/
inductive ExtractorForm where
  /-- As a function. -/
  | function
  /-- As a function that has been made an extractor. -/
  | adapted
  /-- As an object of a class. -/
  | object (className : Text)
  /-- As an object with a name of its own. -/
  | named (name : Text)
  deriving DecidableEq, Repr

/-- The strategy that a form is reported as. -/
def ExtractorForm.strategy : ExtractorForm → Text
  | .function | .adapted => "function".text
  | .object className => className
  | .named name => name

/-- An extractor under the name of its strategy. -/
structure Extractor where
  strategy : Text
  extract : Text → Extraction

namespace Extractor

/-- The extractor of a caller. -/
def ofForm (form : ExtractorForm) (extract : Text → Extraction) : Extractor :=
  ⟨form.strategy, extract⟩

end Extractor

/-- A grammar that captures the serial, and the names of the special fields. -/
structure TemplateExtractor where
  grammar : Grammar
  names : FieldNames
  deriving DecidableEq, Repr

namespace TemplateExtractor

/-- The extractor of a template, which must use no name twice and have a token for the serial. -/
def ofTemplate (template : Text) (names : FieldNames) : Except TemplateError TemplateExtractor :=
  match Template.grammar template with
  | .error error => .error error
  | .ok grammar =>
      if grammar.tokenNames.contains names.serial then .ok ⟨grammar, names⟩
      else .error (.lacks names.serial none)

/-- The license in fields: the serial, and the rest as a text if it is the raw field alone. -/
def licenseOf (names : FieldNames) (fields : Fields Text) : ExtractedLicense :=
  let others := fields.erase names.serial
  ⟨(fields.get? names.serial).getD [],
    if isRaw names.raw others.names then .text ((others.get? names.raw).getD [])
    else .fields (others.map Value.text)⟩

/-- The license in the texts captured from a document, if it matched. -/
def ofCaptures (extractor : TemplateExtractor) (captures : Option (List Text)) :
    Except LicenseError ExtractedLicense :=
  match captures with
  | none => .error (.corrupted .noMatch)
  | some captured =>
      let tokenNames := extractor.grammar.tokenNames
      if captured.length = tokenNames.length then
        .ok (licenseOf extractor.names (Fields.ofList (tokenNames.zip captured)))
      else .error (.corrupted (.tokenCount tokenNames.length captured.length))

def extract (extractor : TemplateExtractor) (document : Text) :
    Except LicenseError ExtractedLicense :=
  extractor.ofCaptures (extractor.grammar.captures? document)

/-- A template's extractor under the name of its strategy. -/
def toExtractor (extractor : TemplateExtractor) : Extractor where
  strategy := "template".text
  extract document :=
    match extractor.extract document with
    | .ok license => .extracted license
    | .error error => .refused error

end TemplateExtractor

namespace ExtractedLicense

/-- A value as the data of a license: a text, or a mapping whose keys are read as texts. -/
def dataOf? : Value → Option LicenseData
  | .scalar (.text content) => some (.text content)
  | value => value.asFields?.map .fields

/-- The key of the serial in a mapping. -/
def serialKey : Scalar := .text "serial".text

/-- The key of the data in a mapping. -/
def dataKey : Scalar := .text "data".text

/-- The license in a value: a mapping with a text as serial and with proper data. -/
def ofValue : Value → Except ContractProblem ExtractedLicense
  | .map entries =>
      match Value.ofKey? serialKey entries, (Value.ofKey? dataKey entries).bind dataOf? with
      | some (.scalar (.text serial)), some data => .ok ⟨serial, data⟩
      | _, _ => .error .badMapping
  | value => .error (.noMapping (Json.valueKind value).text)

end ExtractedLicense

namespace Extraction

/-- The license that an extraction gives, if it keeps the contract. -/
def license : Extraction → Except Failure ExtractedLicense
  | .extracted license => .ok license
  | .value given =>
      (ExtractedLicense.ofValue given).mapError fun problem => .license (.contract problem)
  | .unreadable exception =>
      if exception.kind = .validation then .error (.license (.contract .badMapping))
      else .error (.raised exception)
  | .refused error => .error (.license error)
  | .failed kind message => .error (.license (.contract (.failed kind message)))
  | .interrupted exception => .error (.raised exception)

end Extraction

end LicenseSeal
