import LicenseSeal.Config
import LicenseSeal.License.Request
import LicenseSeal.License.Traced
import LicenseSeal.Signing.Serial

/-!
# Parsing a license

The serial and the data are extracted from a document, what was signed is rebuilt from the data,
and the serial is verified against it.  A serial that does not fit makes the license invalid and is
no error; data without a payload is one.
-/

namespace LicenseSeal

/-- A license found in a document, and whether its serial is valid. -/
structure ParsedLicense where
  valid : Bool
  serial : Text
  data : LicenseData

namespace LicenseData

/-- The number of fields; a text counts as one. -/
def fieldCount : LicenseData → Nat
  | .text _ => 1
  | .fields values => values.size

end LicenseData

namespace ExtractedLicense

def verified (names : FieldNames) (key : PublicKey) (license : ExtractedLicense) :
    Except PayloadError ParsedLicense := do
  let payload ← license.data.payload names
  pure ⟨key.verifies payload license.serial, license.serial, license.data⟩

end ExtractedLicense

namespace DocumentOptions

/-- What is wrong with the options for the document. -/
def problem? (options : DocumentOptions) : Option InputProblem :=
  match options.content, options.path with
  | some _, some _ => some .documentTwice
  | none, none => some .noDocument
  | _, _ => none

/-- Reads the file of a document. -/
def readFile (encoding : Text) (files : FileSystem) (path : Path) : Except Failure Text :=
  match files.read path with
  | .error (.unusable fault) => .error (.textFile (.file (.unusable fault)))
  | .error (.refused _ _ _) => .error (.license (.input (.unreadableDocument path.text)))
  | .ok bytes =>
      match Encoding.decodeAs files.codecs encoding bytes with
      | .ok text => .ok text
      | .error (.malformed _) => .error (.license (.corrupted (.undecodable encoding)))
      | .error (.bare message) => .error (.textFile (.bare message))
      | .error (.noEncoding error) => .error (.textFile (.noEncoding error))

def read (encoding : Text) (files : FileSystem) (options : DocumentOptions) :
    Except Failure Text :=
  match options.content, options.path with
  | some text, _ => .ok text
  | none, some path => readFile encoding files path
  | none, none => .error (.license (.input .noDocument))

end DocumentOptions

namespace ParseRequest

/-- Checks the options for the key and for the document. -/
def check (request : ParseRequest) : Except Failure Unit := do
  request.key.check "public_key".text
  match request.document.problem? with
  | some problem => .error (.license (.input problem))
  | none => .ok ()

def publicKey (files : FileSystem) (request : ParseRequest) : Except Failure PublicKey := do
  let found ← request.key.read files "public_key".text
  (PublicKey.load found.content found.source).mapError fun error => .license (.key error)

/-- The extractor of a request: that of the caller, or that of the template. -/
def resolveExtractor (config : Config) (request : ParseRequest) :
    Except LicenseError Extractor :=
  match request.extractor with
  | some (.extractor extractor) => .ok extractor
  | some (.value _) => .error (.input .notExtractor)
  | none =>
      match TemplateExtractor.ofTemplate (request.template.getD config.defaultTemplate)
          config.names with
      | .ok extractor => .ok extractor.toExtractor
      | .error error => .error (.template error)

/-- The key, the document and the extractor of a request. -/
def prepare (config : Config) (files : FileSystem) (request : ParseRequest) :
    Except Failure (PublicKey × Text × Extractor) := do
  request.check
  let key ← request.publicKey files
  let document ← request.document.read config.encoding files
  let extractor ← (request.resolveExtractor config).mapError .license
  return (key, document, extractor)

end ParseRequest

namespace Extractor

/-- Extracts a license; a document that is said to be corrupted is reported. -/
def traced (extractor : Extractor) (document : Text) : Traced ExtractedLicense :=
  match extractor.extract document with
  | .refused error =>
      if error.isCorruption then
        ⟨[.parseCorrupted extractor.strategy error.name], .error (.license error)⟩
      else Traced.fail error
  | extraction => Traced.of extraction.license

end Extractor

def ParseRequest.run (config : Config) (files : FileSystem) (request : ParseRequest) :
    Traced ParsedLicense := do
  let (key, document, extractor) ← Traced.of (request.prepare config files)
  Traced.report [.parseStart extractor.strategy]
  let license ← extractor.traced document
  let parsed ← Traced.of ((license.verified config.names key).mapError .ofPayload)
  Traced.report [.parseDone extractor.strategy parsed.valid parsed.data.fieldCount]
  return parsed

/-- Parses the license of a call with options. -/
def parse (config : Config) (files : FileSystem) (options : Options) : Traced ParsedLicense := do
  let request ← Traced.ofLicense (ParseRequest.ofOptions options)
  request.run config files

end LicenseSeal
