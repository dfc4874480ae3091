import LicenseSeal.Key.Load
import LicenseSeal.Raised
import LicenseSeal.Template.Scan
import LicenseSeal.Value.Reading

/-!
# License errors

Why a license is not generated or not parsed, as causes.  `LicenseError.name` and
`LicenseError.message` say how a cause is reported.
-/

namespace LicenseSeal

/-- A license operation. -/
inductive Operation where
  | generate
  | parse
  deriving DecidableEq, Repr

def Operation.word : Operation → Text
  | .generate => "generate".text
  | .parse => "parse".text

/-- What is wrong with an option by itself. -/
inductive OptionFault where
  | text (fault : TextFault)
  | notPath
  | unknown
  deriving DecidableEq, Repr

/-- The description of an option that is wrong by itself. -/
def OptionFault.message : OptionFault → Text
  | .text fault => fault.message
  | .notPath => "Input is not a valid path for <class 'pathlib.Path'>".text
  | .unknown => "Extra inputs are not permitted".text

/-- What is wrong with the options of a call. -/
inductive InputProblem where
  | badOption (operation : Operation) (option : Text) (fault : OptionFault)
  /-- There is nothing to sign. -/
  | noData
  /-- The data has a field of the serial's name. -/
  | reservedField (name : Text)
  /-- A key is given by content and by path. -/
  | keyTwice (field : Text)
  | noKey (field : Text)
  | blankKey (field : Text)
  /-- A document is given by content and by path. -/
  | documentTwice
  | noDocument
  | unreadableDocument (path : Text)
  /-- What is given as an extractor is none. -/
  | notExtractor
  deriving DecidableEq, Repr

namespace InputProblem

/-- The option at fault. -/
def field : InputProblem → Text
  | .badOption _ option _ => option
  | .noData | .reservedField _ => "data".text
  | .keyTwice field | .noKey field | .blankKey field => field
  | .documentTwice | .noDocument | .unreadableDocument _ => "document".text
  | .notExtractor => "extractor".text

/-- The message of a problem with options. -/
def message : InputProblem → Text
  | .badOption operation option fault =>
      "Invalid ".text ++ operation.word ++ " options: ".text ++ option ++ ": ".text
        ++ fault.message
  | .noData => "Invalid data to be signed".text
  | .reservedField name => "'".text ++ name ++ "' is reserved and computed".text
  | .keyTwice field =>
      "Specify either ".text ++ field ++ " or ".text ++ field ++ "_path, not both".text
  | .noKey field => "No ".text ++ field ++ " is specified".text
  | .blankKey field => field ++ " is empty".text
  | .documentTwice => "Specify either document or document_path, not both".text
  | .noDocument => "No document is specified".text
  | .unreadableDocument path => "Cannot read document: ".text ++ path
  | .notExtractor => "extractor must implement extract(document) or be callable".text

end InputProblem

/-- How an extractor breaks its contract. -/
inductive ContractProblem where
  /-- It fails with an error of its own. -/
  | failed (kind message : Text)
  /-- It returns something of a kind that is no mapping. -/
  | noMapping (kind : Text)
  /-- It returns a mapping without a text for the serial or without proper data. -/
  | badMapping
  deriving DecidableEq, Repr

/-- The message of a broken contract. -/
def ContractProblem.message : ContractProblem → Text
  | .failed kind message => "Extractor failed: ".text ++ kind ++ ": ".text ++ message
  | .noMapping kind => "Extractor must return serial and data, got ".text ++ kind
  | .badMapping =>
      "Extractor result must contain a string serial and string or mapping data".text

/-- What is wrong with a document. -/
inductive Corruption where
  /-- It is not the template with texts in place of the tokens. -/
  | noMatch
  /-- Its bytes are no text in the encoding of a name. -/
  | undecodable (encoding : Text)
  /-- The number of captured texts is not the number of tokens. -/
  | tokenCount (expected actual : Nat)
  deriving DecidableEq, Repr

/-- The message of a corrupted document. -/
def Corruption.message : Corruption → Text
  | .noMatch => "License document is corrupted: template does not match".text
  | .undecodable encoding => "Document is not valid ".text ++ encoding
  | .tokenCount expected actual =>
      "Token count mismatch: expected ".text ++ Text.ofNat expected ++ ", got ".text
        ++ Text.ofNat actual

/-- Why a license is not generated or not parsed. -/
inductive LicenseError where
  | input (problem : InputProblem)
  | contract (problem : ContractProblem)
  | key (error : KeyError)
  | template (error : TemplateError)
  | corrupted (problem : Corruption)
  /-- An error of a family, in a class and in words of an extractor's own. -/
  | stated (family : ErrorFamily) (name message : Text)
  deriving DecidableEq, Repr

namespace LicenseError

def family : LicenseError → ErrorFamily
  | .input _ => .input
  | .contract _ => .contract
  | .key _ => .key
  | .template _ => .template
  | .corrupted _ => .corrupted
  | .stated family _ _ => family

/-- The name that an error is reported under. -/
def name : LicenseError → Text
  | .input _ => "LicenseInputError".text
  | .contract _ => "ExtractionContractError".text
  | .key _ => "KeyLoadError".text
  | .template _ => "TemplateError".text
  | .corrupted (.tokenCount _ _) => "TokenCountMismatchError".text
  | .corrupted _ => "DocumentCorruptedError".text
  | .stated _ name _ => name

def message : LicenseError → Text
  | .input problem => problem.message
  | .contract problem => problem.message
  | .key error => error.message
  | .template error => error.message
  | .corrupted problem => problem.message
  | .stated _ _ message => message

/-- The option at fault, if one is. -/
def field? : LicenseError → Option Text
  | .input problem => some problem.field
  | .contract _ => some "extractor".text
  | _ => none

/-- The source of a key that cannot be loaded. -/
def source? : LicenseError → Option Text
  | .key error => some error.source
  | _ => none

/-- The scan of a template that cannot be used. -/
def scan? : LicenseError → Option Scan
  | .template error => error.scan?
  | _ => none

/-- Whether an error says that the document is corrupted. -/
def isCorruption (error : LicenseError) : Bool :=
  error.family = .corrupted

end LicenseError

end LicenseSeal
