import LicenseSeal.Encoding
import LicenseSeal.FileSystem.Write
import LicenseSeal.Json.Writer

/-!
# Text files

Texts are read and written in an encoding given by name, every character of them: line ends and a
mark at the beginning are part of the text.  Values are written as JSON.
-/

namespace LicenseSeal

namespace Encoding

/-- Why bytes give no text in an encoding given by name. -/
inductive DecodingFailure where
  | noEncoding (error : NameError)
  | malformed (error : DecodeError)
  /-- The system fails with a message alone. -/
  | bare (message : Text)
  deriving DecidableEq, Repr

def DecodingFailure.ofCodec : CodecFailure DecodeError → DecodingFailure
  | .located error => .malformed error
  | .bare message => .bare message

/-- The text of bytes in the encoding of a name; no bytes are the empty text, whatever the encoding,
unless the name itself cannot be looked up. -/
def decodeAs (codecs : Codecs) (name : Text) (bytes : Bytes) : Except DecodingFailure Text :=
  match named name .decode with
  | .error (.unencodable error) => .error (.noEncoding (.unencodable error))
  | .error .nullCharacter => .error (.noEncoding .nullCharacter)
  | found =>
      if bytes.isEmpty then .ok []
      else
        match found with
        | .error error => .error (.noEncoding error)
        | .ok encoding => (encoding.decode codecs bytes).mapError .ofCodec

end Encoding

/-- Why a text or a value was not read or written. -/
inductive TextFileError where
  | file (error : FileError)
  | noEncoding (error : Encoding.NameError)
  | undecodable (error : Encoding.DecodeError)
  | unencodable (error : Encoding.EncodeError)
  /-- The system's tables fail with a message alone. -/
  | bare (message : Text)
  | unwritable (error : Json.WriteError)

namespace TextFileError

/-- The name that a text that was not read or written is reported under. -/
def name : TextFileError → Text
  | .file error => error.name
  | .noEncoding error => error.name
  | .undecodable _ => "UnicodeDecodeError".text
  | .unencodable _ => "UnicodeEncodeError".text
  | .bare _ => "UnicodeError".text
  | .unwritable error => error.name

/-- Whether the system refused an operation on files. -/
def isRefusal : TextFileError → Bool
  | .file error => error.isRefusal
  | _ => false

/-- Whether a text, bytes or a name that was given has an improper content. -/
def isImproper : TextFileError → Bool
  | .file error => !error.isRefusal
  | .noEncoding error => !error.isUnknown
  | .undecodable _ | .unencodable _ | .bare _ => true
  | .unwritable _ => false

/-- The message of a text that was not read or written. -/
def message : TextFileError → Text
  | .file error => error.message
  | .noEncoding error => error.message
  | .undecodable error => error.message.text
  | .unencodable error => error.message.text
  | .bare message => message
  | .unwritable error => error.message

/-- The failure to decode what was read. -/
def ofDecoding : Encoding.DecodingFailure → TextFileError
  | .noEncoding error => .noEncoding error
  | .malformed error => .undecodable error
  | .bare message => .bare message

/-- The failure to encode what is to be written. -/
def ofEncoding : Encoding.CodecFailure Encoding.EncodeError → TextFileError
  | .located error => .unencodable error
  | .bare message => .bare message

end TextFileError

namespace FileSystem

/-- The text of the file that a path leads to. -/
def readText (files : FileSystem) (path : Path) (encodingName : Text) :
    Except TextFileError Text :=
  match files.read path with
  | .error error => .error (.file error)
  | .ok bytes => (Encoding.decodeAs files.codecs encodingName bytes).mapError .ofDecoding

/-- The text of a UTF-8 file with every line end made a line feed. -/
def readLines (files : FileSystem) (path : Path) : Except TextFileError Text :=
  (files.readText path "utf-8".text).map Text.unifyLineEnds

/-- The bytes of a text in the encoding of a name. -/
def encoded (codecs : Encoding.Codecs) (encodingName text : Text) : Except TextFileError Bytes :=
  match Encoding.named encodingName .encode with
  | .error error => .error (.noEncoding error)
  | .ok encoding => (encoding.encode codecs text).mapError .ofEncoding

/-- Creates the directories above a file and writes bytes there, which are computed in between. -/
def writeComputed (path : Path) (content : Except TextFileError Bytes) :
    Action TextFileError Unit := do
  (createAll path.parent).adapt .file
  let content ← content
  (writeWhole path content).adapt .file

/-- Writes a text. -/
def writeText (path : Path) (text encodingName : Text) : Action TextFileError Unit := do
  let files ← get
  writeComputed path (encoded files.codecs encodingName text)

/-- The bytes of a value as JSON with sorted members. -/
def jsonBytes (value : Value) : Except TextFileError Bytes := do
  let text ← (Json.write .refuse value).mapError .unwritable
  (Encoding.Utf8.encode text).mapError .unencodable

/-- Writes a value as JSON with sorted members. -/
def writeJson (path : Path) (value : Value) : Action TextFileError Unit :=
  writeComputed path (jsonBytes value)

end FileSystem

end LicenseSeal
