import LicenseSeal.Failure

/-!
# Key options

A key is given by its content or by the path of its file, and by exactly one of them.
-/

namespace LicenseSeal

/-- The content of a key as it is given. -/
inductive KeyContent where
  | text (content : Text)
  | bytes (content : Bytes)
  deriving DecidableEq, Repr

namespace KeyContent

/-- Whether content is blank; a text and bytes have blanks of their own. -/
def isBlank : KeyContent → Bool
  | .text content => content.all Text.isBlank
  | .bytes content => content.all Text.isBlankByte

def bytesOf : KeyContent → Except Encoding.EncodeError Bytes
  | .text content => Encoding.Utf8.encode content
  | .bytes content => .ok content

end KeyContent

/-- The two ways of giving a key. -/
structure KeyOptions where
  content : Option KeyContent
  path : Option Path
  deriving DecidableEq, Repr

/-- Bytes of a key and where they come from. -/
structure KeySource where
  content : Bytes
  source : Text
  deriving DecidableEq, Repr

namespace KeyOptions

/-- What is wrong with the options for the key of a field. -/
def problem? (field : Text) (options : KeyOptions) : Option InputProblem :=
  match options.content, options.path with
  | some _, some _ => some (.keyTwice field)
  | none, none => some (.noKey field)
  | some content, none => if content.isBlank then some (.blankKey field) else none
  | none, some _ => none

def check (field : Text) (options : KeyOptions) : Except Failure Unit :=
  match options.problem? field with
  | some problem => .error (.license (.input problem))
  | none => .ok ()

/-- The bytes of the file that a path leads to. -/
def readFile (files : FileSystem) (path : Path) : Except Failure KeySource :=
  match files.read path with
  | .ok content => .ok ⟨content, path.text⟩
  | .error (.unusable fault) => .error (.textFile (.file (.unusable fault)))
  | .error (.refused _ _ _) => .error (.license (.key ⟨.unreadable, path.text⟩))

/-- The bytes of the key of a field and a description of their source that holds none of them. -/
def read (files : FileSystem) (field : Text) (options : KeyOptions) :
    Except Failure KeySource := do
  options.check field
  match options.content, options.path with
  | some content, _ => do
      let bytes ← content.bytesOf.mapError .unencodable
      pure ⟨bytes, "inline ".text ++ field⟩
  | none, some path => readFile files path
  | none, none => .error (.license (.input (.noKey field)))

end KeyOptions

end LicenseSeal
