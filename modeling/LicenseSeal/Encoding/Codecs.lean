import LicenseSeal.Encoding.Charset

/-!
# Tables of the system

Some encodings, and the names of characters, follow tables that come with the system: those of the
languages of East Asia, with several bytes for a character, and those for the names of hosts.  What
the tables say is a parameter.
-/

namespace LicenseSeal.Encoding

/-- Why the system has no text for bytes, or no bytes for a text: an error that says where, or a
message alone. -/
inductive CodecFailure (ε : Type) where
  | located (error : ε)
  | bare (message : Text)
  deriving DecidableEq, Repr

/-- What the system's tables say. -/
structure Codecs where
  /-- The text of bytes in the encoding of a name. -/
  decode : String → Bytes → Except (CodecFailure DecodeError) Text
  /-- The bytes of a text in the encoding of a name. -/
  encode : String → Text → Except (CodecFailure EncodeError) Bytes
  /-- The character of a name. -/
  charNamed? : Text → Option CodePoint

namespace Codecs

/-- ASCII as an encoding of a name. -/
private def asciiUnder (name : String) : Charset :=
  { Charset.ascii with codecName := name, reason := "illegal multibyte sequence" }

/-- Tables that hold the characters of ASCII, none of them by name. -/
def ascii : Codecs where
  decode name bytes := ((asciiUnder name).decode bytes).mapError .located
  encode name text := ((asciiUnder name).encode text).mapError .located
  charNamed? _ := none

end Codecs

end LicenseSeal.Encoding
