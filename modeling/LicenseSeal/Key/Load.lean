import LicenseSeal.Key.Reader

/-!
# Loading keys

Reads a key and says, if that fails, where the content came from.  The failure never holds any of
the content.
-/

namespace LicenseSeal

/-- A half of a key pair. -/
inductive KeyHalf where
  /-- The private half. -/
  | signing
  /-- The public half. -/
  | verifying
  deriving DecidableEq, Repr

/-- What is wrong with a key. -/
inductive KeyProblem where
  /-- Its file cannot be read. -/
  | unreadable
  /-- Its content is no key. -/
  | invalid (half : KeyHalf)
  /-- It is of a kind that is not supported. -/
  | unsupported (half : KeyHalf) (kind : ForeignKind)
  deriving DecidableEq, Repr

/-- A key that cannot be loaded from a source. -/
structure KeyError where
  problem : KeyProblem
  source : Text
  deriving DecidableEq, Repr

namespace ForeignKind

def name : ForeignKind → Text
  | .ellipticCurve => "EC".text
  | .x25519 => "X25519".text
  | .x448 => "X448".text
  | .ed448 => "Ed448".text
  | .dsa => "DSA".text
  | .agreement => "DH".text

end ForeignKind

namespace KeyHalf

/-- The word for a half inside a sentence. -/
def word : KeyHalf → Text
  | .signing => "private".text
  | .verifying => "public".text

/-- The word for a half inside the name of a kind of key. -/
def title : KeyHalf → Text
  | .signing => "Private".text
  | .verifying => "Public".text

end KeyHalf

namespace KeyError

/-- The message of a failure to load a key. -/
def message (error : KeyError) : Text :=
  match error.problem with
  | .unreadable => "Cannot read key file: ".text ++ error.source
  | .invalid half => "Invalid ".text ++ half.word ++ " key: ".text ++ error.source
  | .unsupported half kind =>
      "Unsupported key type: ".text ++ kind.name ++ half.title ++ "Key".text

end KeyError

namespace KeyFault

/-- The failure that a fault in the content of a source causes. -/
def error (half : KeyHalf) (source : Text) : KeyFault → KeyError
  | .invalid => ⟨.invalid half, source⟩
  | .unsupported kind => ⟨.unsupported half kind, source⟩

end KeyFault

/-- Loads a private key; a password must be given exactly for an encrypted key. -/
def PrivateKey.load (content : Bytes) (password : Option Bytes) (source : Text) :
    Except KeyError PrivateKey :=
  (PrivateKey.read content password).mapError (KeyFault.error .signing source)

/-- Loads a public key. -/
def PublicKey.load (content : Bytes) (source : Text) : Except KeyError PublicKey :=
  (PublicKey.read content).mapError (KeyFault.error .verifying source)

end LicenseSeal
