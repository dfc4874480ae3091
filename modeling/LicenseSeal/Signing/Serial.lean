import LicenseSeal.Key
import LicenseSeal.Text.Base64

/-!
# Serials

A serial is the signature of a payload in base64.
-/

namespace LicenseSeal

/-- Why there is no serial. -/
inductive SerialError where
  /-- The key is too small for a digest. -/
  | smallKey
  deriving DecidableEq, Repr

/-- The message of a missing serial. -/
def SerialError.message : SerialError → Text
  | .smallKey =>
      ("Digest or salt length too long for key size. Use a larger key or shorter salt length " ++
        "if you are specifying a PSS salt").text

def PrivateKey.serial (key : PrivateKey) (payload : Bytes) : Except SerialError Text :=
  match key.sign? payload with
  | some signature => .ok (Base64.encode signature)
  | none => .error .smallKey

/-- Whether a serial holds a signature of a payload; an empty one does not. -/
def PublicKey.verifies (key : PublicKey) (payload : Bytes) (serial : Text) : Bool :=
  match Base64.decode? serial with
  | none => false
  | some signature => !signature.isEmpty && key.accepts payload signature

end LicenseSeal
