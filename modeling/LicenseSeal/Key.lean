import LicenseSeal.Signing.Ed25519
import LicenseSeal.Signing.Rsa

/-!
# Keys

A private key signs payloads, its public half verifies signatures.
-/

namespace LicenseSeal

/-- A key that verifies signatures. -/
inductive PublicKey where
  | rsa (key : Rsa.PublicKey)
  /-- The 32 bytes of a point. -/
  | ed25519 (point : Bytes)
  deriving DecidableEq, Repr

/-- A key that signs. -/
inductive PrivateKey where
  | rsa (key : Rsa.PrivateKey)
  /-- The 32 bytes that the key is derived from. -/
  | ed25519 (seed : Bytes)
  deriving DecidableEq, Repr

namespace PrivateKey

/-- The public half of a key. -/
def publicKey : PrivateKey → PublicKey
  | .rsa key => .rsa key.publicKey
  | .ed25519 seed => .ed25519 (Ed25519.publicKey seed)

/-- The signature of a payload, if the key is large enough for it. -/
def sign? (key : PrivateKey) (payload : Bytes) : Option Bytes :=
  match key with
  | .rsa key => Rsa.sign? key payload
  | .ed25519 seed => some (Ed25519.sign seed payload)

end PrivateKey

namespace PublicKey

def accepts (key : PublicKey) (payload signature : Bytes) : Bool :=
  match key with
  | .rsa key => Rsa.verify key payload signature
  | .ed25519 point => Ed25519.verify point payload signature

end PublicKey

end LicenseSeal
