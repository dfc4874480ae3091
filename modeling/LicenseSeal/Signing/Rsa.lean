import LicenseSeal.Hash.Sha256
import LicenseSeal.Number.Modular

/-!
# RSA signatures

A message's SHA-256 digest is padded to the length of the modulus, which must have room for it, and
raised to the private exponent.  A signature is accepted if it has the length of the modulus, is
below the modulus, and its power with the public exponent is exactly the padded digest.
-/

namespace LicenseSeal.Rsa

/-- The public half of a key. -/
structure PublicKey where
  modulus : Nat
  exponent : Nat
  deriving DecidableEq, Repr

/-- A key that signs. -/
structure PrivateKey where
  modulus : Nat
  publicExponent : Nat
  privateExponent : Nat
  deriving DecidableEq, Repr

/-- The public half of a key that signs. -/
def PrivateKey.publicKey (key : PrivateKey) : PublicKey :=
  ⟨key.modulus, key.publicExponent⟩

/-- The number of bytes of a modulus. -/
def size (modulus : Nat) : Nat :=
  (bitLength modulus + 7) / 8

/-- The encoding of a SHA-256 digest up to the digest itself. -/
def digestHeader : Bytes :=
  [0x30, 0x31, 0x30, 0x0d, 0x06, 0x09, 0x60, 0x86, 0x48, 0x01, 0x65, 0x03, 0x04, 0x02, 0x01, 0x05,
    0x00, 0x04, 0x20]

/-- A message's digest padded to a number of bytes, at least eight of which fill it up. -/
def paddedDigest? (size : Nat) (message : Bytes) : Option Bytes :=
  let info := digestHeader ++ Sha256.digest message
  if size < info.length + 11 then none
  else some (0x00 :: 0x01 :: List.replicate (size - 3 - info.length) 0xFF ++ 0x00 :: info)

/-- The signature of a message, if the modulus has room for its digest. -/
def sign? (key : PrivateKey) (message : Bytes) : Option Bytes :=
  let size := size key.modulus
  (paddedDigest? size message).map fun padded =>
    natBytes size (powMod key.modulus (natOfBytes padded) key.privateExponent)

theorem ne_nil_of_sign? {key : PrivateKey} {message signature : Bytes}
    (signs : sign? key message = some signature) : signature ≠ [] := by
  obtain ⟨padded, room, rfl⟩ := Option.map_eq_some_iff.mp signs
  intro empty
  have length := congrArg List.length empty
  rw [length_natBytes] at length
  rw [paddedDigest?, length, if_pos (by simp)] at room
  cases room

/-- Whether signatures are checked with a key at all: its modulus is odd and not too long, and its
exponent is smaller, and short where the modulus is long. -/
def PublicKey.isUsable (key : PublicKey) : Bool :=
  let bits := bitLength key.modulus
  key.modulus % 2 = 1 && bits ≤ 16384 && key.exponent < key.modulus &&
    (bits ≤ 3072 || bitLength key.exponent ≤ 64)

def verify (key : PublicKey) (message signature : Bytes) : Bool :=
  let size := size key.modulus
  let number := natOfBytes signature
  key.isUsable && signature.length = size && decide (number < key.modulus) &&
    paddedDigest? size message = some (natBytes size (powMod key.modulus number key.exponent))

end LicenseSeal.Rsa
