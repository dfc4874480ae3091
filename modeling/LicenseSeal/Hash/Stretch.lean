import LicenseSeal.Hash.Md5
import LicenseSeal.Hash.Sha1

/-!
# Keys from passwords by plain hashing

Older ways to derive a key from a password, which hash the password and a salt over and over.
-/

namespace LicenseSeal.Stretch

/-- The digest of an input, hashed again up to a number of times. -/
private def repeated {State : Type} (function : HashFunction State) :
    (count : Nat) → (input : Bytes) → Bytes
  | 0, input => input
  | count + 1, input => repeated function count (function.digest input)

/-- The digest of a password and a salt after a number of rounds, at least one. -/
def single {State : Type} (function : HashFunction State) (password salt : Bytes)
    (rounds : Nat) : Bytes :=
  repeated function (max rounds 1) (password ++ salt)

/-- The digests of a chain, each of the one before it with the password and the salt. -/
private def chain (password salt : Bytes) : (count : Nat) → (previous : Bytes) → Bytes
  | 0, _ => []
  | count + 1, previous =>
      let next := Md5.function.digest (previous ++ password ++ salt)
      next ++ chain password salt count next

/-- A key of `size` bytes from a chain of digests. -/
def chained (password salt : Bytes) (size : Nat) : Bytes :=
  (chain password salt ((size + 15) / 16) []).take size

/-- Bytes repeated up to a multiple of a length. -/
private def filled (length : Nat) (bytes : Bytes) : Bytes :=
  if bytes.isEmpty then []
  else
    let size := (bytes.length + length - 1) / length * length
    ((List.replicate size bytes).flatten).take size

/-- The blocks of an input, each with a digest and one added to it. -/
private def stirred (length : Nat) (input digest : Bytes) : Bytes :=
  let sum := natOfBytes ((filled length digest).take length) + 1
  (chunks length input).flatMap fun block => natBytes length (natOfBytes block + sum)

/-- The digests of an input that is stirred by each of them. -/
private def digests (purpose : UInt8) (rounds : Nat) : (count : Nat) → (input : Bytes) → Bytes
  | 0, _ => []
  | count + 1, input =>
      let length := Sha1.function.blockSize
      let digest := single Sha1.function (List.replicate length purpose) input rounds
      digest ++ digests purpose rounds count (stirred length input digest)

/-- Bytes of a `size` for a purpose; the password is given in units of two bytes. -/
def stirredKey (purpose : UInt8) (password salt : Bytes) (rounds size : Nat) : Bytes :=
  let length := Sha1.function.blockSize
  let input := filled length salt ++ filled length password
  (digests purpose rounds ((size + 19) / 20) input).take size

end LicenseSeal.Stretch
