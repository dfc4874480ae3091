import LicenseSeal.Cipher.Aes
import LicenseSeal.Cipher.Des
import LicenseSeal.Encoding.Utf16
import LicenseSeal.Hash.Scrypt
import LicenseSeal.Hash.Sha512
import LicenseSeal.Hash.Stretch
import LicenseSeal.Key.Algorithm
import LicenseSeal.Key.Pem

/-!
# Encrypted keys

A key is encrypted with a password either inside its own content, which then says how, or by its
block, whose headers say how.
-/

namespace LicenseSeal.Key

/-- The bytes of the one octet string that bytes consist of, if it has a length. -/
private def octets? (length : Nat) (bytes : Bytes) : Option Bytes :=
  (Der.whole? .octetString bytes).filter fun found => found.length = length

namespace Scheme

/-- What the schemes of common standards share in front of their own numbers. -/
private def standard (arcs : Bytes) : Bytes :=
  [0x2A, 0x86, 0x48, 0x86, 0xF7, 0x0D] ++ arcs

/-- A derivation and a cipher, named apart. -/
private def composed : Bytes := standard [0x01, 0x05, 0x0D]

/-- The derivation by keyed hashing. -/
private def repeatedHash : Bytes := standard [0x01, 0x05, 0x0C]

/-- The derivation that needs memory. -/
private def memoryHard : Bytes := [0x2B, 0x06, 0x01, 0x04, 0x01, 0xDA, 0x47, 0x04, 0x0B]

/-- The keyed hash of SHA-1, and, by the last byte, those of its successors. -/
private def keyedHash (last : UInt8) : Bytes := standard [0x02, last]

/-- The older scheme with the cipher DES. -/
private def olderSingle : Bytes := standard [0x01, 0x05, 0x03]

/-- The older scheme with the cipher DES three times over. -/
private def olderTriple : Bytes := standard [0x01, 0x0C, 0x01, 0x03]

/-- The cipher DES three times over. -/
private def triple : Bytes := standard [0x03, 0x07]

/-- The cipher AES; the last byte tells the size of its keys. -/
private def aes (last : UInt8) : Bytes :=
  [0x60, 0x86, 0x48, 0x01, 0x65, 0x03, 0x04, 0x01, last]

/-- The cipher of an algorithm, and what its first block is mixed with. -/
private def cipher? (algorithm : Algorithm) : Option (BlockCipher × Bytes) :=
  let ciphers := [(aes 0x02, Aes.cipher 16), (aes 0x16, Aes.cipher 24), (aes 0x2A, Aes.cipher 32),
    (triple, Des.tripleCipher)]
  match ciphers.find? fun entry => entry.1 = algorithm.identifier with
  | none => none
  | some (_, cipher) =>
      (octets? cipher.blockSize algorithm.parameters).map fun start => (cipher, start)

/-- A key of `size` bytes derived from a password with the keyed hash of an algorithm. -/
private def hashedKey? (hash : Algorithm) (password salt : Bytes) (rounds size : Nat) :
    Option Bytes :=
  let identifier := hash.identifier
  if !hash.isPlain || rounds = 0 then none
  else if identifier = keyedHash 0x07 then
    some (Hmac.derive Sha1.function password salt rounds size)
  else if identifier = keyedHash 0x08 then
    some (Hmac.derive Sha224.function password salt rounds size)
  else if identifier = keyedHash 0x09 then
    some (Hmac.derive Sha256.function password salt rounds size)
  else if identifier = keyedHash 0x0A then
    some (Hmac.derive Sha384.function password salt rounds size)
  else if identifier = keyedHash 0x0B then
    some (Hmac.derive Sha512.function password salt rounds size)
  else none

/-- The keyed hash in bytes; there is a default one, which must not be stated. -/
private def keyedHash? (bytes : Bytes) : Option Algorithm :=
  let default : Algorithm := ⟨keyedHash 0x07, Der.write .null []⟩
  if bytes.isEmpty then some default
  else (Algorithm.whole? bytes).filter (· ≠ default)

/-- The key of `size` bytes that parameters for keyed hashing give. -/
private def repeatedKey? (parameters password : Bytes) (size : Nat) : Option Bytes := do
  let content ← Der.whole? .sequence parameters
  let (salt, content) ← Der.element? .octetString content
  let (rounds, content) ← Der.naturalOfBits? 64 content
  let (_, content) ← Der.optionalNatural? 64 content
  let hash ← keyedHash? content
  hashedKey? hash password salt rounds size

/-- The key of `size` bytes that parameters of the derivation that needs memory give. -/
private def memoryHardKey? (parameters password : Bytes) (size : Nat) : Option Bytes := do
  let content ← Der.whole? .sequence parameters
  let (salt, content) ← Der.element? .octetString content
  let (table, content) ← Der.naturalOfBits? 64 content
  let (pairs, content) ← Der.naturalOfBits? 64 content
  let (lanes, content) ← Der.naturalOfBits? 64 content
  let (_, content) ← Der.optionalNatural? 32 content
  let cost : Scrypt.Cost := ⟨table, pairs, lanes⟩
  if content.isEmpty && cost.isValid then some (Scrypt.derive cost password salt size) else none

/-- What a derivation and a cipher, named apart, decrypt. -/
private def decryptComposed? (parameters password secret : Bytes) : Option Bytes := do
  let content ← Der.whole? .sequence parameters
  let (derivation, content) ← Algorithm.read? content
  let cipher ← Algorithm.whole? content
  let (cipher, start) ← cipher? cipher
  let key ←
    if derivation.identifier = repeatedHash then
      repeatedKey? derivation.parameters password cipher.keySize
    else if derivation.identifier = memoryHard then
      memoryHardKey? derivation.parameters password cipher.keySize
    else none
  cipher.decrypt? key start secret

/-- The salt and the number of rounds of an older scheme. -/
private def olderParameters? (bytes : Bytes) : Option (Bytes × Nat) := do
  let content ← Der.whole? .sequence bytes
  let (salt, content) ← Der.element? .octetString content
  let (rounds, content) ← Der.naturalOfBits? 64 content
  if content.isEmpty then some (salt, rounds) else none

/-- What the older scheme with DES decrypts. -/
private def decryptSingle? (parameters password secret : Bytes) : Option Bytes := do
  let (salt, rounds) ← olderParameters? parameters
  let digest := Stretch.single Md5.function password salt rounds
  if salt.length = 8 then Des.cipher.decrypt? (digest.take 8) (digest.drop 8) secret else none

/-- What the older scheme with DES three times over decrypts. -/
private def decryptTriple? (parameters password secret : Bytes) : Option Bytes := do
  let (salt, rounds) ← olderParameters? parameters
  let text ← Encoding.Utf8.decode? password
  let units := Encoding.Utf16.bytesOf .bigEndian text ++ [0, 0]
  let key := Stretch.stirredKey 1 units salt rounds 24
  let start := Stretch.stirredKey 2 units salt rounds 8
  Des.tripleCipher.decrypt? key start secret

def decrypt? (scheme : Algorithm) (password secret : Bytes) : Option Bytes :=
  if scheme.identifier = composed then decryptComposed? scheme.parameters password secret
  else if scheme.identifier = olderSingle then decryptSingle? scheme.parameters password secret
  else if scheme.identifier = olderTriple then decryptTriple? scheme.parameters password secret
  else none

end Scheme

/-- The private key information that a password decrypts; the password is not empty. -/
def decrypted? (bytes password : Bytes) : Option Bytes := do
  let content ← Der.whole? .sequence bytes
  let (scheme, content) ← Algorithm.read? content
  let secret ← Der.whole? .octetString content
  if password.isEmpty then none else Scheme.decrypt? scheme password secret

/-- The cipher of a name in a block's headers. -/
private def blockCipher? (name : Text) : Option BlockCipher :=
  let ciphers := [("AES-128-CBC", Aes.cipher 16), ("AES-192-CBC", Aes.cipher 24),
    ("AES-256-CBC", Aes.cipher 32), ("DES-EDE3-CBC", Des.tripleCipher)]
  (ciphers.find? fun entry => entry.1.text = name).map Prod.snd

/-- The content of a block that is encrypted as its headers say; the password is not empty. -/
def decryptedBlock? (block : Pem.Block) (password : Bytes) : Option Bytes := do
  let form ← block.header? "DEK-Info"
  let (name, start) ← Text.cutAt? ",".text form
  let cipher ← blockCipher? name
  let start ← Text.bytes? start
  let key := Stretch.chained password (start.take 8) cipher.keySize
  if password.isEmpty then none else cipher.decrypt? key start block.content

end LicenseSeal.Key
