import LicenseSeal.Curve.Named
import LicenseSeal.Key.Der

/-!
# Algorithms of keys

What a key is for, by the identifier of its algorithm and the parameters that come with it.
-/

namespace LicenseSeal

/-- An algorithm: its identifier and the bytes of its parameters. -/
structure Algorithm where
  identifier : Bytes
  parameters : Bytes
  deriving DecidableEq, Repr

namespace Algorithm

/-- The algorithm in the content of an element. -/
def ofContent? (content : Bytes) : Option Algorithm :=
  (Der.identifier? content).map fun found => ⟨found.1, found.2⟩

/-- The algorithm at the front of bytes, and what follows. -/
def read? (bytes : Bytes) : Option (Algorithm × Bytes) := do
  let (content, rest) ← Der.element? .sequence bytes
  let algorithm ← ofContent? content
  some (algorithm, rest)

/-- The algorithm that bytes consist of. -/
def whole? (bytes : Bytes) : Option Algorithm :=
  (Der.whole? .sequence bytes).bind ofContent?

/-- Whether there are no parameters. -/
def isBare (algorithm : Algorithm) : Bool :=
  algorithm.parameters.isEmpty

/-- Whether there are no parameters, or an explicit absence. -/
def isPlain (algorithm : Algorithm) : Bool :=
  algorithm.isBare || Der.whole? .null algorithm.parameters = some []

end Algorithm

namespace Identifier

/-- What most algorithms of keys and signatures share in front of their own numbers. -/
private def standard (arcs : Bytes) : Bytes :=
  [0x2A, 0x86, 0x48, 0x86, 0xF7, 0x0D] ++ arcs

def rsa : Bytes := standard [0x01, 0x01, 0x01]

/-- RSA keys for signatures with salt. -/
def rsaSalted : Bytes := standard [0x01, 0x01, 0x0A]

/-- The mask of salted signatures. -/
def mask : Bytes := standard [0x01, 0x01, 0x08]

/-- Keys for the agreement on a secret. -/
def agreement : Bytes := standard [0x01, 0x03, 0x01]

/-- Keys for the agreement on a secret in a subgroup. -/
def subgroupAgreement : Bytes := [0x2A, 0x86, 0x48, 0xCE, 0x3E, 0x02, 0x01]

def dsa : Bytes := [0x2A, 0x86, 0x48, 0xCE, 0x38, 0x04, 0x01]

def ellipticCurve : Bytes := [0x2A, 0x86, 0x48, 0xCE, 0x3D, 0x02, 0x01]

/-- The integers modulo a prime, as the field of a curve. -/
def primeField : Bytes := [0x2A, 0x86, 0x48, 0xCE, 0x3D, 0x01, 0x01]

def x25519 : Bytes := [0x2B, 0x65, 0x6E]

def x448 : Bytes := [0x2B, 0x65, 0x6F]

def ed25519 : Bytes := [0x2B, 0x65, 0x70]

def ed448 : Bytes := [0x2B, 0x65, 0x71]

/-- The hash function SHA-1. -/
def sha1 : Bytes := [0x2B, 0x0E, 0x03, 0x02, 0x1A]

/-- The other hash functions, which take no parameters. -/
def hashes : List Bytes :=
  [1, 2, 3, 4, 7, 8, 9, 10].map fun last =>
    [0x60, 0x86, 0x48, 0x01, 0x65, 0x03, 0x04, 0x02, last]

end Identifier

namespace Curve

/-- The curves with their identifiers. -/
def named : List (Bytes × Curve) := [
  ([0x2A, 0x86, 0x48, 0xCE, 0x3D, 0x03, 0x01, 0x01], secp192r1),
  ([0x2A, 0x86, 0x48, 0xCE, 0x3D, 0x03, 0x01, 0x07], secp256r1),
  ([0x2B, 0x81, 0x04, 0x00, 0x21], secp224r1),
  ([0x2B, 0x81, 0x04, 0x00, 0x0A], secp256k1),
  ([0x2B, 0x81, 0x04, 0x00, 0x22], secp384r1),
  ([0x2B, 0x81, 0x04, 0x00, 0x23], secp521r1),
  ([0x2B, 0x24, 0x03, 0x03, 0x02, 0x08, 0x01, 0x01, 0x07], brainpoolP256r1),
  ([0x2B, 0x24, 0x03, 0x03, 0x02, 0x08, 0x01, 0x01, 0x0B], brainpoolP384r1),
  ([0x2B, 0x24, 0x03, 0x03, 0x02, 0x08, 0x01, 0x01, 0x0D], brainpoolP512r1)]

/-- The curves that may be given by all of their numbers, with the seeds of these. -/
def described : List (Curve × Bytes) := [
  (secp256r1, [0xC4, 0x9D, 0x36, 0x08, 0x86, 0xE7, 0x04, 0x93, 0x6A, 0x66, 0x78, 0xE1, 0x13, 0x9D,
    0x26, 0xB7, 0x81, 0x9F, 0x7E, 0x90]),
  (secp384r1, [0xA3, 0x35, 0x92, 0x6A, 0xA3, 0x19, 0xA2, 0x7A, 0x1D, 0x00, 0x89, 0x6A, 0x67, 0x73,
    0xA4, 0x82, 0x7A, 0xCD, 0xAC, 0x73]),
  (secp521r1, [0xD0, 0x9E, 0x88, 0x00, 0x29, 0x1C, 0xB8, 0x53, 0x96, 0xCC, 0x67, 0x17, 0x39, 0x32,
    0x84, 0xAA, 0xA0, 0xDA, 0x64, 0xBA])]

/-- The element that gives a curve by its numbers, with or without their seed. -/
def description (curve : Curve) (seed : Option Bytes) : Bytes :=
  let size := curve.coordinateSize
  let field := Der.write .objectIdentifier Identifier.primeField ++ Der.writeNatural curve.modulus
  let equation := Der.write .octetString (natBytes size curve.a)
    ++ Der.write .octetString (natBytes size curve.b)
    ++ (seed.map fun seed => Der.write .bitString (0 :: seed)).getD []
  let base := 4 :: natBytes size curve.baseX ++ natBytes size curve.baseY
  Der.write .sequence (Der.writeNatural 1 ++ Der.write .sequence field
    ++ Der.write .sequence equation ++ Der.write .octetString base
    ++ Der.writeNatural curve.order ++ Der.writeNatural 1)

/-- The curve that an element names or describes. -/
def ofElement? (element : Bytes) : Option Curve :=
  match Der.whole? .objectIdentifier element with
  | some name => (named.find? fun entry => entry.1 = name).map Prod.snd
  | none =>
      (described.find? fun entry =>
        element = description entry.1 none || element = description entry.1 (some entry.2)).map
          Prod.fst

end Curve

/-- What a key is for. -/
inductive KeyAlgorithm where
  | rsa
  | ed25519
  | ed448
  | x25519
  | x448
  | dsa
  | agreement
  /-- A curve that the parameters, an element, give. -/
  | ellipticCurve (parameters : Bytes)
  deriving DecidableEq, Repr

namespace KeyAlgorithm

/-- Whether an algorithm can be a hash function. -/
def isHash (algorithm : Algorithm) : Bool :=
  if algorithm.identifier = Identifier.sha1 || Identifier.hashes.contains algorithm.identifier then
    algorithm.isPlain
  else algorithm.isBare || (Der.anyElement? algorithm.parameters).any (·.2.isEmpty)

private def plainSha1 : Algorithm := ⟨Identifier.sha1, Der.write .null []⟩

/-- Whether bytes are a hash function that is not the default one. -/
private def isOtherHash (bytes : Bytes) : Bool :=
  (Algorithm.whole? bytes).any fun hash => isHash hash && hash ≠ plainSha1

/-- Whether bytes are a mask over a hash function that is not the default one. -/
private def isOtherMask (bytes : Bytes) : Bool :=
  (Algorithm.whole? bytes).any fun found =>
    (Algorithm.whole? found.parameters).any fun hash =>
      isHash hash && !(found.identifier = Identifier.mask && hash = plainSha1)

private def isOtherSaltLength (bytes : Bytes) : Bool :=
  match Der.naturalOfBits? 16 bytes with
  | some (length, []) => length ≠ 20
  | _ => false

private def isTrailer (bytes : Bytes) : Bool :=
  (Der.naturalOfBits? 8 bytes).any (·.2.isEmpty)

/-- Whether bytes are the parameters of salted signatures; none of them may state its default but
the last one. -/
def isSaltParameters (bytes : Bytes) : Bool :=
  (do
    let content ← Der.whole? .sequence bytes
    let (hash, content) ← Der.optional? (.context 0) content
    let (mask, content) ← Der.optional? (.context 1) content
    let (length, content) ← Der.optional? (.context 2) content
    let (trailer, content) ← Der.optional? (.context 3) content
    some (hash.all isOtherHash && mask.all isOtherMask && length.all isOtherSaltLength &&
      trailer.all isTrailer && content.isEmpty)).getD false

/-- Whether bytes are the prime, the subprime and the generator of a DSA key. -/
def isDsaParameters (bytes : Bytes) : Bool :=
  ((Der.whole? .sequence bytes).bind (Der.naturals? · 3)).isSome

/-- Whether bytes are a prime, a generator and perhaps the length of a secret. -/
def isAgreementParameters (bytes : Bytes) : Bool :=
  (do
    let content ← Der.whole? .sequence bytes
    let (_, content) ← Der.natural? content
    let (_, content) ← Der.natural? content
    let (_, content) ← Der.optionalNatural? 32 content
    some content.isEmpty).getD false

/-- Whether bytes are a prime, a generator, a subprime and perhaps a factor and how they were
found. -/
def isSubgroupParameters (bytes : Bytes) : Bool :=
  (do
    let content ← Der.whole? .sequence bytes
    let (_, content) ← Der.natural? content
    let (_, content) ← Der.natural? content
    let (_, content) ← Der.natural? content
    let content ← if content.head? = some Der.Tag.integer.byte then
        (Der.natural? content).map Prod.snd
      else some content
    let (_, content) ← Der.optional? .sequence content
    some content.isEmpty).getD false

def ofAlgorithm? (algorithm : Algorithm) : Option KeyAlgorithm :=
  let identifier := algorithm.identifier
  let parameters := algorithm.parameters
  let found (holds : Bool) (kind : KeyAlgorithm) : Option KeyAlgorithm :=
    if holds then some kind else none
  if identifier = Identifier.rsa then found algorithm.isPlain .rsa
  else if identifier = Identifier.rsaSalted then
    found (algorithm.isBare || isSaltParameters parameters) .rsa
  else if identifier = Identifier.ed25519 then found algorithm.isBare .ed25519
  else if identifier = Identifier.ed448 then found algorithm.isBare .ed448
  else if identifier = Identifier.x25519 then found algorithm.isBare .x25519
  else if identifier = Identifier.x448 then found algorithm.isBare .x448
  else if identifier = Identifier.dsa then found (isDsaParameters parameters) .dsa
  else if identifier = Identifier.agreement then
    found (isAgreementParameters parameters) .agreement
  else if identifier = Identifier.subgroupAgreement then
    found (isSubgroupParameters parameters) .agreement
  else if identifier = Identifier.ellipticCurve then some (.ellipticCurve parameters)
  else none

end KeyAlgorithm

end LicenseSeal
