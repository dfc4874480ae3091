import LicenseSeal.Key
import LicenseSeal.Key.Encryption

/-!
# Reading keys

`PrivateKey.read` and `PublicKey.read` take a key from content that holds it in a labelled block,
plain or encrypted with a password.  Keys of kinds that cannot sign here are recognised and
refused by kind.
-/

namespace LicenseSeal

/-- A kind of key that is recognised and not supported. -/
inductive ForeignKind where
  | ellipticCurve
  | x25519
  | x448
  | ed448
  | dsa
  | agreement
  deriving DecidableEq, Repr

/-- Why content gives no key. -/
inductive KeyFault where
  /-- There is no usable block, its content is malformed, or its password does not fit. -/
  | invalid
  /-- It holds a key of a kind that is not supported. -/
  | unsupported (kind : ForeignKind)
  deriving DecidableEq, Repr

namespace Key

/-- A recognised key of an unsupported kind, if it is well formed. -/
def foreign {α : Type} (kind : ForeignKind) (wellFormed : Bool) : Except KeyFault α :=
  if wellFormed then .error (.unsupported kind) else .error .invalid

/-- A recognised key of a supported kind, if it is well formed. -/
def usable {α β : Type} (wrap : α → β) (found : Option α) : Except KeyFault β :=
  match found with
  | some key => .ok (wrap key)
  | none => .error .invalid

/-- Whether the parts of a private key fit together. -/
def consistent (n e d p q dp dq inverse : Nat) : Bool :=
  p % 2 = 1 && q % 2 = 1 && isProbablePrime p && isProbablePrime q && p * q = n &&
    e % 2 = 1 && 1 < e && d * e % (p - 1) = 1 % (p - 1) && d * e % (q - 1) = 1 % (q - 1) &&
    dp = d % (p - 1) && dq = d % (q - 1) && inverse < p && inverse * q % p = 1

/-- A private key with its parts in a sequence. -/
def rsaPrivate? (bytes : Bytes) : Option Rsa.PrivateKey := do
  let content ← Der.whole? .sequence bytes
  match ← Der.naturals? content 9 with
  | [0, n, e, d, p, q, dp, dq, inverse] =>
      if consistent n e d p q dp dq inverse then some ⟨n, e, d⟩ else none
  | _ => none

/-- The two parts of a public key in a sequence. -/
def rsaPublicParts? (bytes : Bytes) : Option Rsa.PublicKey := do
  let content ← Der.whole? .sequence bytes
  match ← Der.naturals? content 2 with
  | [n, e] => some ⟨n, e⟩
  | _ => none

/-- Whether the exponent of a public key is odd, above one and below the modulus. -/
def isProper (key : Rsa.PublicKey) : Bool :=
  key.exponent % 2 = 1 && 1 < key.exponent && key.exponent < key.modulus

/-- A public key of two parts. -/
def rsaPublic (parts : Option Rsa.PublicKey) : Except KeyFault PublicKey :=
  usable .rsa (parts.filter isProper)

/-- The element that gives the curve of a key: a given one and the key's own one agree. -/
def agreed? (given own : Option Bytes) : Option Bytes :=
  match given, own with
  | some given, some own => if given = own then some given else none
  | given, own => given.or own

/-- Whether bytes are the secret of an elliptic curve key, perhaps with its point, where the
element that gives the curve is its own or a given one. -/
def isCurveSecret (given : Option Bytes) (bytes : Bytes) : Bool :=
  (do
    let content ← Der.whole? .sequence bytes
    let (version, content) ← Der.natural? content
    let (secret, content) ← Der.element? .octetString content
    let (own, content) ← Der.optional? (.context 0) content
    let (point, content) ← Der.optional? (.context 1) content
    let curve ← (agreed? given own).bind Curve.ofElement?
    let number := natOfBytes secret
    let fits (point : Bytes) : Bool :=
      (Der.wholeBits? point).any (curve.matchesSecret number)
    some (version = 1 && content.isEmpty && secret.length = (bitLength curve.order + 7) / 8 &&
      curve.isSecret number && point.all fits)).getD false

/-- Whether bytes are the five numbers of a DSA key behind a version. -/
def isDsaSecret (bytes : Bytes) : Bool :=
  ((Der.whole? .sequence bytes).bind (Der.naturals? · 6)).any fun numbers => numbers.head? = some 0

/-- The seed of a key whose content is an element of its own. -/
def seed? (size : Nat) (bytes : Bytes) : Option Bytes :=
  (Der.whole? .octetString bytes).filter fun seed => seed.length = size

def ofPrivateParts (algorithm : KeyAlgorithm) (key : Bytes) : Except KeyFault PrivateKey :=
  match algorithm with
  | .rsa => usable .rsa (rsaPrivate? key)
  | .ed25519 => usable .ed25519 (seed? 32 key)
  | .ed448 => foreign .ed448 (seed? 57 key).isSome
  | .x25519 => foreign .x25519 (seed? 32 key).isSome
  | .x448 => foreign .x448 (seed? 56 key).isSome
  | .dsa => foreign .dsa (Der.wholeNatural? key).isSome
  | .agreement => foreign .agreement (Der.wholeNatural? key).isSome
  | .ellipticCurve parameters => foreign .ellipticCurve (isCurveSecret (some parameters) key)

/-- Whether an element is an attribute: an identifier with a set of values. -/
def isAttribute (element : Bytes) : Bool :=
  (do
    let content ← Der.whole? .sequence element
    let (_, values) ← Der.identifier? content
    let values ← Der.whole? .set values
    Der.members? values).isSome

/-- The algorithm and the key bytes of private key information; attributes may follow. -/
def privateParts? (bytes : Bytes) : Option (KeyAlgorithm × Bytes) := do
  let content ← Der.whole? .sequence bytes
  let (version, content) ← Der.natural? content
  let (algorithm, content) ← Algorithm.read? content
  let (key, content) ← Der.element? .octetString content
  let (attributes, content) ← Der.optional? (.context 0) content
  let attributes ← Der.members? (attributes.getD [])
  let algorithm ← KeyAlgorithm.ofAlgorithm? algorithm
  if version = 0 && content.isEmpty && attributes.all isAttribute then some (algorithm, key)
  else none

def ofPrivateInformation (bytes : Bytes) : Except KeyFault PrivateKey :=
  match privateParts? bytes with
  | none => .error .invalid
  | some (algorithm, key) => ofPrivateParts algorithm key

def ofPublicParts (algorithm : KeyAlgorithm) (key : Bytes) : Except KeyFault PublicKey :=
  match algorithm with
  | .rsa => rsaPublic (rsaPublicParts? key)
  | .ed25519 => usable .ed25519 (if key.length = 32 then some key else none)
  | .ed448 => foreign .ed448 (key.length = 57)
  | .x25519 => foreign .x25519 (key.length = 32)
  | .x448 => foreign .x448 (key.length = 56)
  | .dsa => foreign .dsa (Der.wholeNatural? key).isSome
  | .agreement => foreign .agreement (Der.wholeNatural? key).isSome
  | .ellipticCurve parameters =>
      foreign .ellipticCurve ((Curve.ofElement? parameters).any (·.isWritten key))

/-- The algorithm and the key bytes of public key information. -/
def publicParts? (bytes : Bytes) : Option (KeyAlgorithm × Bytes) := do
  let content ← Der.whole? .sequence bytes
  let (algorithm, content) ← Algorithm.read? content
  let key ← Der.wholeBits? content
  let algorithm ← KeyAlgorithm.ofAlgorithm? algorithm
  some (algorithm, key)

def ofPublicInformation (bytes : Bytes) : Except KeyFault PublicKey :=
  match publicParts? bytes with
  | none => .error .invalid
  | some (algorithm, key) => ofPublicParts algorithm key

/-- An RSA key by its two parts or in public key information. -/
def ofRsaPublic (bytes : Bytes) : Except KeyFault PublicKey :=
  match rsaPublicParts? bytes, publicParts? bytes with
  | none, some (.rsa, key) => rsaPublic (rsaPublicParts? key)
  | parts, _ => rsaPublic parts

/-- What a block with a private key holds. -/
inductive PrivateLabel where
  | information
  | encryptedInformation
  | rsa
  | ellipticCurve
  | dsa
  deriving DecidableEq, Repr

/-- What a block of a label holds, if that is a private key. -/
def PrivateLabel.ofText? (label : Text) : Option PrivateLabel :=
  let labels := [("PRIVATE KEY", information), ("ENCRYPTED PRIVATE KEY", encryptedInformation),
    ("RSA PRIVATE KEY", rsa), ("EC PRIVATE KEY", ellipticCurve), ("DSA PRIVATE KEY", dsa)]
  (labels.find? fun entry => entry.1.text = label).map Prod.snd

/-- The first block with a private key. -/
def privateBlock? (content : Bytes) : Option (PrivateLabel × Pem.Block) := do
  let blocks ← Pem.blocks? content
  blocks.findSome? fun block =>
    (PrivateLabel.ofText? block.label).map fun label => (label, block)

/-- The content of a block, and whether it took a password to read it. -/
def openBlock? (block : Pem.Block) (password : Option Bytes) : Option (Bytes × Bool) :=
  match block.header? "Proc-Type" with
  | none => some (block.content, false)
  | some form =>
      if form = "4,ENCRYPTED".text then do
        let password ← password
        let content ← decryptedBlock? block password
        some (content, true)
      else none

/-- The private key in the content of a block. -/
def ofLabelled (label : PrivateLabel) (content : Bytes) (password : Option Bytes) :
    Except KeyFault PrivateKey :=
  match label with
  | .information => ofPrivateInformation content
  | .encryptedInformation =>
      match password.bind (decrypted? content) with
      | none => .error .invalid
      | some information => ofPrivateInformation information
  | .rsa => usable .rsa (rsaPrivate? content)
  | .ellipticCurve => foreign .ellipticCurve (isCurveSecret none content)
  | .dsa => foreign .dsa (isDsaSecret content)

end Key

/-- The private key in content; a password must be given exactly for an encrypted key. -/
def PrivateKey.read (content : Bytes) (password : Option Bytes) : Except KeyFault PrivateKey :=
  match Key.privateBlock? content with
  | none => .error .invalid
  | some (label, block) =>
      match Key.openBlock? block password with
      | none => .error .invalid
      | some (content, isOpened) =>
          if password.isSome && !isOpened && label ≠ .encryptedInformation then .error .invalid
          else Key.ofLabelled label content password

namespace PublicKey

/-- The words that mark content as holding a private key. -/
def privateMark : Bytes :=
  "PRIVATE KEY".text.map fun c => UInt8.ofNat c.toNat

/-- The public key in content: that of its first block, or, if private keys are mentioned
anywhere, the public half of its private key. -/
def read (content : Bytes) : Except KeyFault PublicKey :=
  if (Text.cutAt? privateMark content).isSome then
    (PrivateKey.read content none).map PrivateKey.publicKey
  else
    match Pem.firstBlock? content with
    | none => .error .invalid
    | some block =>
        if block.label = "PUBLIC KEY".text then Key.ofPublicInformation block.content
        else if block.label = "RSA PUBLIC KEY".text then Key.ofRsaPublic block.content
        else .error .invalid

end PublicKey

end LicenseSeal
