import LicenseSeal.Encoding.Error

/-!
# Encodings of one byte

An encoding of one byte is a charset: it numbers the characters that it has.  ASCII and Latin-1
number the first characters of Unicode by their code; any other charset agrees with them up to some
byte and has its own characters from there on.
-/

namespace LicenseSeal.Encoding

/-- An encoding that writes one byte for each character it has. -/
structure Charset where
  /-- The charset's name in messages. -/
  codecName : String
  /-- Why a character or a byte is outside the charset. -/
  reason : String
  /-- The bytes below stand for the characters with the same code. -/
  sameBelow : Nat
  /-- The characters of the bytes from there on, with `Charset.unused` where there is none. -/
  others : Text
  /-- No character stands beyond the last byte. -/
  fits : sameBelow + others.length ≤ 0x100
  deriving DecidableEq, Repr

/-- A charset under its own name, and the other names it goes by. -/
structure NamedCharset where
  name : String
  aliases : List String
  charset : Charset

namespace Charset

/-- What stands in a table for a byte without a character. -/
def unused : CodePoint := '□'

/-- A charset of which the characters from some byte on are listed, as far as there are bytes. -/
def table (sameBelow : Nat) (others : String) : Charset where
  codecName := "charmap"
  reason := "character maps to <undefined>"
  sameBelow := Nat.min sameBelow 0x100
  others := others.text.take (0x100 - sameBelow)
  fits := by
    rw [List.length_take]
    change min sameBelow 0x100 + _ ≤ 0x100
    omega

/-- The characters with seven bits. -/
def ascii : Charset := ⟨"ascii", "ordinal not in range(128)", 128, [], by decide⟩

/-- The characters with eight bits. -/
def latin1 : Charset := ⟨"latin-1", "ordinal not in range(256)", 256, [], by decide⟩

/-- The character that a byte stands for. -/
def charOf? (charset : Charset) (byte : UInt8) : Option CodePoint :=
  if byte.toNat < charset.sameBelow then some (CodePoint.ofNat byte.toNat)
  else (charset.others[byte.toNat - charset.sameBelow]?).filter (· ≠ unused)

/-- The place of the last occurrence of a character in a text. -/
def lastPlace? (c : CodePoint) (text : Text) : Option Nat :=
  (text.reverse.idxOf? c).map fun place => text.length - 1 - place

/-- The byte of a character, the last one if there are several. -/
def byteOf? (charset : Charset) (c : CodePoint) : Option UInt8 :=
  let other := if c = unused then none else lastPlace? c charset.others
  match other with
  | some place => some (UInt8.ofNat (charset.sameBelow + place))
  | none => if c.toNat < charset.sameBelow then some (UInt8.ofNat c.toNat) else none

/-- Encodes a text whose first character stands at a position; the failure covers the whole run of
characters without a byte. -/
def encodeFrom (charset : Charset) (position : Nat) : Text → Except EncodeError Bytes
  | [] => .ok []
  | c :: rest =>
      match charset.byteOf? c with
      | none =>
          let run := rest.takeWhile fun c => (charset.byteOf? c).isNone
          .error ⟨charset.codecName, position, position + 1 + run.length, c, charset.reason⟩
      | some byte =>
          match encodeFrom charset (position + 1) rest with
          | .error failure => .error failure
          | .ok bytes => .ok (byte :: bytes)

def encode (charset : Charset) (text : Text) : Except EncodeError Bytes :=
  encodeFrom charset 0 text

/-- Decodes bytes of which the first stands at a position. -/
def decodeFrom (charset : Charset) (position : Nat) : Bytes → Except DecodeError Text
  | [] => .ok []
  | byte :: rest =>
      match charset.charOf? byte with
      | none => .error ⟨charset.codecName, position, position + 1, byte, charset.reason⟩
      | some c =>
          match decodeFrom charset (position + 1) rest with
          | .error failure => .error failure
          | .ok text => .ok (c :: text)

def decode (charset : Charset) (bytes : Bytes) : Except DecodeError Text :=
  decodeFrom charset 0 bytes

end Charset

end LicenseSeal.Encoding
