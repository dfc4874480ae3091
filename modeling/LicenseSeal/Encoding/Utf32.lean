import LicenseSeal.Encoding.ByteOrder
import LicenseSeal.Encoding.Surrogates

/-!
# UTF-32

A character is a number of four bytes.  The order of the bytes is fixed, or announced by a mark in
front of the text.
-/

namespace LicenseSeal.Encoding.Utf32

/-- The bytes of a text in a fixed order, also of surrogates. -/
def bytesOf (order : ByteOrder) (text : Text) : Bytes :=
  text.flatMap fun c => order.write 4 c.toNat

/-- The encoding's name in messages. -/
def codecName : ByteOrder → String
  | .littleEndian => "utf-32-le"
  | .bigEndian => "utf-32-be"

/-- The bytes of a text in a fixed order, or the failure of an encoding of a name. -/
def encode (codec : String) (order : ByteOrder) : Text → Except EncodeError Bytes :=
  checked codec false (bytesOf order)

/-- Why a number is no character's. -/
def fault? (code : Nat) : Option String :=
  if 0x10FFFF < code then some "code point not in range(0x110000)"
  else if 0xD800 ≤ code && code < 0xE000 then
    some "code point in surrogate code point range(0xd800, 0xe000)"
  else none

/-- Decodes bytes that stand at a position. -/
def decodeFrom (order : ByteOrder) (position : Nat) : Bytes → Except DecodeError Text
  | [] => .ok []
  | a :: b :: c :: d :: rest =>
      let code := order.read [a, b, c, d]
      match fault? code with
      | some reason => .error ⟨codecName order, position, position + 4, a, reason⟩
      | none => (decodeFrom order (position + 4) rest).map (CodePoint.ofNat code :: ·)
  | a :: rest =>
      .error ⟨codecName order, position, position + 1 + rest.length, a, "truncated data"⟩

/-- The mark in front of a text whose numbers have their low byte first. -/
def littleEndianMark : Bytes := [0xFF, 0xFE, 0, 0]

/-- The text of bytes in a fixed order. -/
def decode (order : ByteOrder) (bytes : Bytes) : Except DecodeError Text :=
  decodeFrom order 0 bytes

/-- The text of bytes whose order a mark announces; without a mark the low byte comes first. -/
def decodeMarked : Bytes → Except DecodeError Text
  | 0xFF :: 0xFE :: 0 :: 0 :: rest => decodeFrom .littleEndian 4 rest
  | 0 :: 0 :: 0xFE :: 0xFF :: rest => decodeFrom .bigEndian 4 rest
  | bytes => decodeFrom .littleEndian 0 bytes

end LicenseSeal.Encoding.Utf32
