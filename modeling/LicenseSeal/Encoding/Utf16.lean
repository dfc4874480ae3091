import LicenseSeal.Encoding.ByteOrder
import LicenseSeal.Encoding.Surrogates

/-!
# UTF-16

A character is one unit of two bytes, or two units for characters beyond U+FFFF.  The order of the
two bytes is fixed, or announced by a mark in front of the text.
-/

namespace LicenseSeal.Encoding.Utf16

/-- The units of a code point, also of a surrogate. -/
def units (c : CodePoint) : List Nat :=
  let code := c.toNat
  if code < 0x10000 then [code]
  else [0xD800 + (code - 0x10000) / 0x400, 0xDC00 + (code - 0x10000) % 0x400]

/-- The bytes of a text in a fixed order, also of surrogates. -/
def bytesOf (order : ByteOrder) (text : Text) : Bytes :=
  text.flatMap fun c => (units c).flatMap (order.write 2)

/-- The encoding's name in messages. -/
def codecName : ByteOrder → String
  | .littleEndian => "utf-16-le"
  | .bigEndian => "utf-16-be"

/-- The bytes of a text in a fixed order, or the failure of an encoding of a name. -/
def encode (codec : String) (order : ByteOrder) : Text → Except EncodeError Bytes :=
  checked codec false (bytesOf order)

/-- Puts a character in front of a decoded text. -/
private def consChar (code : Nat) : Except DecodeError Text → Except DecodeError Text
  | .ok text => .ok (CodePoint.ofNat code :: text)
  | .error failure => .error failure

/-- Decodes bytes that stand at a position. -/
def decodeFrom (order : ByteOrder) (position : Nat) : Bytes → Except DecodeError Text
  | [] => .ok []
  | [only] => .error ⟨codecName order, position, position + 1, only, "truncated data"⟩
  | a :: b :: rest =>
      let unit := order.read [a, b]
      if unit < 0xD800 ∨ 0xDFFF < unit then
        consChar unit (decodeFrom order (position + 2) rest)
      else if 0xDC00 ≤ unit then
        .error ⟨codecName order, position, position + 2, a, "illegal encoding"⟩
      else
        match rest with
        | c :: d :: rest =>
            let low := order.read [c, d]
            if 0xDC00 ≤ low ∧ low ≤ 0xDFFF then
              consChar (0x10000 + (unit - 0xD800) * 0x400 + (low - 0xDC00))
                (decodeFrom order (position + 4) rest)
            else .error ⟨codecName order, position, position + 2, a, "illegal UTF-16 surrogate"⟩
        | rest =>
            .error ⟨codecName order, position, position + 2 + rest.length, a,
              "unexpected end of data"⟩

/-- The mark in front of a text whose units have their low byte first. -/
def littleEndianMark : Bytes := [0xFF, 0xFE]

/-- The text of bytes in a fixed order. -/
def decode (order : ByteOrder) (bytes : Bytes) : Except DecodeError Text :=
  decodeFrom order 0 bytes

/-- The text of bytes whose order a mark announces; without a mark the low byte comes first. -/
def decodeMarked : Bytes → Except DecodeError Text
  | 0xFF :: 0xFE :: rest => decodeFrom .littleEndian 2 rest
  | 0xFE :: 0xFF :: rest => decodeFrom .bigEndian 2 rest
  | bytes => decodeFrom .littleEndian 0 bytes

end LicenseSeal.Encoding.Utf16
