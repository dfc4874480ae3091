import LicenseSeal.Text

/-!
# Encoding failures

Bytes that are no text of an encoding, and characters that an encoding has no bytes for.  Both
failures name the encoding, the range at fault and the reason.
-/

namespace LicenseSeal.Encoding

/-- Bytes from `start` up to `stop` that cannot be decoded, the first of them and the reason. -/
structure DecodeError where
  codec : String
  start : Nat
  stop : Nat
  first : UInt8
  reason : String
  deriving DecidableEq, Repr

/-- Characters from `start` up to `stop` that cannot be encoded, the first of them and the
reason. -/
structure EncodeError where
  codec : String
  start : Nat
  stop : Nat
  first : CodePoint
  reason : String
  deriving DecidableEq, Repr

namespace DecodeError

/-- The message of a decoding failure; a single byte is shown, a range is not. -/
def message (failure : DecodeError) : String :=
  let codec := failure.codec
  let start := failure.start
  let reason := failure.reason
  if failure.stop = start + 1 then
    let shown := Text.str (Text.hexDigits 2 failure.first.toNat)
    s!"'{codec}' codec can't decode byte 0x{shown} in position {start}: {reason}"
  else
    let last := failure.stop - 1
    s!"'{codec}' codec can't decode bytes in position {start}-{last}: {reason}"

end DecodeError

namespace EncodeError

/-- A character by the shortest hexadecimal escape that fits its code. -/
private def shownChar (c : CodePoint) : Text :=
  let code := c.toNat
  if code < 0x100 then '\\' :: 'x' :: Text.hexDigits 2 code
  else if code < 0x10000 then '\\' :: 'u' :: Text.hexDigits 4 code
  else '\\' :: 'U' :: Text.hexDigits 8 code

/-- The message of an encoding failure; a single character is shown, a range is not. -/
def message (failure : EncodeError) : String :=
  let codec := failure.codec
  let start := failure.start
  let reason := failure.reason
  if failure.stop = start + 1 then
    let shown := Text.str (shownChar failure.first)
    s!"'{codec}' codec can't encode character '{shown}' in position {start}: {reason}"
  else
    let last := failure.stop - 1
    s!"'{codec}' codec can't encode characters in position {start}-{last}: {reason}"

end EncodeError

end LicenseSeal.Encoding
