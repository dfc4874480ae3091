import LicenseSeal.Text

/-!
# Blank characters

Three classes of blanks occur: the white space of Unicode with the separators of information, which
a text may carry around a placeholder's name or around an option's value; the white space of Unicode
alone, which key material may carry anywhere; and the white space of ASCII, which is all that raw
bytes can have.
-/

namespace LicenseSeal.Text

/-- White space of Unicode, the four information separators U+001C to U+001F included. -/
def isBlank (c : CodePoint) : Bool :=
  let code := c.toNat
  (0x09 ≤ code && code ≤ 0x0D) || (0x1C ≤ code && code ≤ 0x20) || code == 0x85 || code == 0xA0
    || code == 0x1680 || (0x2000 ≤ code && code ≤ 0x200A) || code == 0x2028 || code == 0x2029
    || code == 0x202F || code == 0x205F || code == 0x3000

/-- White space of Unicode alone. -/
def isWhiteSpace (c : CodePoint) : Bool :=
  isBlank c && !(0x1C ≤ c.toNat && c.toNat ≤ 0x1F)

/-- A byte that is white space of ASCII. -/
def isBlankByte (byte : UInt8) : Bool :=
  (0x09 ≤ byte && byte ≤ 0x0D) || byte == 0x20

end LicenseSeal.Text
