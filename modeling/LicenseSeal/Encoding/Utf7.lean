import LicenseSeal.Encoding.Utf16
import LicenseSeal.Text.Base64

/-!
# UTF-7

A text in bytes of seven bits.  Most characters of ASCII stand for themselves; a run of others is
written between a plus and a hyphen, as the digits in base 64 of its UTF-16, in which a surrogate
can stand alone.  A plus alone is written with a hyphen behind it.
-/

namespace LicenseSeal.Encoding.Utf7

/-- A character that stands for itself. -/
def isDirect (c : CodePoint) : Bool :=
  c = '\t' || c = '\n' || c = '\r'
    || (0x20 ≤ c.toNat && c.toNat ≤ 0x7D && c ≠ '+' && c ≠ '\\')

/-- A digit of base 64. -/
def isDigit64 (c : CodePoint) : Bool :=
  (Base64.value? c).isSome

/-- A run of characters in base 64. -/
def shifted (run : Text) : Text :=
  '+' :: (Base64.encode (Utf16.bytesOf .bigEndian run)).filter (· ≠ '=')

/-- The hyphen behind a run, unless the next character shows by itself that the run has ended. -/
def ending : Text → Text
  | [] => ['-']
  | c :: _ => if isDigit64 c || c = '-' then ['-'] else []

/-- The characters that a text is written with. -/
def write : Text → Text
  | [] => []
  | c :: rest =>
      if c = '+' then '+' :: '-' :: write rest
      else if isDirect c then c :: write rest
      else
        let run := c :: rest.takeWhile fun c => !isDirect c
        let behind := rest.dropWhile fun c => !isDirect c
        shifted run ++ ending behind ++ write behind
termination_by text => text.length
decreasing_by
  · simp only [List.length_cons]; omega
  · simp only [List.length_cons]; omega
  · have shorter : (rest.dropWhile fun c => !isDirect c).length ≤ rest.length :=
      (List.dropWhile_sublist _).length_le
    simp only [List.length_cons]
    omega

def encode (text : Text) : Bytes :=
  (write text).map fun c => UInt8.ofNat c.toNat

/-- What the digits behind a plus write: whole units, and the number and the value of the bits that
are left. -/
structure Section where
  units : List Nat
  bits : Nat
  rest : Nat

/-- Reads digits, of which some bits may be left from others. -/
def readSection (bits rest : Nat) : List Nat → Section
  | [] => ⟨[], bits, rest⟩
  | digit :: digits =>
      let bits := bits + 6
      let rest := rest * 0x40 + digit
      if bits < 16 then readSection bits rest digits
      else
        let unread := Nat.pow 2 (bits - 16)
        let later := readSection (bits - 16) (rest % unread) digits
        { later with units := rest / unread :: later.units }

/-- Whether a unit is the first one of a pair. -/
def isHigh (unit : Nat) : Bool :=
  0xD800 ≤ unit && unit < 0xDC00

/-- Whether a unit is the second one of a pair. -/
def isLow (unit : Nat) : Bool :=
  0xDC00 ≤ unit && unit < 0xE000

/-- The code points of units: a unit of a pair that stands alone is a surrogate. -/
def charsOf : List Nat → Text
  | [] => []
  | [unit] => [CodePoint.ofNat unit]
  | unit :: low :: units =>
      if isHigh unit && isLow low then
        CodePoint.ofNat (0x10000 + (unit - 0xD800) * 0x400 + (low - 0xDC00)) :: charsOf units
      else CodePoint.ofNat unit :: charsOf (low :: units)

/-- Whether the last unit waits for the second one of its pair. -/
def isOpen (units : List Nat) : Bool :=
  units.getLast?.any isHigh

/-- What is wrong with the bits that are left when other characters follow. -/
def leftOver? (found : Section) : Option String :=
  if 6 ≤ found.bits then some "partial character in shift sequence"
  else if found.rest ≠ 0 then some "non-zero padding bits in shift sequence"
  else none

/-- Decodes characters of which the first stands at a position; each of them is a byte. -/
def readFrom (fuel position : Nat) (text : Text) : Except DecodeError Text :=
  let failure (stop : Nat) (first : CodePoint) (reason : String) : DecodeError :=
    ⟨"utf7", position, stop, UInt8.ofNat first.toNat, reason⟩
  match fuel, text with
  | _, [] | 0, _ => .ok []
  | fuel + 1, c :: rest =>
      if c ≠ '+' then
        if c.toNat < 0x80 then (readFrom fuel (position + 1) rest).map (c :: ·)
        else .error (failure (position + 1) c "unexpected special character")
      else if rest.head? = some (.char '-') then
        (readFrom fuel (position + 2) (rest.drop 1)).map ('+' :: ·)
      else
        let (digits, behind) := Base64.digits rest
        let found := readSection 0 0 digits
        let stop := position + 1 + digits.length
        match behind with
        | [] =>
            if isOpen found.units || (leftOver? found).isSome then
              .error (failure stop c "unterminated shift sequence")
            else .ok (charsOf found.units)
        | next :: after =>
            if digits.isEmpty then .error (failure (stop + 1) c "ill-formed sequence")
            else
              match leftOver? found with
              | some reason => .error (failure (stop + 1) c reason)
              | none =>
                  let read :=
                    if next = '-' then readFrom fuel (stop + 1) after
                    else readFrom fuel stop behind
                  read.map (charsOf found.units ++ ·)

def decode (bytes : Bytes) : Except DecodeError Text :=
  readFrom (bytes.length + 1) 0 (bytes.map fun byte => CodePoint.ofNat byte.toNat)

end LicenseSeal.Encoding.Utf7
