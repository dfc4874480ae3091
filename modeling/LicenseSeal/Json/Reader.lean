import LicenseSeal.Number.Integer
import LicenseSeal.Value

/-!
# JSON reading

Reads one JSON text.  Beyond the standard, `NaN` and the two infinities are numbers.  A repeated
member keeps its first place and takes the last value.  A number with a point or an exponent is a
floating-point number, any other is an integer of at most 4300 digits.
-/

namespace LicenseSeal.Json

/-- Why a text cannot be read. -/
inductive ReadError where
  /-- The text is not JSON. -/
  | malformed
  /-- An integer has more digits than are converted. -/
  | tooManyDigits (count : Nat)
  deriving DecidableEq, Repr

private def isJsonBlank (c : CodePoint) : Bool :=
  c = ' ' || c = '\t' || c = '\n' || c = '\r'

private def skipBlanks (text : Text) : Text :=
  text.dropWhile isJsonBlank

/-- The number that four hexadecimal digits at the front of a text write. -/
def fourHex? : Text → Option (Nat × Text)
  | a :: b :: c :: d :: rest => do
      let a ← Text.hexValue? a
      let b ← Text.hexValue? b
      let c ← Text.hexValue? c
      let d ← Text.hexValue? d
      some (((a * 16 + b) * 16 + c) * 16 + d, rest)
  | _ => none

/-- The number of the low surrogate whose escape stands at the front of a text. -/
private def lowSurrogate? : Text → Option (Nat × Text)
  | '\\' :: 'u' :: text => do
      let (low, rest) ← fourHex? text
      if 0xDC00 ≤ low && low < 0xE000 then some (low, rest) else none
  | _ => none

/-- The code point that an escape by code denotes; a pair of surrogates denotes one character, and
a surrogate alone denotes itself. -/
def codeEscape? (text : Text) : Option (CodePoint × Text) := do
  let (code, rest) ← fourHex? text
  if 0xD800 ≤ code && code < 0xDC00 then
    match lowSurrogate? rest with
    | some (low, rest) =>
        some (CodePoint.ofNat (0x10000 + (code - 0xD800) * 0x400 + (low - 0xDC00)), rest)
    | none => some (CodePoint.ofNat code, rest)
  else some (CodePoint.ofNat code, rest)

/-- The character that the text after a backslash denotes. -/
def escape? : Text → Option (CodePoint × Text)
  | '"' :: rest => some ('"', rest)
  | '\\' :: rest => some ('\\', rest)
  | '/' :: rest => some ('/', rest)
  | 'b' :: rest => some (CodePoint.ofNat 0x08, rest)
  | 'f' :: rest => some (CodePoint.ofNat 0x0C, rest)
  | 'n' :: rest => some ('\n', rest)
  | 'r' :: rest => some ('\r', rest)
  | 't' :: rest => some ('\t', rest)
  | 'u' :: rest => codeEscape? rest
  | _ => none

/-- The content of a string up to its closing quote. -/
def readString : (fuel : Nat) → Text → Option (Text × Text)
  | 0, _ => none
  | _ + 1, [] => none
  | fuel + 1, c :: rest =>
      if c = '"' then some ([], rest)
      else if c = '\\' then do
        let (escaped, rest) ← escape? rest
        let (content, rest) ← readString fuel rest
        some (escaped :: content, rest)
      else if c.toNat < 0x20 then none
      else do
        let (content, rest) ← readString fuel rest
        some (c :: content, rest)

/-- The digits of an exponent, if one stands at the front: its sign, its digits, and what
follows. -/
private def exponentPart? : Text → Option (Text × Text)
  | mark :: rest =>
      if mark = 'e' || mark = 'E' then
        let (sign, rest) :=
          match rest with
          | '+' :: rest => (([] : Text), rest)
          | '-' :: rest => (['-'], rest)
          | rest => ([], rest)
        let digits := rest.takeWhile Text.isDigit
        if digits.isEmpty then none else some (sign ++ digits, rest.dropWhile Text.isDigit)
      else none
  | [] => none

/-- The digits of a fraction, if one stands at the front, and what follows. -/
private def fractionPart? : Text → Option (Text × Text)
  | '.' :: rest =>
      let digits := rest.takeWhile Text.isDigit
      if digits.isEmpty then none else some (digits, rest.dropWhile Text.isDigit)
  | _ => none

/-- The number whose unsigned part stands at the front. -/
private def readNumber (negative : Bool) (text : Text) : Except ReadError (Scalar × Text) :=
  let whole : Text :=
    match text with
    | '0' :: _ => ['0']
    | _ => text.takeWhile Text.isDigit
  if whole.isEmpty then .error .malformed
  else
    let rest := text.drop whole.length
    let (fraction, rest) := (fractionPart? rest).getD ([], rest)
    let (exponent, after) := (exponentPart? rest).getD ([], rest)
    if fraction.isEmpty && exponent.isEmpty then
      if Integer.digitLimit < whole.length then .error (.tooManyDigits whole.length)
      else
        let number : Int := Text.natOfDigits whole
        .ok (.int (if negative then -number else number), after)
    else
      let power : Int :=
        match exponent with
        | '-' :: digits => -(Text.natOfDigits digits)
        | digits => Text.natOfDigits digits
      let coefficient := Text.natOfDigits (whole ++ fraction)
      .ok (.float (Binary64.ofScientific negative coefficient (power - fraction.length)), after)

/-- The words that stand for values. -/
private def words : List (Text × Scalar) :=
  [("null".text, .null), ("true".text, .bool true), ("false".text, .bool false),
    ("NaN".text, .float .nan), ("Infinity".text, .float (.infinite false)),
    ("-Infinity".text, .float (.infinite true))]

/-- The word at the front of a text. -/
private def word? (text : Text) : Option (Scalar × Text) :=
  words.findSome? fun entry => (Text.dropLead? entry.1 text).map fun rest => (entry.2, rest)

/-- The scalar at the front of a text. -/
private def readScalar (text : Text) : Except ReadError (Scalar × Text) :=
  match word? text with
  | some found => .ok found
  | none =>
      match text with
      | '"' :: rest =>
          match readString (rest.length + 1) rest with
          | some (content, rest) => .ok (.text content, rest)
          | none => .error .malformed
      | '-' :: rest => readNumber true rest
      | text => readNumber false text

mutual

/-- The value at the front of a text, and what follows it. -/
private def readValue : (fuel : Nat) → Text → Except ReadError (Value × Text)
  | 0, _ => .error .malformed
  | fuel + 1, '[' :: rest =>
      match skipBlanks rest with
      | ']' :: rest => .ok (.list [], rest)
      | rest => do
          let (items, rest) ← readItems fuel rest
          pure (.list items, rest)
  | fuel + 1, '\x7b' :: rest =>
      match skipBlanks rest with
      | '\x7d' :: rest => .ok (.map [], rest)
      | rest => do
          let (entries, rest) ← readMembers fuel rest
          pure (Value.mapOf entries, rest)
  | _ + 1, text => do
      let (content, rest) ← readScalar text
      pure (.scalar content, rest)

/-- The items of a list from the next one to the closing bracket. -/
private def readItems : (fuel : Nat) → Text → Except ReadError (List Value × Text)
  | 0, _ => .error .malformed
  | fuel + 1, text => do
      let (item, rest) ← readValue fuel text
      match skipBlanks rest with
      | ',' :: rest =>
          let (items, rest) ← readItems fuel (skipBlanks rest)
          pure (item :: items, rest)
      | ']' :: rest => pure ([item], rest)
      | _ => .error .malformed

/-- The members of an object from the next one to the closing brace. -/
private def readMembers : (fuel : Nat) → Text → Except ReadError (List (Scalar × Value) × Text)
  | 0, _ => .error .malformed
  | fuel + 1, text => do
      match text with
      | '"' :: rest =>
          match readString (rest.length + 1) rest with
          | none => .error .malformed
          | some (name, rest) =>
              match skipBlanks rest with
              | ':' :: rest =>
                  let (value, rest) ← readValue fuel (skipBlanks rest)
                  match skipBlanks rest with
                  | ',' :: rest =>
                      let (entries, rest) ← readMembers fuel (skipBlanks rest)
                      pure ((.text name, value) :: entries, rest)
                  | '\x7d' :: rest => pure ([(.text name, value)], rest)
                  | _ => .error .malformed
              | _ => .error .malformed
      | _ => .error .malformed

end

/-- Reads a whole text, blanks around the value allowed. -/
def read (text : Text) : Except ReadError Value := do
  let (value, rest) ← readValue (2 * text.length + 2) (skipBlanks text)
  match skipBlanks rest with
  | [] => pure value
  | _ => .error .malformed

end LicenseSeal.Json
