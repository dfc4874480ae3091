import LicenseSeal.Encoding.Codecs

/-!
# Escaped text

A text in ASCII or in Latin-1 with every other code point as an escape: a backslash, a letter, and
the code in hexadecimal digits.  An escape that is read can also name its character.  In the raw
form only the two longer escapes have a meaning, and a backslash stands for itself.
-/

namespace LicenseSeal.Encoding.Escaped

def byteOf (c : CodePoint) : UInt8 :=
  UInt8.ofNat c.toNat

/-- An escape by code, with as many digits as the letter asks for. -/
def byCode (letter : CodePoint) (digits : Nat) (code : Nat) : Text :=
  '\\' :: letter :: Text.hexDigits digits code

/-- A character by one of the two longer escapes. -/
def longEscape (c : CodePoint) : Text :=
  if c.toNat < 0x10000 then byCode 'u' 4 c.toNat else byCode 'U' 8 c.toNat

/-- How a character is written. -/
def writeChar (raw : Bool) (c : CodePoint) : Text :=
  if 0x100 ≤ c.toNat then longEscape c
  else if raw then [c]
  else if c = '\\' then ['\\', '\\']
  else if c = '\t' then ['\\', 't']
  else if c = '\n' then ['\\', 'n']
  else if c = '\r' then ['\\', 'r']
  else if 0x20 ≤ c.toNat && c.toNat < 0x7F then [c]
  else byCode 'x' 2 c.toNat

def encode (raw : Bool) (text : Text) : Bytes :=
  text.flatMap fun c => (writeChar raw c).map byteOf

/-- The letter of an escape by code: how many digits it asks for, and its form in messages. -/
def codeLetter? (raw : Bool) (c : CodePoint) : Option (Nat × String) :=
  if c = 'u' then some (4, "\\uXXXX")
  else if c = 'U' then some (8, "\\UXXXXXXXX")
  else if c = 'x' && !raw then some (2, "\\xXX")
  else none

/-- The text that a letter behind a backslash stands for. -/
def simple? (c : CodePoint) : Option Text :=
  match c with
  | '\n' => some []
  | '\\' | '\'' | '"' => some [c]
  | 'a' => some [CodePoint.ofNat 0x07]
  | 'b' => some [CodePoint.ofNat 0x08]
  | 't' => some ['\t']
  | 'n' => some ['\n']
  | 'v' => some [CodePoint.ofNat 0x0B]
  | 'f' => some [CodePoint.ofNat 0x0C]
  | 'r' => some ['\r']
  | _ => none

def isOctal (c : CodePoint) : Bool :=
  '0' ≤ c && c ≤ '7'

def numberOf (base : Nat) (digits : Text) : Nat :=
  digits.foldl (fun number c => number * base + (Text.hexValue? c).getD 0) 0

/-- Why a code is no code point's. -/
def outOfRange (raw : Bool) : String :=
  if raw then "\\Uxxxxxxxx out of range" else "illegal Unicode character"

/-- What an escape by name stands for, behind its letter. -/
def readNamed (codecs : Codecs) : Text → Except (String × Nat) (Text × Nat)
  | '\x7b' :: rest =>
      let name := rest.takeWhile fun (c : CodePoint) => c ≠ '\x7d'
      if name.length = rest.length then .error ("malformed \\N character escape", 2 + name.length)
      else if name.isEmpty then .error ("malformed \\N character escape", 2)
      else
        match codecs.charNamed? name with
        | some c => .ok ([c], 3 + name.length)
        | none => .error ("unknown Unicode character name", 3 + name.length)
  | _ => .error ("malformed \\N character escape", 1)

/-- What an escape begins with, behind the backslash: the text that it stands for and its length, or
what is wrong with it and where that is seen. -/
def readEscape (codecs : Codecs) (raw : Bool) : Text → Except (String × Nat) (Text × Nat)
  | [] => if raw then .ok (['\\'], 0) else .error ("\\ at end of string", 0)
  | c :: rest =>
      match codeLetter? raw c with
      | some (count, form) =>
          let digits := (rest.take count).takeWhile fun c => (Text.hexValue? c).isSome
          let code := numberOf 16 digits
          if digits.length < count then
            .error (s!"truncated {form} escape", 1 + digits.length)
          else if code < 0x110000 then .ok ([CodePoint.ofNat code], 1 + count)
          else .error (outOfRange raw, 1 + count)
      | none =>
          if raw then .ok (['\\', c], 1)
          else if isOctal c then
            let digits := ((c :: rest).take 3).takeWhile isOctal
            .ok ([CodePoint.ofNat (numberOf 8 digits)], digits.length)
          else if c = 'N' then readNamed codecs rest
          else .ok ((simple? c).getD ['\\', c], 1)

def codecName (raw : Bool) : String :=
  if raw then "rawunicodeescape" else "unicodeescape"

/-- Decodes characters of which the first stands at a position; each of them is a byte. -/
def readFrom (codecs : Codecs) (raw : Bool) : (fuel position : Nat) → Text → Except DecodeError Text
  | 0, _, _ | _, _, [] => .ok []
  | fuel + 1, position, c :: rest =>
      if c ≠ '\\' then (readFrom codecs raw fuel (position + 1) rest).map (c :: ·)
      else
        match readEscape codecs raw rest with
        | .error (reason, length) =>
            .error ⟨codecName raw, position, position + 1 + length, byteOf c, reason⟩
        | .ok (meant, length) =>
            (readFrom codecs raw fuel (position + 1 + length) (rest.drop length)).map (meant ++ ·)

def decode (codecs : Codecs) (raw : Bool) (bytes : Bytes) : Except DecodeError Text :=
  readFrom codecs raw (bytes.length + 1) 0 (bytes.map fun byte => CodePoint.ofNat byte.toNat)

end LicenseSeal.Encoding.Escaped
