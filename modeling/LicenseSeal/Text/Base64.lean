import LicenseSeal.Text

/-!
# Base64

Six bits for each character of the standard alphabet, and padding up to a multiple of four
characters.  `Base64.encode` writes the one standard text of some bytes.  `Base64.decodeStrict?`
reads nothing else; `Base64.decode?` does not look at bits that padding leaves unused, nor at
padding beyond whole groups; `Base64.decodeLoose?` passes over characters that are not of the
alphabet.
-/

namespace LicenseSeal.Base64

/-- The character of a number below 64. -/
def digit (value : Nat) : CodePoint :=
  if value < 26 then CodePoint.ofNat ('A'.toNat + value)
  else if value < 52 then CodePoint.ofNat ('a'.toNat + (value - 26))
  else if value < 62 then CodePoint.ofNat ('0'.toNat + (value - 52))
  else if value = 62 then '+'
  else '/'

/-- The number of a character. -/
def value? (c : CodePoint) : Option Nat :=
  if 'A' ≤ c ∧ c ≤ 'Z' then some (c.toNat - 'A'.toNat)
  else if 'a' ≤ c ∧ c ≤ 'z' then some (c.toNat - 'a'.toNat + 26)
  else if '0' ≤ c ∧ c ≤ '9' then some (c.toNat - '0'.toNat + 52)
  else if c = '+' then some 62
  else if c = '/' then some 63
  else none

/-- The standard text of bytes. -/
def encode : Bytes → Text
  | [] => []
  | [x] => [digit (x.toNat / 4), digit (x.toNat % 4 * 16), '=', '=']
  | [x, y] =>
      [digit (x.toNat / 4), digit (x.toNat % 4 * 16 + y.toNat / 16), digit (y.toNat % 16 * 4), '=']
  | x :: y :: z :: rest =>
      digit (x.toNat / 4) :: digit (x.toNat % 4 * 16 + y.toNat / 16)
        :: digit (y.toNat % 16 * 4 + z.toNat / 64) :: digit (z.toNat % 64) :: encode rest

/-- The whole bytes that a sequence of six-bit numbers holds. -/
def bytesOf : List Nat → Bytes
  | a :: b :: c :: d :: rest =>
      UInt8.ofNat (a * 4 + b / 16) :: UInt8.ofNat (b % 16 * 16 + c / 4)
        :: UInt8.ofNat (c % 4 * 64 + d) :: bytesOf rest
  | [a, b, c] => [UInt8.ofNat (a * 4 + b / 16), UInt8.ofNat (b % 16 * 16 + c / 4)]
  | [a, b] => [UInt8.ofNat (a * 4 + b / 16)]
  | _ => []

/-- The numbers at the front of a text, and what follows them. -/
def digits : Text → List Nat × Text
  | [] => ([], [])
  | c :: rest =>
      match value? c with
      | none => ([], c :: rest)
      | some value =>
          let (values, rest) := digits rest
          (value :: values, rest)

/-- Whether padding of a length completes a number of characters: it fills a group that has begun,
and it may have any length behind whole groups. -/
def completes (count padding : Nat) : Bool :=
  match count % 4 with
  | 0 => padding = 0 || count ≠ 0
  | 2 => padding = 2
  | 3 => padding = 1
  | _ => false

/-- The bytes of a text of alphabet characters and the padding that completes them. -/
def decode? (text : Text) : Option Bytes :=
  let (values, padding) := digits text
  if padding.all (· = '=') && completes values.length padding.length then some (bytesOf values)
  else none

/-- The numbers of the alphabet characters of a text up to the padding that completes a group, and
whether there is such padding.  Other characters are passed over, and so is padding that completes
nothing.  Of the present group, `count` characters and then `padding` marks have been read. -/
def looseDigits : (count padding : Nat) → Text → List Nat × Bool
  | _, _, [] => ([], false)
  | count, padding, c :: rest =>
      if c = '=' then
        if count < 2 then looseDigits count padding rest
        else if count + padding < 3 then looseDigits count (padding + 1) rest
        else ([], true)
      else
        match value? c with
        | none => looseDigits count padding rest
        | some value =>
            let (values, isCompleted) := looseDigits ((count + 1) % 4) 0 rest
            (value :: values, isCompleted)

/-- The bytes of a text that may hold other characters between those of the alphabet, and anything
behind the padding that completes a group. -/
def decodeLoose? (text : Text) : Option Bytes :=
  let (values, isCompleted) := looseDigits 0 0 text
  if values.length % 4 = 0 || isCompleted then some (bytesOf values) else none

/-- The bytes of a text, if it is their standard text. -/
def decodeStrict? (text : Text) : Option Bytes :=
  (decode? text).filter fun bytes => encode bytes = text

end LicenseSeal.Base64
