import LicenseSeal.Number.Binary64
import LicenseSeal.Text.Digit
import LicenseSeal.Text.LowerCase
import LicenseSeal.Yaml.Error

/-!
# Numbers in YAML

Integers to the bases two, eight, ten, sixteen and sixty, and floating-point numbers, which may also
be written to the base sixty.  Underscores between digits do not count.
-/

namespace LicenseSeal.Yaml

/-- A sign at the front: whether it is a minus, and what follows. -/
private def signFront : Text → Bool × Text
  | '-' :: rest => (true, rest)
  | '+' :: rest => (false, rest)
  | rest => (false, rest)

private def withoutGaps (content : Text) : Text :=
  content.filter (fun (c : CodePoint) => c ≠ '_')

/-- The letters that may stand behind a zero in front of digits to a base. -/
private def baseLetters : Nat → Text
  | 2 => ['b', 'B']
  | 8 => ['o', 'O']
  | 16 => ['x', 'X']
  | _ => []

/-- The content without a zero and the letter of a base at its front. -/
private def dropBase (base : Nat) : Text → Text
  | '0' :: letter :: rest =>
      if (baseLetters base).contains letter then rest else '0' :: letter :: rest
  | rest => rest

private def digitBelow? (base : Nat) (c : CodePoint) : Option Nat :=
  (Text.hexValue? c).filter (· < base)

/-- The integer that a text writes to a base. -/
def integerIn (base : Nat) (written : Text) : Except ReadError Int :=
  let (negative, rest) := signFront (Text.plainNumber written)
  let rest := dropBase base rest
  let digits := rest.takeWhile fun c => (digitBelow? base c).isSome
  if base = 10 && Integer.digitLimit < digits.length then .error (.tooManyDigits digits.length)
  else if digits.isEmpty || digits.length ≠ rest.length then .error (.badInteger base written)
  else
    let number : Int :=
      digits.foldl (fun number c => number * base + (digitBelow? base c).getD 0) 0
    .ok (if negative then -number else number)

/-- The value of an integer without its sign. -/
private def unsignedInteger (content : Text) : Except ReadError Int :=
  match content with
  | [] => .error .noNumber
  | ['0'] => .ok 0
  | '0' :: 'b' :: digits => integerIn 2 digits
  | '0' :: 'x' :: digits => integerIn 16 digits
  | '0' :: digits => integerIn 8 ('0' :: digits)
  | content => do
      let parts ← (Text.splitAt ':' content).mapM (integerIn 10)
      pure (parts.foldl (fun number part => number * 60 + part) 0)

/-- The value of an integer. -/
def integer (content : Text) : Except ReadError Int := do
  let (negative, digits) := signFront (withoutGaps content)
  let number ← unsignedInteger digits
  pure (if negative then -number else number)

/-- The floating-point number that a text writes to the base ten. -/
def floatPart (written : Text) : Except ReadError Binary64 :=
  match Binary64.ofText? (Text.plainNumber written) with
  | some number => .ok number
  | none => .error (.badFloat written)

/-- The floating-point number whose parts to the base sixty are given. -/
private def sexagesimalFloat (parts : List Binary64) : Binary64 :=
  parts.foldl (fun number part => (number.timesNatural 60).plus part)
    (.finite false 0 Binary64.leastExponent)

/-- The value of a floating-point number. -/
def floating (content : Text) : Except ReadError Binary64 :=
  match Text.lower (withoutGaps content) with
  | [] => .error .noNumber
  | first :: rest =>
      let (negative, digits) := signFront (first :: rest)
      let signed (number : Binary64) : Binary64 := if negative then number.negated else number
      if digits = ".inf".text then .ok (.infinite negative)
      else if digits = ".nan".text then .ok .nan
      else if digits.contains ':' then
        (((Text.splitAt ':' digits).mapM floatPart).map sexagesimalFloat).map signed
      else (floatPart digits).map signed

end LicenseSeal.Yaml
