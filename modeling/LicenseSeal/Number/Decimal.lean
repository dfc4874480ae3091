import LicenseSeal.Text

/-!
# Decimal numbers

A decimal number keeps the digits it was written with: 2.50 and 2.5 are different writings, and
both are kept.  `Decimal.text` writes it back, positionally unless the exponent is positive or the
first digit stands far behind the point.
-/

namespace LicenseSeal

/-- A decimal number: `coefficient * 10 ^ exponent` with a sign, or one of the special values. -/
inductive Decimal where
  | finite (negative : Bool) (coefficient : Nat) (exponent : Int)
  | infinite (negative : Bool)
  | nan (negative : Bool) (signaling : Bool) (payload : Nat)
  deriving DecidableEq, Repr

namespace Decimal

private def sign (negative : Bool) : Text :=
  if negative then ['-'] else []

/-- The text of a finite number without its sign.  `point` is the number of digits before the
point; a point up to five zeros in front of the digits is written out, anything further is given an
exponent. -/
private def finiteText (coefficient : Nat) (exponent : Int) : Text :=
  let digits := Text.ofNat coefficient
  let leading := exponent + digits.length
  let point := if exponent ≤ 0 ∧ -6 < leading then leading else 1
  let mantissa :=
    if point ≤ 0 then
      "0.".text ++ List.replicate (-point).toNat ('0' : CodePoint) ++ digits
    else if digits.length ≤ point then
      digits ++ List.replicate (point.toNat - digits.length) ('0' : CodePoint)
    else
      digits.take point.toNat ++ ".".text ++ digits.drop point.toNat
  let power := leading - point
  if power = 0 then mantissa
  else if 0 < power then mantissa ++ "E+".text ++ Text.ofInt power
  else mantissa ++ "E".text ++ Text.ofInt power

def text : Decimal → Text
  | .finite negative coefficient exponent => sign negative ++ finiteText coefficient exponent
  | .infinite negative => sign negative ++ "Infinity".text
  | .nan negative signaling payload =>
      sign negative ++ (if signaling then "sNaN".text else "NaN".text)
        ++ (if payload = 0 then [] else Text.ofNat payload)

/-- The exponent that a text states after its mantissa, if it states a proper one. -/
private def statedExponent? : Text → Option Int
  | [] => some 0
  | mark :: rest =>
      if mark ≠ 'e' then none
      else
        let (negative, digits) :=
          match rest with
          | '-' :: digits => (true, digits)
          | '+' :: digits => (false, digits)
          | digits => (false, digits)
        if digits.isEmpty || !digits.all Text.isDigit then none
        else
          let power : Int := Text.natOfDigits digits
          some (if negative then -power else power)

/-- A finite number without its sign, in lower case. -/
private def finite? (negative : Bool) (body : Text) : Option Decimal := do
  let whole := body.takeWhile Text.isDigit
  let (fraction, rest) :=
    match body.dropWhile Text.isDigit with
    | '.' :: rest => (rest.takeWhile Text.isDigit, rest.dropWhile Text.isDigit)
    | rest => ([], rest)
  if whole.isEmpty && fraction.isEmpty then none
  else
    let exponent ← statedExponent? rest
    some (.finite negative (Text.natOfDigits (whole ++ fraction)) (exponent - fraction.length))

/-- A special value that is not a number, in lower case. -/
private def nan? (negative signaling : Bool) (payload : Text) : Option Decimal :=
  if payload.all Text.isDigit then some (.nan negative signaling (Text.natOfDigits payload))
  else none

/-- Reads a decimal number: digits with an optional point and exponent, an infinity or a value that
is not a number, in any case and with an optional sign. -/
def ofText? (written : Text) : Option Decimal :=
  let lower := Text.lowerAscii written
  let (negative, body) :=
    match lower with
    | '-' :: body => (true, body)
    | '+' :: body => (false, body)
    | body => (false, body)
  if body = "inf".text || body = "infinity".text then some (.infinite negative)
  else
    match Text.dropLead? "nan".text body, Text.dropLead? "snan".text body with
    | some payload, _ => nan? negative false payload
    | none, some payload => nan? negative true payload
    | none, none => finite? negative body

end Decimal

end LicenseSeal
