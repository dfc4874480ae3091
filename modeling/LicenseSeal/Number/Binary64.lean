import LicenseSeal.Text

/-!
# Binary floating-point numbers

A finite number of 64 bits is `mantissa * 2 ^ exponent` with a sign.  Reading a decimal text rounds
to the nearest such number, ties to the even mantissa.  Writing uses the fewest digits that read
back to the same number, and among those the decimal nearest to it.  All arithmetic is exact, on
natural numbers.
-/

namespace LicenseSeal

/-- A number of 64 bits; a finite one has a mantissa below `2 ^ 53` and an exponent of at least
`-1074`. -/
inductive Binary64 where
  | finite (negative : Bool) (mantissa : Nat) (exponent : Int)
  | infinite (negative : Bool)
  | nan
  deriving DecidableEq, Repr

namespace Binary64

/-- The least exponent, which the numbers near zero share. -/
def leastExponent : Int := -1074

/-- The largest exponent of a finite number. -/
def greatestExponent : Int := 971

/-- `numerator / denominator * 2 ^ shift`, as a fraction. -/
private def scaled (numerator denominator : Nat) (shift : Int) : Nat × Nat :=
  if 0 ≤ shift then (numerator * Nat.pow 2 shift.toNat, denominator)
  else (numerator, denominator * Nat.pow 2 (-shift).toNat)

/-- The natural number nearest to a fraction, ties to the even one. -/
private def nearest (fraction : Nat × Nat) : Nat :=
  let quotient := fraction.1 / fraction.2
  let twice := 2 * (fraction.1 % fraction.2)
  if twice < fraction.2 then quotient
  else if fraction.2 < twice then quotient + 1
  else if quotient % 2 = 0 then quotient else quotient + 1

/-- The exponent under which a positive fraction has a whole part of 53 bits, or the least exponent
if that is larger. -/
private def exponentOf (numerator denominator : Nat) : Int :=
  let guess : Int := (Nat.log2 numerator : Int) - Nat.log2 denominator - 52
  let fraction := scaled numerator denominator (-guess)
  let fitting := if fraction.1 / fraction.2 < Nat.pow 2 52 then guess - 1 else guess
  max fitting leastExponent

/-- The number nearest to a fraction. -/
def ofFraction (negative : Bool) (numerator denominator : Nat) : Binary64 :=
  if numerator = 0 then .finite negative 0 leastExponent
  else
    let exponent := exponentOf numerator denominator
    let mantissa := nearest (scaled numerator denominator (-exponent))
    let carried := mantissa = Nat.pow 2 53
    let mantissa := if carried then Nat.pow 2 52 else mantissa
    let exponent := if carried then exponent + 1 else exponent
    if greatestExponent < exponent then .infinite negative else .finite negative mantissa exponent

/-- The number nearest to `coefficient * 10 ^ power`. -/
def ofScientific (negative : Bool) (coefficient : Nat) (power : Int) : Binary64 :=
  let magnitude : Int := power + (Text.ofNat coefficient).length
  if coefficient = 0 || magnitude < -330 then .finite negative 0 leastExponent
  else if 330 < magnitude then .infinite negative
  else if 0 ≤ power then ofFraction negative (coefficient * Nat.pow 10 power.toNat) 1
  else ofFraction negative coefficient (Nat.pow 10 (-power).toNat)

/-- The number with the other sign. -/
def negated : Binary64 → Binary64
  | .finite negative mantissa exponent => .finite (!negative) mantissa exponent
  | .infinite negative => .infinite (!negative)
  | .nan => .nan

/-- The number nearest to an integer times a power of two. -/
private def ofScaled (number : Int) (exponent : Int) : Binary64 :=
  let (numerator, denominator) := scaled number.natAbs 1 exponent
  ofFraction (number < 0) numerator denominator

/-- A finite number's mantissa with its sign. -/
private def signedMantissa (negative : Bool) (mantissa : Nat) : Int :=
  if negative then -(mantissa : Int) else mantissa

/-- The product with a positive natural number. -/
def timesNatural (factor : Nat) : Binary64 → Binary64
  | .finite negative mantissa exponent =>
      if mantissa = 0 then .finite negative 0 leastExponent
      else ofScaled (signedMantissa negative (mantissa * factor)) exponent
  | number => number

/-- The sum of two numbers. -/
def plus : Binary64 → Binary64 → Binary64
  | .nan, _ | _, .nan => .nan
  | .infinite negative, .infinite negative' =>
      if negative = negative' then .infinite negative else .nan
  | .infinite negative, _ | _, .infinite negative => .infinite negative
  | .finite negative mantissa exponent, .finite negative' mantissa' exponent' =>
      let least := min exponent exponent'
      let raised (mantissa : Nat) (exponent : Int) : Nat :=
        mantissa * Nat.pow 2 (exponent - least).toNat
      if mantissa = 0 && mantissa' = 0 then
        .finite (negative && negative') 0 leastExponent
      else
        ofScaled (signedMantissa negative (raised mantissa exponent)
          + signedMantissa negative' (raised mantissa' exponent')) least

/-- A positive number as a fraction. -/
private def fractionOf (mantissa : Nat) (exponent : Int) : Nat × Nat :=
  scaled mantissa 1 exponent

/-- The largest power of ten that is not above a positive fraction. -/
private def decimalMagnitude (fraction : Nat × Nat) : Int :=
  (Text.ofNat (fraction.1 * Nat.pow 10 400 / fraction.2)).length - 401

/-- Whether `digits * 10 ^ power` reads back as `mantissa * 2 ^ exponent`: it lies between the
midpoints to the two neighbours, and on a midpoint only if the mantissa is even. -/
private def readsBack (mantissa : Nat) (exponent : Int) (digits : Nat) (power : Int) : Bool :=
  let narrow := mantissa = Nat.pow 2 52 ∧ leastExponent < exponent
  let low := if narrow then 4 * mantissa - 1 else 4 * mantissa - 2
  let high := 4 * mantissa + 2
  let (value, unit) :=
    if 0 ≤ power then (digits * Nat.pow 10 power.toNat, 1)
    else (digits, Nat.pow 10 (-power).toNat)
  let (value, unit) := scaled value unit (2 - exponent)
  if mantissa % 2 = 0 then low * unit ≤ value && value ≤ high * unit
  else low * unit < value && value < high * unit

/-- The neighbour on the grid of `10 ^ power` that reads back, the nearer one of two; a tie goes to
the even digit. -/
private def gridPoint? (mantissa : Nat) (exponent power : Int) : Option Nat :=
  let (numerator, denominator) := fractionOf mantissa exponent
  let (numerator, denominator) :=
    if 0 ≤ power then (numerator, denominator * Nat.pow 10 power.toNat)
    else (numerator * Nat.pow 10 (-power).toNat, denominator)
  let below := numerator / denominator
  let near := nearest (numerator, denominator)
  let far := if near = below then below + 1 else below
  if readsBack mantissa exponent near power then some near
  else if readsBack mantissa exponent far power then some far
  else none

/-- The shortest digits of a positive number, searched on finer and finer grids, and the power of
ten of the last of them.  Seventeen digits always read back. -/
private def shortestFrom (mantissa : Nat) (exponent magnitude : Int) : Nat → Nat → Nat × Int
  | 0, count => (0, magnitude + 1 - count)
  | tries + 1, count =>
      let power := magnitude + 1 - count
      match gridPoint? mantissa exponent power with
      | some digits => (digits, power)
      | none => shortestFrom mantissa exponent magnitude tries (count + 1)

/-- The digits of a positive number without trailing zeros, and the count of digits before the
point. -/
private def shortest (mantissa : Nat) (exponent : Int) : Text × Int :=
  let magnitude := decimalMagnitude (fractionOf mantissa exponent)
  let (digits, power) := shortestFrom mantissa exponent magnitude 17 1
  let written := Text.ofNat digits
  let point := written.length + power
  let bare := (written.reverse.dropWhile fun (c : CodePoint) => c = '0').reverse
  (bare, point)

/-- How a number is laid out as text: the range of exponents that are written positionally, and the
least number of digits of a written exponent. -/
structure Layout where
  /-- The least decimal exponent written positionally. -/
  positionalFrom : Int
  /-- The first decimal exponent that is too large for positional writing. -/
  positionalBelow : Int
  /-- The least number of digits of an exponent. -/
  exponentDigits : Nat

/-- Numbers from 0.0001 up to `10 ^ 16` are written positionally; an exponent has at least two
digits. -/
def layout : Layout := ⟨-4, 16, 2⟩

/-- A positive number laid out by its digits and the place of its point. -/
private def place (format : Layout) (digits : Text) (point : Int) : Text :=
  let power := point - 1
  if format.positionalFrom ≤ power ∧ power < format.positionalBelow then
    if point ≤ 0 then "0.".text ++ List.replicate (-point).toNat ('0' : CodePoint) ++ digits
    else if digits.length ≤ point then
      digits ++ List.replicate (point.toNat - digits.length) ('0' : CodePoint) ++ ".0".text
    else digits.take point.toNat ++ ".".text ++ digits.drop point.toNat
  else
    let mantissa : Text :=
      match digits with
      | [] => []
      | [digit] => [digit]
      | digit :: fraction => digit :: '.' :: fraction
    let exponent := Text.ofNat power.natAbs
    let padding := List.replicate (format.exponentDigits - exponent.length) ('0' : CodePoint)
    mantissa ++ (if power < 0 then "e-" else "e+").text ++ padding ++ exponent

def text : Binary64 → Text
  | .nan => "nan".text
  | .infinite negative => (if negative then "-" else "").text ++ "inf".text
  | .finite negative mantissa exponent =>
      let body :=
        if mantissa = 0 then "0.0".text
        else
          let (digits, point) := shortest mantissa exponent
          place layout digits point
      (if negative then "-" else "").text ++ body

/-- The exponent that stands after a mantissa, if the rest of the text is one. -/
private def exponent? : Text → Option Int
  | [] => some 0
  | mark :: rest =>
      if mark ≠ 'e' && mark ≠ 'E' then none
      else
        let (negative, digits) :=
          match rest with
          | '-' :: digits => (true, digits)
          | '+' :: digits => (false, digits)
          | digits => (false, digits)
        if digits.isEmpty || !digits.all Text.isDigit then none
        else
          let power : Int := Text.natOfDigits digits
          some (if negative then -power else power)

/-- An unsigned finite number: digits with an optional point and exponent. -/
private def unsigned? (negative : Bool) (body : Text) : Option Binary64 := do
  let whole := body.takeWhile Text.isDigit
  let (fraction, rest) :=
    match body.dropWhile Text.isDigit with
    | '.' :: rest => (rest.takeWhile Text.isDigit, rest.dropWhile Text.isDigit)
    | rest => ([], rest)
  if whole.isEmpty && fraction.isEmpty then none
  else
    let power ← exponent? rest
    some (ofScientific negative (Text.natOfDigits (whole ++ fraction)) (power - fraction.length))

/-- Reads a number: a decimal text with an optional sign, an infinity, or `nan`. -/
def ofText? (written : Text) : Option Binary64 :=
  let (negative, body) :=
    match written with
    | '-' :: body => (true, body)
    | '+' :: body => (false, body)
    | body => (false, body)
  let word := Text.lowerAscii body
  if word = "inf".text || word = "infinity".text then some (.infinite negative)
  else if word = "nan".text then some .nan
  else unsigned? negative body

end Binary64

end LicenseSeal
