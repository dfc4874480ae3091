import LicenseSeal.Number.Binary64
import LicenseSeal.Number.Decimal
import LicenseSeal.Raised

/-!
# Field values

A license field may hold any value that structured data can: an absent value, a truth value, a
number, a text, raw bytes, a date, an object of the caller, or lists and mappings of
values.  Mapping keys are scalars, kept in insertion order.
-/

namespace LicenseSeal

/-- A value without parts. -/
inductive Scalar where
  | null
  | bool (truth : Bool)
  | int (number : Int)
  | float (number : Binary64)
  | decimal (number : Decimal)
  | text (content : Text)
  | bytes (content : Bytes)
  /-- A date or a point in time, as it is written. -/
  | instant (written : Text)
  /-- An object of a class of the caller: its text by itself and inside a list or a mapping, or what
  is raised instead. -/
  | object (className : String) (text nested : Except Raised Text)
  deriving DecidableEq, Repr

/-- A value: a scalar, a list, or a mapping as its entries in order. -/
inductive Value where
  | scalar (content : Scalar)
  | list (items : List Value)
  | map (entries : List (Scalar × Value))
  deriving Repr

namespace Scalar

/-- A number that can be compared exactly: its sign and magnitude as a fraction, or an infinity. -/
inductive Magnitude where
  | fraction (numerator : Int) (denominator : Nat)
  | infinite (negative : Bool)

private def powered (negative : Bool) (coefficient base : Nat) (exponent : Int) : Magnitude :=
  let signed (number : Nat) : Int := if negative then -number else number
  if 0 ≤ exponent then .fraction (signed (coefficient * Nat.pow base exponent.toNat)) 1
  else .fraction (signed coefficient) (Nat.pow base (-exponent).toNat)

/-- The exact size of a numeric scalar; truth values count as zero and one. -/
def magnitude? : Scalar → Option Magnitude
  | .bool truth => some (.fraction (if truth then 1 else 0) 1)
  | .int number => some (.fraction number 1)
  | .float (.finite negative mantissa exponent) => some (powered negative mantissa 2 exponent)
  | .float (.infinite negative) => some (.infinite negative)
  | .decimal (.finite negative coefficient exponent) =>
      some (powered negative coefficient 10 exponent)
  | .decimal (.infinite negative) => some (.infinite negative)
  | _ => none

namespace Magnitude

/-- Whether the first number is smaller than the second. -/
def less : Magnitude → Magnitude → Bool
  | .fraction n d, .fraction n' d' => n * d' < n' * d
  | .fraction _ _, .infinite negative => !negative
  | .infinite negative, .fraction _ _ => negative
  | .infinite negative, .infinite negative' => negative && !negative'

/-- Whether two numbers are equal. -/
def same (first second : Magnitude) : Bool :=
  !first.less second && !second.less first

end Magnitude

/-- Whether two scalars are the same key: numbers by size, everything else by content.  A value
that is not a number is no key's equal. -/
def sameKey (first second : Scalar) : Bool :=
  match first.magnitude?, second.magnitude? with
  | some size, some size' => size.same size'
  | none, none =>
      match first with
      | .float _ | .decimal _ => false
      | _ => first = second
  | _, _ => false

end Scalar

namespace Value

/-- The absent value. -/
abbrev null : Value := .scalar .null

/-- A text as a value. -/
abbrev text (content : Text) : Value := .scalar (.text content)

/-- A truth value as a value. -/
abbrev bool (truth : Bool) : Value := .scalar (.bool truth)

/-- An integer as a value. -/
abbrev int (number : Int) : Value := .scalar (.int number)

/-- Puts an entry into a mapping: a key that is already there keeps its place and takes the new
value. -/
def putEntry (key : Scalar) (value : Value) : List (Scalar × Value) → List (Scalar × Value)
  | [] => [(key, value)]
  | (first, content) :: rest =>
      if first.sameKey key then (first, value) :: rest
      else (first, content) :: putEntry key value rest

/-- The value of a key among entries. -/
def ofKey? (key : Scalar) (entries : List (Scalar × Value)) : Option Value :=
  (entries.find? fun entry => entry.1 = key).map (·.2)

/-- The mapping that a sequence of entries builds. -/
def mapOf (entries : List (Scalar × Value)) : Value :=
  .map (entries.foldl (fun built entry => putEntry entry.1 entry.2 built) [])

end Value

end LicenseSeal
