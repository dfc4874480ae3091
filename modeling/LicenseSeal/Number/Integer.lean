import LicenseSeal.Text

/-!
# Long integers

An integer in decimal digits may be long, but not of any length, whether it is read or written.
-/

namespace LicenseSeal.Integer

/-- The most decimal digits that an integer may be written with. -/
def digitLimit : Nat := 4300

/-- Whether an integer has too many digits to be written. -/
def isTooLong (number : Int) : Bool :=
  Nat.pow 10 digitLimit ≤ number.natAbs

private def limitMessage (detail : Text) : Text :=
  "Exceeds the limit (".text ++ Text.ofNat digitLimit
    ++ " digits) for integer string conversion".text ++ detail
    ++ "; use sys.set_int_max_str_digits() to increase the limit".text

/-- The message about an integer that has too many digits to be read. -/
def tooLongMessage (count : Nat) : Text :=
  limitMessage (": value has ".text ++ Text.ofNat count ++ " digits".text)

/-- The message about an integer that has too many digits to be written. -/
def tooLongToWriteMessage : Text :=
  limitMessage []

end LicenseSeal.Integer
