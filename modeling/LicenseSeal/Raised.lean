import LicenseSeal.Text

/-!
# Exceptions of foreign code

A caller hands over values and extractors of its own, whose code can fail in any way.  Of such a
failure it is known what it is called, what it says, and to which handlers it answers.
-/

namespace LicenseSeal

/-- The families of the errors of licensing. -/
inductive ErrorFamily where
  | general
  | input
  | contract
  | key
  | template
  | corrupted
  deriving DecidableEq, Repr

/-- The handlers that an exception answers to. -/
inductive ExceptionKind where
  /-- Those of the errors of licensing. -/
  | license (family : ErrorFamily)
  /-- Those of values that do not have the form asked for. -/
  | validation
  /-- Those of other improper values. -/
  | value
  | other
  deriving DecidableEq, Repr

/-- An exception that foreign code raises. -/
structure Raised where
  kind : ExceptionKind
  name : Text
  message : Text
  deriving DecidableEq, Repr

/-- Whether an exception answers to the handlers of improper values. -/
def Raised.isImproper (exception : Raised) : Bool :=
  exception.kind = .validation || exception.kind = .value

instance decidableEqExcept {ε α : Type} [DecidableEq ε] [DecidableEq α] :
    DecidableEq (Except ε α)
  | .error error, .error error' => decidable_of_iff (error = error') (by simp)
  | .ok result, .ok result' => decidable_of_iff (result = result') (by simp)
  | .error _, .ok _ | .ok _, .error _ => .isFalse (by simp)

@[simp]
theorem mapError_error {α ε ε' : Type} (error : ε) (image : ε → ε') :
    (Except.error error : Except ε α).mapError image = .error (image error) := rfl

@[simp]
theorem mapError_ok {α ε ε' : Type} (value : α) (image : ε → ε') :
    (Except.ok value : Except ε α).mapError image = .ok value := rfl

end LicenseSeal
