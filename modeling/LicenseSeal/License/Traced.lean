import LicenseSeal.License.KeyOptions
import LicenseSeal.License.Log

/-!
# Traced operations

The events of an operation in order, and how it ended.  What was reported before a failure is kept.
-/

namespace LicenseSeal

/-- Events in order, and a result or a failure. -/
structure Traced (α : Type) where
  events : List Event
  outcome : Except Failure α

namespace Traced

variable {α β : Type}

/-- A step that reports nothing. -/
def of (outcome : Except Failure α) : Traced α :=
  ⟨[], outcome⟩

/-- One operation after another, unless the first one fails. -/
def andThen (first : Traced α) (second : α → Traced β) : Traced β :=
  match first.outcome with
  | .error failure => ⟨first.events, .error failure⟩
  | .ok result => ⟨first.events ++ (second result).events, (second result).outcome⟩

instance : Monad Traced where
  pure result := of (.ok result)
  bind := andThen

def report (events : List Event) : Traced Unit :=
  ⟨events, .ok ()⟩

/-- Fails with an error of licensing. -/
def fail (error : LicenseError) : Traced α :=
  of (.error (.license error))

/-- A step that reports nothing and can only fail with an error of licensing. -/
def ofLicense (outcome : Except LicenseError α) : Traced α :=
  of (outcome.mapError .license)

end Traced

end LicenseSeal
