import LicenseSeal.Text

/-!
# Byte order

The order in which the bytes of a number are written.
-/

namespace LicenseSeal.Encoding

/-- Which byte of a number comes first. -/
inductive ByteOrder where
  | littleEndian
  | bigEndian
  deriving DecidableEq, Repr

namespace ByteOrder

/-- The lowest `count` bytes of a number, the lowest one first. -/
private def lowFirst : (count : Nat) → (number : Nat) → Bytes
  | 0, _ => []
  | count + 1, number => UInt8.ofNat (number % 0x100) :: lowFirst count (number / 0x100)

/-- The lowest `count` bytes of a number. -/
def write (order : ByteOrder) (count number : Nat) : Bytes :=
  match order with
  | .littleEndian => lowFirst count number
  | .bigEndian => (lowFirst count number).reverse

/-- The number that bytes write. -/
def read (order : ByteOrder) (bytes : Bytes) : Nat :=
  let highFirst :=
    match order with
    | .littleEndian => bytes.reverse
    | .bigEndian => bytes
  highFirst.foldl (fun number byte => number * 0x100 + byte.toNat) 0

end ByteOrder

end LicenseSeal.Encoding
