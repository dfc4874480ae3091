import LicenseSeal.Hash.Blocks
import LicenseSeal.Number.Modular

/-!
# Elliptic curves

Curves of the form y² = x³ + a x + b over the integers modulo a prime, and the points on them.  A
point is written as its coordinates behind a byte that says in which form: both of them, the first
with the parity of the second, or both with that parity.
-/

namespace LicenseSeal

/-- A curve with its base point, whose multiples are as many as the order says. -/
structure Curve where
  modulus : Nat
  a : Nat
  b : Nat
  order : Nat
  baseX : Nat
  baseY : Nat
  deriving DecidableEq, Repr

namespace Curve

/-- A point on a curve. -/
inductive Point where
  | infinity
  | affine (x y : Nat)
  deriving DecidableEq, Repr

def base (curve : Curve) : Point := .affine curve.baseX curve.baseY

/-- The number of bytes of a coordinate. -/
def coordinateSize (curve : Curve) : Nat := (bitLength curve.modulus + 7) / 8

/-- The square of the second coordinate of the points with a first coordinate. -/
def squareAt (curve : Curve) (x : Nat) : Nat :=
  (x * x % curve.modulus * x + curve.a * x + curve.b) % curve.modulus

/-- Whether there is a point with two coordinates. -/
def contains (curve : Curve) (x y : Nat) : Bool :=
  x < curve.modulus && y < curve.modulus && y * y % curve.modulus = curve.squareAt x

/-- Whether there is a point with a first coordinate and the parity of the second. -/
def containsSide (curve : Curve) (x : Nat) (odd : Bool) : Bool :=
  let square := curve.squareAt x
  x < curve.modulus && isSquareMod curve.modulus square && !(square = 0 && odd)

/-- The point in which the line of a slope through two points meets the curve again, mirrored. -/
private def meeting (curve : Curve) (slope x y x' : Nat) : Point :=
  let modulus := curve.modulus
  let meetX := subMod modulus (slope * slope) (x + x')
  .affine meetX (subMod modulus (slope * subMod modulus x meetX) y)

/-- The sum of two points. -/
def add (curve : Curve) : Point → Point → Point
  | .infinity, point | point, .infinity => point
  | .affine x y, .affine x' y' =>
      let modulus := curve.modulus
      if x ≠ x' then
        let slope := subMod modulus y' y * inverseMod modulus (subMod modulus x' x) % modulus
        meeting curve slope x y x'
      else if y = y' && y ≠ 0 then
        let slope := (3 * x * x + curve.a) * inverseMod modulus (2 * y % modulus) % modulus
        meeting curve slope x y x
      else .infinity

/-- A multiple of a point. -/
def times (curve : Curve) (count : Nat) (point : Point) : Point :=
  if count = 0 then .infinity
  else
    let half := curve.times (count / 2) (curve.add point point)
    if count % 2 = 1 then curve.add half point else half
termination_by count
decreasing_by omega

/-- The written forms of a point: short, long, and long with the parity. -/
def writtenForms (curve : Curve) : Point → List Bytes
  | .infinity => [[0]]
  | .affine x y =>
      let size := curve.coordinateSize
      let parity : UInt8 := if y % 2 = 1 then 1 else 0
      let long := natBytes size x ++ natBytes size y
      [(2 + parity) :: natBytes size x, 4 :: long, (6 + parity) :: long]

/-- Whether bytes are the written form of a point other than that at infinity. -/
def isWritten (curve : Curve) : Bytes → Bool
  | [] => false
  | form :: coordinates =>
      let size := curve.coordinateSize
      let x := natOfBytes (coordinates.take size)
      let y := natOfBytes (coordinates.drop size)
      if form = 2 || form = 3 then coordinates.length = size && curve.containsSide x (form = 3)
      else if form = 4 || form = 6 || form = 7 then
        coordinates.length = 2 * size && curve.contains x y &&
          (form = 4 || (form = 7) = (y % 2 = 1))
      else false

/-- Whether a number is a secret of a curve: not zero, and below the order. -/
def isSecret (curve : Curve) (secret : Nat) : Bool :=
  0 < secret && secret < curve.order

/-- Whether bytes are a written form of the point that belongs to a secret. -/
def matchesSecret (curve : Curve) (secret : Nat) (bytes : Bytes) : Bool :=
  (curve.writtenForms (curve.times secret curve.base)).contains bytes

end Curve

end LicenseSeal
