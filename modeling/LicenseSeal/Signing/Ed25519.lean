import LicenseSeal.Hash.Blocks
import LicenseSeal.Hash.Sha512
import LicenseSeal.Number.Modular

/-!
# Ed25519 signatures

Signatures on the twisted Edwards curve over the integers modulo 2^255 - 19.  Points are kept in
extended coordinates, so that adding them needs no division.  A signature is accepted if its scalar
is reduced and the point computed from it has exactly the signature's bytes.
-/

namespace LicenseSeal.Ed25519

def fieldSize : Nat := Nat.pow 2 255 - 19

/-- The order of the base point. -/
def order : Nat := Nat.pow 2 252 + 27742317777372353535851937790883648493

/-- The curve's constant. -/
def curveConstant : Nat :=
  37095705934669439343138083508754565189542113879843219016388785533085940283555

/-- A square root of minus one. -/
def rootOfMinusOne : Nat :=
  19681161376707505956807079304988542015446066515923890162744021073123829784752

/-- A point in extended coordinates. -/
structure Point where
  x : Nat
  y : Nat
  z : Nat
  t : Nat

/-- The neutral point. -/
def Point.zero : Point := ⟨0, 1, 1, 0⟩

/-- The point of two affine coordinates. -/
def Point.ofAffine (x y : Nat) : Point :=
  ⟨x, y, 1, x * y % fieldSize⟩

def basePoint : Point :=
  Point.ofAffine
    15112221349535400772501151409588531511454012693041857206046113283949847762202
    46316835694926478169428394003475163141307993866256225615783033603165251855960

private def subtract (left right : Nat) : Nat :=
  (left + (fieldSize - right % fieldSize)) % fieldSize

/-- The sum of two points. -/
def Point.add (first second : Point) : Point :=
  let a := subtract first.y first.x * subtract second.y second.x % fieldSize
  let b := (first.y + first.x) * (second.y + second.x) % fieldSize
  let c := 2 * first.t * second.t % fieldSize * curveConstant % fieldSize
  let d := 2 * first.z * second.z % fieldSize
  let e := subtract b a
  let f := subtract d c
  let g := d + c
  let h := b + a
  ⟨e * f % fieldSize, g * h % fieldSize, f * g % fieldSize, e * h % fieldSize⟩

/-- The point with the opposite sign. -/
def Point.negate (point : Point) : Point :=
  ⟨subtract 0 point.x, point.y, point.z, subtract 0 point.t⟩

/-- A multiple of a point. -/
def Point.times (count : Nat) (point : Point) : Point :=
  if count = 0 then .zero
  else
    let half := Point.times (count / 2) (point.add point)
    if count % 2 = 1 then half.add point else half
termination_by count
decreasing_by omega

/-- The lowest `width` bytes of a number, lowest first. -/
private def littleBytes (width number : Nat) : Bytes :=
  (natBytes width number).reverse

/-- The number that bytes write, lowest first. -/
private def natOfLittleBytes (bytes : Bytes) : Nat :=
  natOfBytes bytes.reverse

/-- The 32 bytes of a point: its second coordinate, and the parity of the first in the last bit. -/
def Point.bytes (point : Point) : Bytes :=
  let inverse := powMod fieldSize point.z (fieldSize - 2)
  let x := point.x * inverse % fieldSize
  let y := point.y * inverse % fieldSize
  littleBytes 32 (y + x % 2 * Nat.pow 2 255)

/-- The point that 32 bytes denote. -/
def Point.ofBytes? (bytes : Bytes) : Option Point :=
  let number := natOfLittleBytes bytes
  let odd := number / Nat.pow 2 255
  let y := number % Nat.pow 2 255 % fieldSize
  let u := subtract (y * y) 1
  let v := (curveConstant * (y * y % fieldSize) + 1) % fieldSize
  let power := powMod fieldSize (u * Nat.pow v 7 % fieldSize) ((fieldSize - 5) / 8)
  let root := u * Nat.pow v 3 % fieldSize * power % fieldSize
  let square := v * root % fieldSize * root % fieldSize
  let found :=
    if square = u then some root
    else if square = subtract 0 u then some (root * rootOfMinusOne % fieldSize)
    else none
  found.map fun root => Point.ofAffine (if root % 2 = odd then root else subtract 0 root) y

/-- The secret scalar and the secret bytes that a seed expands to. -/
def expand (seed : Bytes) : Nat × Bytes :=
  let digest := Sha512.digest seed
  let number := natOfLittleBytes (digest.take 32)
  (Nat.pow 2 254 + number % Nat.pow 2 254 / 8 * 8, digest.drop 32)

def publicKey (seed : Bytes) : Bytes :=
  (basePoint.times (expand seed).1).bytes

/-- The scalar that binds a signature's point to the key and the message. -/
private def challenge (commitment key message : Bytes) : Nat :=
  natOfLittleBytes (Sha512.digest (commitment ++ key ++ message)) % order

/-- The signature of a message. -/
def sign (seed message : Bytes) : Bytes :=
  let (scalar, secret) := expand seed
  let nonce := natOfLittleBytes (Sha512.digest (secret ++ message)) % order
  let commitment := (basePoint.times nonce).bytes
  let challenge := challenge commitment (publicKey seed) message
  commitment ++ littleBytes 32 ((nonce + challenge * scalar) % order)

theorem sign_ne_nil (seed message : Bytes) : sign seed message ≠ [] := by
  intro empty
  have length := congrArg List.length (List.append_eq_nil_iff.mp empty).2
  rw [littleBytes, List.length_reverse, length_natBytes] at length
  cases length

def verify (key message signature : Bytes) : Bool :=
  let commitment := signature.take 32
  let scalar := natOfLittleBytes (signature.drop 32)
  if signature.length = 64 && decide (scalar < order) then
    match Point.ofBytes? key with
    | none => false
    | some point =>
        let challenge := challenge commitment key message
        ((basePoint.times scalar).add (point.negate.times challenge)).bytes = commitment
  else false

end LicenseSeal.Ed25519
