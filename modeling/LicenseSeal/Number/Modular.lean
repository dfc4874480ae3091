/-!
# Modular powers

Powers of natural numbers modulo a number, by squaring, and what is computed with them: inverses and
squares modulo a prime, and a test of primality.
-/

namespace LicenseSeal

/-- The remainder of a power. -/
def powMod (modulus base exponent : Nat) : Nat :=
  if exponent = 0 then 1 % modulus
  else
    let half := powMod modulus (base * base % modulus) (exponent / 2)
    if exponent % 2 = 1 then base * half % modulus else half
termination_by exponent
decreasing_by omega

/-- The number of binary digits. -/
def bitLength (number : Nat) : Nat :=
  if number = 0 then 0 else number.log2 + 1

/-- The difference of two remainders. -/
def subMod (modulus left right : Nat) : Nat :=
  (left + (modulus - right % modulus)) % modulus

/-- The inverse of a remainder modulo a prime. -/
def inverseMod (prime number : Nat) : Nat :=
  powMod prime number (prime - 2)

/-- Whether a number is a square modulo an odd prime. -/
def isSquareMod (prime number : Nat) : Bool :=
  powMod prime number ((prime - 1) / 2) ≤ 1

/-- How often a number can be halved, at most `bound` times, and what is left. -/
def halvings : (bound : Nat) → (number : Nat) → Nat × Nat
  | 0, number => (0, number)
  | bound + 1, number =>
      if number % 2 = 0 then
        let (count, rest) := halvings bound (number / 2)
        (count + 1, rest)
      else (0, number)

/-- Whether squaring a remainder up to `count - 1` times leads to minus one. -/
def reachesMinusOne (modulus : Nat) : (count : Nat) → (power : Nat) → Bool
  | 0, _ => false
  | count + 1, power =>
      power + 1 = modulus || reachesMinusOne modulus count (power * power % modulus)

/-- Whether a base does not show that an odd number is composite. -/
def passesBase (number base : Nat) : Bool :=
  let (count, odd) := halvings number.log2 (number - 1)
  let power := powMod number base odd
  power = 1 || reachesMinusOne number count power

/-- The primes below 42. -/
def smallPrimes : List Nat := [2, 3, 5, 7, 11, 13, 17, 19, 23, 29, 31, 37, 41]

/-- Whether none of the small primes, taken as a base, shows that a number is composite.  This tells
primes up to 3 * 10^24, and fails for hardly any number beyond. -/
def isProbablePrime (number : Nat) : Bool :=
  smallPrimes.contains number ||
    (1 < number && smallPrimes.all fun prime =>
      number % prime ≠ 0 && passesBase number prime)

end LicenseSeal
