import LicenseSeal.Text

/-!
# Blocks of bytes

What the hash functions share: bytes cut into pieces of one length, numbers as bytes with the
highest first, the padding that ends with the length of the input, and what a hash function is.
-/

namespace LicenseSeal

/-- The pieces of a list, each of `size` items but for the last. -/
def chunks {α : Type} (size : Nat) (list : List α) : List (List α) :=
  match list with
  | [] => []
  | first :: rest => (first :: rest.take (size - 1)) :: chunks size (rest.drop (size - 1))
termination_by list.length
decreasing_by simp only [List.length_drop, List.length_cons]; omega

/-- The lowest `width` bytes of a number, highest first. -/
def natBytes : (width : Nat) → (number : Nat) → Bytes
  | 0, _ => []
  | width + 1, number => natBytes width (number / 256) ++ [UInt8.ofNat (number % 256)]

@[simp] theorem length_natBytes (width number : Nat) : (natBytes width number).length = width := by
  induction width generalizing number with
  | zero => rfl
  | succ width ih => rw [natBytes, List.length_append, ih, List.length_singleton]

/-- The number that bytes write, highest first. -/
def natOfBytes (bytes : Bytes) : Nat :=
  bytes.foldl (fun number byte => number * 256 + byte.toNat) 0

/-- An input after `seen` other bytes, padded to whole blocks: one bit, zeros, and `ending`, which
gives the length of all. -/
def padded (blockSize : Nat) (ending : Bytes) (seen : Nat) (input : Bytes) : Bytes :=
  let used := (seen + input.length + 1 + ending.length) % blockSize
  let zeros := (blockSize - used) % blockSize
  input ++ 0x80 :: List.replicate zeros 0 ++ ending

/-- Bytes mixed one by one with others. -/
def mixed (first second : Bytes) : Bytes :=
  List.zipWith (· ^^^ ·) first second

/-- A hash function that mixes an input into a state block by block. -/
structure HashFunction (State : Type) where
  /-- The number of bytes in a block. -/
  blockSize : Nat
  /-- The number of bytes in a digest. -/
  size : Nat
  initial : State
  /-- Mixes a block into a state. -/
  compress : State → Bytes → State
  /-- The digest of an input after whole blocks that have been mixed into a state. -/
  finish : State → (seen : Nat) → (input : Bytes) → Bytes

namespace HashFunction

def digest {State : Type} (function : HashFunction State) (input : Bytes) : Bytes :=
  function.finish function.initial 0 input

end HashFunction

end LicenseSeal
