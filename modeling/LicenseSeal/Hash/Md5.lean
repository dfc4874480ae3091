import LicenseSeal.Hash.Blocks

/-!
# MD5

The hash function with a digest of 128 bits.  It counts from the lowest byte: in the words of a
block, in the length at the end of the input and in the digest.
-/

namespace LicenseSeal.Md5

/-- The first 32 bits behind the point of the sines of 1 to 64, signs dropped. -/
private def roundConstants : Array UInt32 := #[
  0xd76aa478, 0xe8c7b756, 0x242070db, 0xc1bdceee, 0xf57c0faf, 0x4787c62a, 0xa8304613, 0xfd469501,
  0x698098d8, 0x8b44f7af, 0xffff5bb1, 0x895cd7be, 0x6b901122, 0xfd987193, 0xa679438e, 0x49b40821,
  0xf61e2562, 0xc040b340, 0x265e5a51, 0xe9b6c7aa, 0xd62f105d, 0x02441453, 0xd8a1e681, 0xe7d3fbc8,
  0x21e1cde6, 0xc33707d6, 0xf4d50d87, 0x455a14ed, 0xa9e3e905, 0xfcefa3f8, 0x676f02d9, 0x8d2a4c8a,
  0xfffa3942, 0x8771f681, 0x6d9d6122, 0xfde5380c, 0xa4beea44, 0x4bdecfa9, 0xf6bb4b60, 0xbebfbc70,
  0x289b7ec6, 0xeaa127fa, 0xd4ef3085, 0x04881d05, 0xd9d4d039, 0xe6db99e5, 0x1fa27cf8, 0xc4ac5665,
  0xf4292244, 0x432aff97, 0xab9423a7, 0xfc93a039, 0x655b59c3, 0x8f0ccc92, 0xffeff47d, 0x85845dd1,
  0x6fa87e4f, 0xfe2ce6e0, 0xa3014314, 0x4e0811a1, 0xf7537e82, 0xbd3af235, 0x2ad7d2bb, 0xeb86d391]

/-- How far each round of a group of sixteen rotates, from four to four. -/
private def rotations : Array UInt32 := #[
  7, 12, 17, 22, 5, 9, 14, 20, 4, 11, 16, 23, 6, 10, 15, 21]

/-- The four words that blocks are mixed into. -/
structure State where
  a : UInt32
  b : UInt32
  c : UInt32
  d : UInt32

/-- The words before the first block. -/
def State.initial : State :=
  ⟨0x67452301, 0xefcdab89, 0x98badcfe, 0x10325476⟩

private def rotate (word amount : UInt32) : UInt32 :=
  (word <<< amount) ||| (word >>> (32 - amount))

/-- The word that bytes write, lowest byte first. -/
private def wordOfBytes (bytes : Bytes) : UInt32 :=
  UInt32.ofNat (natOfBytes bytes.reverse)

/-- What a round mixes out of three words, and the place of its word in the block. -/
private def selection (round : Nat) (b c d : UInt32) : UInt32 × Nat :=
  match round / 16 with
  | 0 => ((b &&& c) ||| ((~~~b) &&& d), round)
  | 1 => ((d &&& b) ||| ((~~~d) &&& c), (5 * round + 1) % 16)
  | 2 => (b ^^^ c ^^^ d, (3 * round + 5) % 16)
  | _ => (c ^^^ (b ||| ~~~d), 7 * round % 16)

/-- Mixes a block into the state. -/
def compress (state : State) (block : Bytes) : State :=
  let words := ((chunks 4 block).map wordOfBytes).toArray
  let mixed := (List.range 64).foldl (fun (state : State) i =>
    let (selected, place) := selection i state.b state.c state.d
    let sum := state.a + selected + roundConstants.getD i 0 + words.getD place 0
    let amount := rotations.getD (i / 16 * 4 + i % 4) 0
    ⟨state.d, state.b + rotate sum amount, state.b, state.c⟩) state
  ⟨state.a + mixed.a, state.b + mixed.b, state.c + mixed.c, state.d + mixed.d⟩

def State.bytes (state : State) : Bytes :=
  [state.a, state.b, state.c, state.d].flatMap fun word => (natBytes 4 word.toNat).reverse

/-- Mixes an input into a state that has already seen `seen` bytes, a whole number of blocks, and
finishes. -/
def finish (state : State) (seen : Nat) (input : Bytes) : Bytes :=
  let ending := (natBytes 8 (8 * (seen + input.length))).reverse
  ((chunks 64 (padded 64 ending seen input)).foldl compress state).bytes

def function : HashFunction State := ⟨64, 16, .initial, compress, finish⟩

end LicenseSeal.Md5
