import LicenseSeal.Hash.Blocks

/-!
# SHA-256 and SHA-224

The hash functions with digests of 256 and of 224 bits.  The input is padded to blocks of 64 bytes,
and every block is mixed into eight words in 64 rounds.
-/

namespace LicenseSeal.Sha256

/-- The fractional parts of the cube roots of the first 64 primes. -/
private def roundConstants : Array UInt32 := #[
  0x428a2f98, 0x71374491, 0xb5c0fbcf, 0xe9b5dba5, 0x3956c25b, 0x59f111f1, 0x923f82a4, 0xab1c5ed5,
  0xd807aa98, 0x12835b01, 0x243185be, 0x550c7dc3, 0x72be5d74, 0x80deb1fe, 0x9bdc06a7, 0xc19bf174,
  0xe49b69c1, 0xefbe4786, 0x0fc19dc6, 0x240ca1cc, 0x2de92c6f, 0x4a7484aa, 0x5cb0a9dc, 0x76f988da,
  0x983e5152, 0xa831c66d, 0xb00327c8, 0xbf597fc7, 0xc6e00bf3, 0xd5a79147, 0x06ca6351, 0x14292967,
  0x27b70a85, 0x2e1b2138, 0x4d2c6dfc, 0x53380d13, 0x650a7354, 0x766a0abb, 0x81c2c92e, 0x92722c85,
  0xa2bfe8a1, 0xa81a664b, 0xc24b8b70, 0xc76c51a3, 0xd192e819, 0xd6990624, 0xf40e3585, 0x106aa070,
  0x19a4c116, 0x1e376c08, 0x2748774c, 0x34b0bcb5, 0x391c0cb3, 0x4ed8aa4a, 0x5b9cca4f, 0x682e6ff3,
  0x748f82ee, 0x78a5636f, 0x84c87814, 0x8cc70208, 0x90befffa, 0xa4506ceb, 0xbef9a3f7, 0xc67178f2]

/-- The eight words that blocks are mixed into. -/
structure State where
  a : UInt32
  b : UInt32
  c : UInt32
  d : UInt32
  e : UInt32
  f : UInt32
  g : UInt32
  h : UInt32

/-- The fractional parts of the square roots of the first eight primes. -/
def State.initial : State := ⟨
  0x6a09e667, 0xbb67ae85, 0x3c6ef372, 0xa54ff53a, 0x510e527f, 0x9b05688c, 0x1f83d9ab, 0x5be0cd19⟩

private def rotate (word amount : UInt32) : UInt32 :=
  (word >>> amount) ||| (word <<< (32 - amount))

/-- The word that bytes write, highest byte first. -/
private def wordOfBytes (bytes : Bytes) : UInt32 :=
  bytes.foldl (fun word byte => (word <<< 8) ||| byte.toUInt32) 0

/-- The bytes of a word, highest first. -/
private def bytesOfWord (word : UInt32) : Bytes :=
  natBytes 4 word.toNat

/-- The words of a block, continued to one for each round. -/
private def schedule (block : Bytes) : Array UInt32 :=
  let words := ((chunks 4 block).map wordOfBytes).toArray
  (List.range (64 - 16)).foldl (fun words i =>
    let first := words.getD (i + 1) 0
    let last := words.getD (i + 14) 0
    let mixed := rotate first 7 ^^^ rotate first 18 ^^^ (first >>> 3)
    let mixed' := rotate last 17 ^^^ rotate last 19 ^^^ (last >>> 10)
    words.push (words.getD i 0 + mixed + words.getD (i + 9) 0 + mixed')) words

/-- One round with the sum of its constant and its word. -/
private def round (state : State) (input : UInt32) : State :=
  let mixed := rotate state.e 6 ^^^ rotate state.e 11 ^^^ rotate state.e 25
  let choice := (state.e &&& state.f) ^^^ ((~~~state.e) &&& state.g)
  let first := state.h + mixed + choice + input
  let mixed' := rotate state.a 2 ^^^ rotate state.a 13 ^^^ rotate state.a 22
  let majority := (state.a &&& state.b) ^^^ (state.a &&& state.c) ^^^ (state.b &&& state.c)
  ⟨first + (mixed' + majority), state.a, state.b, state.c, state.d + first, state.e, state.f,
    state.g⟩

/-- Mixes a block into the state. -/
def compress (state : State) (block : Bytes) : State :=
  let words := schedule block
  let mixed := (List.range 64).foldl (fun state i =>
    round state (roundConstants.getD i 0 + words.getD i 0)) state
  ⟨state.a + mixed.a, state.b + mixed.b, state.c + mixed.c, state.d + mixed.d,
    state.e + mixed.e, state.f + mixed.f, state.g + mixed.g, state.h + mixed.h⟩

def State.bytes (state : State) : Bytes :=
  [state.a, state.b, state.c, state.d, state.e, state.f, state.g, state.h].flatMap bytesOfWord

/-- Mixes an input into a state that has already seen `seen` bytes, a whole number of blocks, and
finishes. -/
def finish (state : State) (seen : Nat) (input : Bytes) : Bytes :=
  let ending := natBytes 8 (8 * (seen + input.length))
  ((chunks 64 (padded 64 ending seen input)).foldl compress state).bytes

def function : HashFunction State := ⟨64, 32, .initial, compress, finish⟩

def digest (input : Bytes) : Bytes :=
  function.digest input

theorem length_digest (input : Bytes) : (digest input).length = 32 := by
  change (State.bytes _).length = 32
  simp [State.bytes, bytesOfWord]

end LicenseSeal.Sha256

namespace LicenseSeal.Sha224

/-- The low halves of the fractional parts of the square roots of the ninth to sixteenth primes. -/
def initial : Sha256.State := ⟨
  0xc1059ed8, 0x367cd507, 0x3070dd17, 0xf70e5939, 0xffc00b31, 0x68581511, 0x64f98fa7, 0xbefa4fa4⟩

/-- The shorter hash function: another initial state, and the last word left out. -/
def function : HashFunction Sha256.State :=
  ⟨64, 28, initial, Sha256.compress, fun state seen input =>
    (Sha256.finish state seen input).take 28⟩

end LicenseSeal.Sha224
