import LicenseSeal.Hash.Blocks

/-!
# SHA-1

The hash function with a digest of 160 bits.  The input is padded to blocks of 64 bytes, and every
block is mixed into five words in 80 rounds.
-/

namespace LicenseSeal.Sha1

/-- The five words that blocks are mixed into. -/
structure State where
  a : UInt32
  b : UInt32
  c : UInt32
  d : UInt32
  e : UInt32

/-- The words before the first block. -/
def State.initial : State :=
  ⟨0x67452301, 0xefcdab89, 0x98badcfe, 0x10325476, 0xc3d2e1f0⟩

private def rotate (word amount : UInt32) : UInt32 :=
  (word <<< amount) ||| (word >>> (32 - amount))

/-- The word that bytes write, highest byte first. -/
private def wordOfBytes (bytes : Bytes) : UInt32 :=
  bytes.foldl (fun word byte => (word <<< 8) ||| byte.toUInt32) 0

/-- The words of a block, continued to one for each round. -/
private def schedule (block : Bytes) : Array UInt32 :=
  let words := ((chunks 4 block).map wordOfBytes).toArray
  (List.range (80 - 16)).foldl (fun words i =>
    words.push (rotate (words.getD (i + 13) 0 ^^^ words.getD (i + 8) 0 ^^^ words.getD (i + 2) 0
      ^^^ words.getD i 0) 1)) words

/-- What a round mixes out of three words, and its constant. -/
private def selection (round : Nat) (b c d : UInt32) : UInt32 × UInt32 :=
  if round < 20 then ((b &&& c) ||| ((~~~b) &&& d), 0x5a827999)
  else if round < 40 then (b ^^^ c ^^^ d, 0x6ed9eba1)
  else if round < 60 then ((b &&& c) ||| (b &&& d) ||| (c &&& d), 0x8f1bbcdc)
  else (b ^^^ c ^^^ d, 0xca62c1d6)

/-- Mixes a block into the state. -/
def compress (state : State) (block : Bytes) : State :=
  let words := schedule block
  let mixed := (List.range 80).foldl (fun (state : State) i =>
    let (selected, constant) := selection i state.b state.c state.d
    let sum := rotate state.a 5 + selected + state.e + constant + words.getD i 0
    ⟨sum, state.a, rotate state.b 30, state.c, state.d⟩) state
  ⟨state.a + mixed.a, state.b + mixed.b, state.c + mixed.c, state.d + mixed.d, state.e + mixed.e⟩

def State.bytes (state : State) : Bytes :=
  [state.a, state.b, state.c, state.d, state.e].flatMap fun word => natBytes 4 word.toNat

/-- Mixes an input into a state that has already seen `seen` bytes, a whole number of blocks, and
finishes. -/
def finish (state : State) (seen : Nat) (input : Bytes) : Bytes :=
  let ending := natBytes 8 (8 * (seen + input.length))
  ((chunks 64 (padded 64 ending seen input)).foldl compress state).bytes

def function : HashFunction State := ⟨64, 20, .initial, compress, finish⟩

end LicenseSeal.Sha1
