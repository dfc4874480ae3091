import LicenseSeal.Cipher.Chain

/-!
# DES

The inverse of the block cipher with keys of 56 bits, alone and three times over.  Blocks are lists
of bits; a table of places says which bit of one list goes where in the next.
-/

namespace LicenseSeal.Des

/-- The bits of bytes, the highest of each first. -/
private def bitsOf (bytes : Bytes) : List Bool :=
  bytes.flatMap fun byte => (List.range 8).map fun place => byte.toNat.testBit (7 - place)

/-- The number that bits write, highest first. -/
private def natOfBits (bits : List Bool) : Nat :=
  bits.foldl (fun number bit => 2 * number + bit.toNat) 0

private def bytesOf (bits : List Bool) : Bytes :=
  (chunks 8 bits).map fun group => UInt8.ofNat (natOfBits group)

/-- The bits at places, counted from one. -/
private def picked (places : List Nat) (bits : List Bool) : List Bool :=
  let cells := bits.toArray
  places.map fun place => cells.getD (place - 1) false

private def mixedBits (first second : List Bool) : List Bool :=
  List.zipWith xor first second

/-- Where the bits of a block go before the first round. -/
private def initialPlaces : List Nat := [
  58, 50, 42, 34, 26, 18, 10, 2, 60, 52, 44, 36, 28, 20, 12, 4,
  62, 54, 46, 38, 30, 22, 14, 6, 64, 56, 48, 40, 32, 24, 16, 8,
  57, 49, 41, 33, 25, 17, 9, 1, 59, 51, 43, 35, 27, 19, 11, 3,
  61, 53, 45, 37, 29, 21, 13, 5, 63, 55, 47, 39, 31, 23, 15, 7]

/-- Where the bits of a block go after the last round. -/
private def finalPlaces : List Nat := [
  40, 8, 48, 16, 56, 24, 64, 32, 39, 7, 47, 15, 55, 23, 63, 31,
  38, 6, 46, 14, 54, 22, 62, 30, 37, 5, 45, 13, 53, 21, 61, 29,
  36, 4, 44, 12, 52, 20, 60, 28, 35, 3, 43, 11, 51, 19, 59, 27,
  34, 2, 42, 10, 50, 18, 58, 26, 33, 1, 41, 9, 49, 17, 57, 25]

/-- The bits of half a block that are mixed with a round key, the outer ones of each six twice. -/
private def spreadPlaces : List Nat := [
  32, 1, 2, 3, 4, 5, 4, 5, 6, 7, 8, 9, 8, 9, 10, 11, 12, 13, 12, 13, 14, 15, 16, 17,
  16, 17, 18, 19, 20, 21, 20, 21, 22, 23, 24, 25, 24, 25, 26, 27, 28, 29, 28, 29, 30, 31, 32, 1]

/-- Where the bits that a round substitutes go. -/
private def roundPlaces : List Nat := [
  16, 7, 20, 21, 29, 12, 28, 17, 1, 15, 23, 26, 5, 18, 31, 10,
  2, 8, 24, 14, 32, 27, 3, 9, 19, 13, 30, 6, 22, 11, 4, 25]

/-- The bits of a key that count. -/
private def keyPlaces : List Nat := [
  57, 49, 41, 33, 25, 17, 9, 1, 58, 50, 42, 34, 26, 18, 10, 2, 59, 51, 43, 35, 27, 19, 11, 3,
  60, 52, 44, 36, 63, 55, 47, 39, 31, 23, 15, 7, 62, 54, 46, 38, 30, 22, 14, 6, 61, 53, 45, 37,
  29, 21, 13, 5, 28, 20, 12, 4]

/-- The bits of the turned halves of a key that make a round key. -/
private def roundKeyPlaces : List Nat := [
  14, 17, 11, 24, 1, 5, 3, 28, 15, 6, 21, 10, 23, 19, 12, 4, 26, 8, 16, 7, 27, 20, 13, 2,
  41, 52, 31, 37, 47, 55, 30, 40, 51, 45, 33, 48, 44, 49, 39, 56, 34, 53, 46, 42, 50, 36, 29, 32]

/-- How far the halves of a key have turned in each round. -/
private def turns : List Nat := [1, 2, 4, 6, 8, 10, 12, 14, 15, 17, 19, 21, 23, 25, 27, 28]

/-- What each six bits are substituted by, row by row: the outer bits choose the row. -/
private def boxes : List (Array Nat) := [
  #[14, 4, 13, 1, 2, 15, 11, 8, 3, 10, 6, 12, 5, 9, 0, 7,
    0, 15, 7, 4, 14, 2, 13, 1, 10, 6, 12, 11, 9, 5, 3, 8,
    4, 1, 14, 8, 13, 6, 2, 11, 15, 12, 9, 7, 3, 10, 5, 0,
    15, 12, 8, 2, 4, 9, 1, 7, 5, 11, 3, 14, 10, 0, 6, 13],
  #[15, 1, 8, 14, 6, 11, 3, 4, 9, 7, 2, 13, 12, 0, 5, 10,
    3, 13, 4, 7, 15, 2, 8, 14, 12, 0, 1, 10, 6, 9, 11, 5,
    0, 14, 7, 11, 10, 4, 13, 1, 5, 8, 12, 6, 9, 3, 2, 15,
    13, 8, 10, 1, 3, 15, 4, 2, 11, 6, 7, 12, 0, 5, 14, 9],
  #[10, 0, 9, 14, 6, 3, 15, 5, 1, 13, 12, 7, 11, 4, 2, 8,
    13, 7, 0, 9, 3, 4, 6, 10, 2, 8, 5, 14, 12, 11, 15, 1,
    13, 6, 4, 9, 8, 15, 3, 0, 11, 1, 2, 12, 5, 10, 14, 7,
    1, 10, 13, 0, 6, 9, 8, 7, 4, 15, 14, 3, 11, 5, 2, 12],
  #[7, 13, 14, 3, 0, 6, 9, 10, 1, 2, 8, 5, 11, 12, 4, 15,
    13, 8, 11, 5, 6, 15, 0, 3, 4, 7, 2, 12, 1, 10, 14, 9,
    10, 6, 9, 0, 12, 11, 7, 13, 15, 1, 3, 14, 5, 2, 8, 4,
    3, 15, 0, 6, 10, 1, 13, 8, 9, 4, 5, 11, 12, 7, 2, 14],
  #[2, 12, 4, 1, 7, 10, 11, 6, 8, 5, 3, 15, 13, 0, 14, 9,
    14, 11, 2, 12, 4, 7, 13, 1, 5, 0, 15, 10, 3, 9, 8, 6,
    4, 2, 1, 11, 10, 13, 7, 8, 15, 9, 12, 5, 6, 3, 0, 14,
    11, 8, 12, 7, 1, 14, 2, 13, 6, 15, 0, 9, 10, 4, 5, 3],
  #[12, 1, 10, 15, 9, 2, 6, 8, 0, 13, 3, 4, 14, 7, 5, 11,
    10, 15, 4, 2, 7, 12, 9, 5, 6, 1, 13, 14, 0, 11, 3, 8,
    9, 14, 15, 5, 2, 8, 12, 3, 7, 0, 4, 10, 1, 13, 11, 6,
    4, 3, 2, 12, 9, 5, 15, 10, 11, 14, 1, 7, 6, 0, 8, 13],
  #[4, 11, 2, 14, 15, 0, 8, 13, 3, 12, 9, 7, 5, 10, 6, 1,
    13, 0, 11, 7, 4, 9, 1, 10, 14, 3, 5, 12, 2, 15, 8, 6,
    1, 4, 11, 13, 12, 3, 7, 14, 10, 15, 6, 8, 0, 5, 9, 2,
    6, 11, 13, 8, 1, 4, 10, 7, 9, 5, 0, 15, 14, 2, 3, 12],
  #[13, 2, 8, 4, 6, 15, 11, 1, 10, 9, 3, 14, 5, 0, 12, 7,
    1, 15, 13, 8, 10, 3, 7, 4, 12, 5, 6, 11, 0, 14, 9, 2,
    7, 11, 4, 1, 9, 12, 14, 2, 0, 6, 10, 13, 15, 3, 5, 8,
    2, 1, 14, 7, 4, 10, 8, 13, 15, 12, 9, 0, 3, 5, 6, 11]]

/-- The substitution of six bits. -/
private def substituted (box : Array Nat) (bits : List Bool) : List Bool :=
  let row := natOfBits (bits.take 1 ++ bits.drop 5)
  let column := natOfBits ((bits.drop 1).take 4)
  let found := box.getD (16 * row + column) 0
  (List.range 4).map fun place => found.testBit (3 - place)

/-- What a round key makes of half a block. -/
private def scrambled (key half : List Bool) : List Bool :=
  let groups := chunks 6 (mixedBits (picked spreadPlaces half) key)
  picked roundPlaces (List.zipWith substituted boxes groups).flatten

private def turned (amount : Nat) (bits : List Bool) : List Bool :=
  bits.drop amount ++ bits.take amount

/-- The sixteen round keys of a key. -/
private def roundKeys (key : Bytes) : List (List Bool) :=
  let (left, right) := (picked keyPlaces (bitsOf key)).splitAt 28
  turns.map fun amount => picked roundKeyPlaces (turned amount left ++ turned amount right)

/-- Carries out rounds, one for each of some round keys. -/
private def crypt (keys : List (List Bool)) (block : Bytes) : Bytes :=
  let (left, right) := (picked initialPlaces (bitsOf block)).splitAt 32
  let (left, right) := keys.foldl (fun (left, right) key =>
    (right, mixedBits left (scrambled key right))) (left, right)
  bytesOf (picked finalPlaces (right ++ left))

/-- The block that a cipher block stands for. -/
def decryptBlock (key block : Bytes) : Bytes :=
  crypt (roundKeys key).reverse block

def encryptBlock (key block : Bytes) : Bytes :=
  crypt (roundKeys key) block

def cipher : BlockCipher := ⟨8, 8, decryptBlock⟩

/-- The block that a cipher block stands for under the three parts of a key. -/
def decryptTriple (key block : Bytes) : Bytes :=
  let inner := decryptBlock (key.drop 16) block
  decryptBlock (key.take 8) (encryptBlock ((key.drop 8).take 8) inner)

/-- The cipher three times over. -/
def tripleCipher : BlockCipher := ⟨24, 8, decryptTriple⟩

end LicenseSeal.Des
