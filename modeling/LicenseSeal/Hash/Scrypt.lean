import LicenseSeal.Hash.Hmac
import LicenseSeal.Hash.Sha256

/-!
# Key derivation that needs memory

A key is derived from a password by way of a table that is filled in order and then read in an order
that depends on what is read.
-/

namespace LicenseSeal.Scrypt

/-- How much a derivation takes: the size of the table, the size of its entries in pairs of 64
bytes, and how many tables are filled. -/
structure Cost where
  table : Nat
  pairs : Nat
  lanes : Nat
  deriving DecidableEq, Repr

/-- Whether a table's size is a power of two above one, and nothing is zero or too large. -/
def Cost.isValid (cost : Cost) : Bool :=
  1 < cost.table && Nat.pow 2 cost.table.log2 = cost.table && 0 < cost.pairs && 0 < cost.lanes &&
    cost.lanes * cost.pairs < Nat.pow 2 30 && cost.table.log2 < 16 * cost.pairs

/-- Words of 32 bits. -/
private abbrev Words := Array UInt32

private def rotate (word amount : UInt32) : UInt32 :=
  (word <<< amount) ||| (word >>> (32 - amount))

/-- The steps of a double round: the word that changes, two that are added, and how far their sum
is rotated. -/
private def steps : List (Nat × Nat × Nat × UInt32) := [
  (4, 0, 12, 7), (8, 4, 0, 9), (12, 8, 4, 13), (0, 12, 8, 18),
  (9, 5, 1, 7), (13, 9, 5, 9), (1, 13, 9, 13), (5, 1, 13, 18),
  (14, 10, 6, 7), (2, 14, 10, 9), (6, 2, 14, 13), (10, 6, 2, 18),
  (3, 15, 11, 7), (7, 3, 15, 9), (11, 7, 3, 13), (15, 11, 7, 18),
  (1, 0, 3, 7), (2, 1, 0, 9), (3, 2, 1, 13), (0, 3, 2, 18),
  (6, 5, 4, 7), (7, 6, 5, 9), (4, 7, 6, 13), (5, 4, 7, 18),
  (11, 10, 9, 7), (8, 11, 10, 9), (9, 8, 11, 13), (10, 9, 8, 18),
  (12, 15, 14, 7), (13, 12, 15, 9), (14, 13, 12, 13), (15, 14, 13, 18)]

private def step (words : Words) (form : Nat × Nat × Nat × UInt32) : Words :=
  let (place, first, second, amount) := form
  let sum := words.getD first 0 + words.getD second 0
  words.set! place (words.getD place 0 ^^^ rotate sum amount)

/-- Mixes sixteen words. -/
private def mixCore (words : Words) : Words :=
  let found := (List.range 4).foldl (fun words _ => steps.foldl step words) words
  Array.zipWith (· + ·) words found

/-- The places of an entry's pieces in the order in which they are put together again. -/
private def piecePlaces (pairs : Nat) : List Nat :=
  (List.range pairs).map (2 * ·) ++ (List.range pairs).map (2 * · + 1)

/-- Mixes an entry: every piece of sixteen words with the one before it. -/
private def mixEntry (pairs : Nat) (entry : Words) : Words :=
  let piece (index : Nat) : Words := entry.extract (16 * index) (16 * index + 16)
  let (_, pieces) := (List.range (2 * pairs)).foldl (fun (latest, pieces) index =>
    let next := mixCore (Array.zipWith (· ^^^ ·) latest (piece index))
    (next, pieces.push next)) (piece (2 * pairs - 1), (#[] : Array Words))
  (piecePlaces pairs).foldl (fun words index => words ++ pieces.getD index #[]) #[]

/-- The place in the table that an entry leads to. -/
private def target (cost : Cost) (entry : Words) : Nat :=
  (entry.getD (32 * cost.pairs - 16) 0).toNat % cost.table

/-- Mixes an entry by way of the table. -/
private def mixLane (cost : Cost) (entry : Words) : Words :=
  let (entry, table) := (List.range cost.table).foldl (fun (entry, table) _ =>
    (mixEntry cost.pairs entry, table.push entry)) (entry, (#[] : Array Words))
  (List.range cost.table).foldl (fun entry _ =>
    let other := table.getD (target cost entry) #[]
    mixEntry cost.pairs (Array.zipWith (· ^^^ ·) entry other)) entry

private def wordsOfBytes (bytes : Bytes) : Words :=
  ((chunks 4 bytes).map fun word => UInt32.ofNat (natOfBytes word.reverse)).toArray

private def bytesOfWords (words : Words) : Bytes :=
  words.toList.flatMap fun word => (natBytes 4 word.toNat).reverse

/-- A key of `size` bytes derived from a password. -/
def derive (cost : Cost) (password salt : Bytes) (size : Nat) : Bytes :=
  let start := Hmac.derive Sha256.function password salt 1 (128 * cost.pairs * cost.lanes)
  let lanes := (chunks (128 * cost.pairs) start).flatMap fun lane =>
    bytesOfWords (mixLane cost (wordsOfBytes lane))
  Hmac.derive Sha256.function password lanes 1 size

end LicenseSeal.Scrypt
