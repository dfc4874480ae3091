import LicenseSeal.Cipher.Chain

/-!
# AES

The inverse of the block cipher with keys of 128, 192 or 256 bits.
-/

namespace LicenseSeal.Aes

/-- The double of an element of the field of 256 elements. -/
private def double (byte : UInt8) : UInt8 :=
  if byte &&& 0x80 = 0 then byte <<< 1 else (byte <<< 1) ^^^ 0x1B

/-- The product in the field of 256 elements. -/
private def multiply : (bits : Nat) → UInt8 → UInt8 → UInt8
  | 0, _, _ => 0
  | bits + 1, left, right =>
      (if right &&& 1 = 0 then 0 else left) ^^^ multiply bits (double left) (right >>> 1)

private def product (left right : UInt8) : UInt8 :=
  multiply 8 left right

/-- The inverse in the field of 256 elements: the power 254. -/
private def inverse (byte : UInt8) : UInt8 :=
  let square := product byte byte
  let step (power : UInt8) : UInt8 := product (product power power) square
  step (step (step (step (step (step square)))))

private def rotateByte (byte amount : UInt8) : UInt8 :=
  (byte <<< amount) ||| (byte >>> (8 - amount))

/-- The substitution of a byte: its inverse, spread by an affine map. -/
private def substitute (byte : UInt8) : UInt8 :=
  let found := inverse byte
  found ^^^ rotateByte found 1 ^^^ rotateByte found 2 ^^^ rotateByte found 3 ^^^
    rotateByte found 4 ^^^ 0x63

private def allBytes : List UInt8 :=
  (List.range 256).map UInt8.ofNat

/-- The substitution of every byte. -/
private def substitution : Array UInt8 :=
  (allBytes.map substitute).toArray

/-- The byte that every byte is the substitution of. -/
private def substitutionInverse : Array UInt8 :=
  allBytes.foldl (fun table byte => table.set! (substitute byte).toNat byte)
    (Array.replicate 256 0)

private def substituted (byte : UInt8) : UInt8 :=
  substitution.getD byte.toNat 0

private def unsubstituted (byte : UInt8) : UInt8 :=
  substitutionInverse.getD byte.toNat 0

/-- The words of four bytes that a key of `size` words expands to, the latest first. -/
private def expandWords (size : Nat) :
    (count index : Nat) → (constant : UInt8) → List Bytes → List Bytes
  | 0, _, _, words => words
  | count + 1, index, constant, words =>
      let latest := words.headD []
      let turned :=
        if index % size = 0 then
          mixed ((latest.drop 1 ++ latest.take 1).map substituted) [constant, 0, 0, 0]
        else if 6 < size && index % size = 4 then latest.map substituted
        else latest
      let word := mixed (words.getD (size - 1) []) turned
      expandWords size count (index + 1) (if index % size = 0 then double constant else constant)
        (word :: words)

/-- The round keys, the last one first; there are seven more than the key has words. -/
private def roundKeys (key : Bytes) : List Bytes :=
  let words := (chunks 4 key).reverse
  let size := words.length
  let expanded := expandWords size (4 * (size + 7) - size) size 1 words
  (chunks 4 expanded).map fun group => group.reverse.flatten

/-- Moves the rows of a block back. -/
private def unshifted (block : Bytes) : Bytes :=
  let cells := block.toArray
  (List.range 16).map fun index => cells.getD ((index + 16 - 4 * (index % 4)) % 16) 0

/-- Mixes one column of a block back. -/
private def unmixedColumn : Bytes → Bytes
  | [a, b, c, d] =>
      let sum (w x y z : UInt8) : UInt8 :=
        product w 14 ^^^ product x 11 ^^^ product y 13 ^^^ product z 9
      [sum a b c d, sum b c d a, sum c d a b, sum d a b c]
  | column => column

private def unmixed (block : Bytes) : Bytes :=
  (chunks 4 block).flatMap unmixedColumn

/-- Undoes the rounds of the remaining round keys. -/
private def undoRounds : List Bytes → Bytes → Bytes
  | [], block => block
  | [first], block => mixed ((unshifted block).map unsubstituted) first
  | key :: keys, block =>
      undoRounds keys (unmixed (mixed ((unshifted block).map unsubstituted) key))

/-- The block that a cipher block stands for. -/
def decryptBlock (key block : Bytes) : Bytes :=
  match roundKeys key with
  | [] => block
  | last :: keys => undoRounds keys (mixed block last)

/-- The cipher with keys of `keySize` bytes. -/
def cipher (keySize : Nat) : BlockCipher := ⟨keySize, 16, decryptBlock⟩

end LicenseSeal.Aes
