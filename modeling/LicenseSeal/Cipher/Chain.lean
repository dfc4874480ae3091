import LicenseSeal.Hash.Blocks

/-!
# Chained blocks

A block cipher takes blocks of one length.  Longer content is a chain of blocks, each mixed with the
cipher block before it, with padding at the end.
-/

namespace LicenseSeal

/-- A block cipher: the lengths of its keys and blocks, and what a cipher block stands for. -/
structure BlockCipher where
  keySize : Nat
  blockSize : Nat
  decryptBlock : (key block : Bytes) → Bytes

namespace BlockCipher

/-- The blocks of a chain, each one mixed with the cipher block before it. -/
private def decryptChain (decryptBlock : Bytes → Bytes) : (previous : Bytes) → List Bytes → Bytes
  | _, [] => []
  | previous, block :: blocks =>
      mixed (decryptBlock block) previous ++ decryptChain decryptBlock block blocks

/-- The content without its padding, whose bytes all give its length. -/
private def unpadded? (blockSize : Nat) (content : Bytes) : Option Bytes :=
  match content.getLast? with
  | none => none
  | some last =>
      let size := last.toNat
      let (kept, padding) := content.splitAt (content.length - size)
      if 0 < size && size ≤ blockSize && padding.length = size && padding.all (· = last) then
        some kept
      else none

/-- The content of chained cipher blocks; `start` is mixed with the first one. -/
def decrypt? (cipher : BlockCipher) (key start content : Bytes) : Option Bytes :=
  let size := cipher.blockSize
  if key.length = cipher.keySize && start.length = size && content.length % size = 0 then
    unpadded? size (decryptChain (cipher.decryptBlock key) start (chunks size content))
  else none

end BlockCipher

end LicenseSeal
