import LicenseSeal.Hash.Blocks

/-!
# Keyed hashing

The keyed hash over a hash function, and the derivation of a key from a password by repeating it.
-/

namespace LicenseSeal.Hmac

/-- A key in use: the states of the inner and the outer hash after their first block. -/
structure Prepared (State : Type) where
  inner : State
  outer : State

variable {State : Type} (function : HashFunction State)

def prepare (key : Bytes) : Prepared State :=
  let short := if function.blockSize < key.length then function.digest key else key
  let block := short ++ List.replicate (function.blockSize - short.length) 0
  ⟨function.compress function.initial (block.map (· ^^^ 0x36)),
    function.compress function.initial (block.map (· ^^^ 0x5C))⟩

def digest (key : Prepared State) (message : Bytes) : Bytes :=
  function.finish key.outer function.blockSize
    (function.finish key.inner function.blockSize message)

/-- Folds further rounds of the keyed hash into a block. -/
private def rounds (key : Prepared State) : (count : Nat) → (latest block : Bytes) → Bytes
  | 0, _, block => block
  | count + 1, latest, block =>
      let next := digest function key latest
      rounds key count next (mixed block next)

/-- A key of `size` bytes derived from a password. -/
def derive (password salt : Bytes) (iterations size : Nat) : Bytes :=
  let key := prepare function password
  let block (number : Nat) : Bytes :=
    let first := digest function key (salt ++ natBytes 4 number)
    rounds function key (iterations - 1) first first
  let count := (size + function.size - 1) / function.size
  ((List.range count).flatMap fun index => block (index + 1)).take size

end LicenseSeal.Hmac
