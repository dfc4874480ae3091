import LicenseSeal.Hash.Blocks

/-!
# Tagged elements

Key material is a nest of elements, each with a tag, a length and a content.  A length is written in
the only way that is shortest, and an element's content is used up by what is read from it.
-/

namespace LicenseSeal.Der

/-- The tag of an element. -/
inductive Tag where
  | integer
  | bitString
  | octetString
  | null
  | objectIdentifier
  | sequence
  | set
  /-- A tag that its context gives a meaning. -/
  | context (number : Nat)
  deriving DecidableEq, Repr

def Tag.byte : Tag → UInt8
  | .integer => 0x02
  | .bitString => 0x03
  | .octetString => 0x04
  | .null => 0x05
  | .objectIdentifier => 0x06
  | .sequence => 0x30
  | .set => 0x31
  | .context number => 0xA0 + UInt8.ofNat number

/-- The length at the front of bytes. -/
def length? : Bytes → Option (Nat × Bytes)
  | [] => none
  | first :: rest =>
      if first < 0x80 then some (first.toNat, rest)
      else
        let count := (first - 0x80).toNat
        let digits := rest.take count
        let length := natOfBytes digits
        if count = 0 || digits.length < count || digits.head? = some 0 || length < 0x80 then none
        else some (length, rest.drop count)

/-- The content behind a tag at the front of bytes, and what follows it. -/
def content? (bytes : Bytes) : Option (Bytes × Bytes) :=
  match length? bytes with
  | none => none
  | some (length, rest) =>
      if rest.length < length then none else some (rest.take length, rest.drop length)

/-- The content of the element of a tag at the front of bytes, and what follows it. -/
def element? (tag : Tag) : Bytes → Option (Bytes × Bytes)
  | [] => none
  | first :: rest => if first = tag.byte then content? rest else none

/-- The content of the one element that bytes consist of. -/
def whole? (tag : Tag) (bytes : Bytes) : Option Bytes :=
  match element? tag bytes with
  | some (content, []) => some content
  | _ => none

/-- The content of the element of a tag at the front of bytes, if there is one, and what follows.
An element of the tag that is malformed is an error. -/
def optional? (tag : Tag) (bytes : Bytes) : Option (Option Bytes × Bytes) :=
  if bytes.head? = some tag.byte then
    (element? tag bytes).map fun found => (some found.1, found.2)
  else some (none, bytes)

/-- What follows a long tag: its number in groups of seven bits, without a needless first one. -/
def afterLongTag? (rest : Bytes) : Option Bytes :=
  let groups := rest.takeWhile (0x80 ≤ ·)
  match rest.drop groups.length with
  | [] => none
  | last :: rest =>
      let isLong := !groups.isEmpty || 0x1F ≤ last
      if isLong && groups.head? ≠ some 0x80 && groups.length ≤ 3 then some rest else none

/-- The element at the front of bytes, whatever its tag, and what follows it. -/
def anyElement? : Bytes → Option (Bytes × Bytes)
  | [] => none
  | first :: rest => do
      let behind ← if first &&& 0x1F = 0x1F then afterLongTag? rest else some rest
      let (_, after) ← content? behind
      some ((first :: rest).take (rest.length + 1 - after.length), after)

/-- The elements that bytes consist of; `fuel` bounds their number. -/
def elements? : (fuel : Nat) → Bytes → Option (List Bytes)
  | _, [] => some []
  | 0, _ :: _ => none
  | fuel + 1, bytes => do
      let (first, rest) ← anyElement? bytes
      let others ← elements? fuel rest
      some (first :: others)

private def isBelow : Bytes → Bytes → Bool
  | _, [] => false
  | [], _ :: _ => true
  | a :: first, b :: second => a < b || (a = b && isBelow first second)

/-- Whether no item of a list is below the one before it. -/
private def isOrdered : List Bytes → Bool
  | first :: second :: rest => !isBelow second first && isOrdered (second :: rest)
  | _ => true

/-- The elements of a set, which stand in order. -/
def members? (content : Bytes) : Option (List Bytes) :=
  (elements? content.length content).filter isOrdered

/-- Whether the content of an object identifier is well formed: groups of seven bits, each number
without a needless first one, the last one finished. -/
def isIdentifier (content : Bytes) : Bool :=
  let startsWell := ((0 : UInt8) :: content).zip content |>.all fun (before, byte) =>
    0x80 ≤ before || byte ≠ 0x80
  !content.isEmpty && content.length ≤ 63 && startsWell && content.getLast?.any (· < 0x80)

/-- The object identifier at the front of bytes, and what follows. -/
def identifier? (bytes : Bytes) : Option (Bytes × Bytes) :=
  (element? .objectIdentifier bytes).filter fun found => isIdentifier found.1

/-- The natural number at the front of bytes, written without needless zeros, and what follows. -/
def natural? (bytes : Bytes) : Option (Nat × Bytes) :=
  match element? .integer bytes with
  | none => none
  | some (content, rest) =>
      match content with
      | [] => none
      | [only] => if only < 0x80 then some (only.toNat, rest) else none
      | first :: second :: _ =>
          if first < 0x80 && !(first = 0 && second < 0x80) then some (natOfBytes content, rest)
          else none

/-- The natural number of at most a number of bits at the front of bytes, and what follows. -/
def naturalOfBits? (bits : Nat) (bytes : Bytes) : Option (Nat × Bytes) :=
  (natural? bytes).filter fun found => found.1 < Nat.pow 2 bits

/-- The natural number at the front of bytes, if an integer stands there, and what follows. -/
def optionalNatural? (bits : Nat) (bytes : Bytes) : Option (Option Nat × Bytes) :=
  if bytes.head? = some Tag.integer.byte then
    (naturalOfBits? bits bytes).map fun found => (some found.1, found.2)
  else some (none, bytes)

/-- The natural numbers that bytes consist of. -/
def naturals? (bytes : Bytes) (count : Nat) : Option (List Nat) :=
  match count with
  | 0 => if bytes.isEmpty then some [] else none
  | count + 1 =>
      match natural? bytes with
      | none => none
      | some (number, rest) => (naturals? rest count).map (number :: ·)

/-- The natural number that bytes consist of. -/
def wholeNatural? (bytes : Bytes) : Option Nat :=
  (naturals? bytes 1).bind List.head?

/-- The bytes of the content of a bit string; bits at the end that do not count are zero. -/
def bits? : Bytes → Option Bytes
  | [] => none
  | unused :: bytes =>
      let clear := bytes.getLast?.any fun last => last &&& ((1 <<< unused) - 1) = 0
      if unused = 0 || (unused < 8 && clear) then some bytes else none

/-- The bytes of the one bit string that bytes consist of. -/
def wholeBits? (bytes : Bytes) : Option Bytes :=
  (whole? .bitString bytes).bind bits?

def lengthBytes (length : Nat) : Bytes :=
  if length < 0x80 then [UInt8.ofNat length]
  else
    let size := length.log2 / 8 + 1
    (0x80 + UInt8.ofNat size) :: natBytes size length

/-- The element of a tag and a content. -/
def write (tag : Tag) (content : Bytes) : Bytes :=
  tag.byte :: lengthBytes content.length ++ content

/-- The element of a natural number. -/
def writeNatural (number : Nat) : Bytes :=
  write .integer (natBytes (number.log2 / 8 + 1) number |> fun bytes =>
    if bytes.head?.any (0x80 ≤ ·) then 0 :: bytes else bytes)

end LicenseSeal.Der
