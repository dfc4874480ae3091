import LicenseSeal.Encoding.Utf8
import LicenseSeal.Text.Base64
import LicenseSeal.Text.Blank

/-!
# Key blocks in text

Key material is carried in blocks between a line that begins and a line that ends them, each with
the block's label.  Whatever stands around the blocks is skipped.  Marks are searched without going
back: a byte that breaks off a mark that has begun does not begin another one.
-/

namespace LicenseSeal.Pem

/-- A block: its label, the headers in front of its content, and its content. -/
structure Block where
  label : Text
  headers : List (Text × Text)
  content : Bytes
  deriving DecidableEq, Repr

/-- The last header of a name. -/
def Block.header? (block : Block) (name : String) : Option Text :=
  (block.headers.reverse.find? fun header => header.1 = name.text).map Prod.snd

private def ascii (text : String) : Bytes :=
  text.toList.map fun c => UInt8.ofNat c.toNat

private def beginMark : Bytes := ascii "-----BEGIN "
private def endMark : Bytes := ascii "-----END "
private def dashes : Bytes := ascii "-----"

/-- Searches what is `left` of a mark; the bytes that have been `seen` stand in reverse. -/
private def seek (mark : Bytes) : (left seen : Bytes) → Bytes → Option (Bytes × Bytes)
  | [], seen, rest => some ((seen.drop mark.length).reverse, rest)
  | _ :: _, _, [] => none
  | next :: left, seen, byte :: rest =>
      seek mark (if byte = next then left else mark) (byte :: seen) rest

/-- What stands in front of a mark, and what follows it. -/
def seek? (mark bytes : Bytes) : Option (Bytes × Bytes) :=
  seek mark mark [] bytes

/-- A block as it is cut out of its surroundings. -/
structure Cut where
  label : Bytes
  body : Bytes
  endLabel : Bytes

private def isGap (byte : UInt8) : Bool :=
  byte = 0x20 || byte = 0x09 || byte = 0x0A || byte = 0x0D

/-- The first block in bytes, and what follows it. -/
def cut? (bytes : Bytes) : Option (Cut × Bytes) := do
  let (_, rest) ← seek? beginMark bytes
  let (label, rest) ← seek? dashes rest
  let (body, rest) ← seek? endMark (rest.dropWhile isGap)
  let (endLabel, rest) ← seek? dashes rest
  some (⟨label, body, endLabel⟩, rest)

private theorem seek_eq_none {next : UInt8} {left bytes : Bytes} (absent : next ∉ bytes)
    (seen : Bytes) : seek (next :: left) (next :: left) seen bytes = none := by
  induction bytes generalizing seen with
  | nil => rfl
  | cons byte rest ih =>
      rw [List.mem_cons, not_or] at absent
      rw [seek, if_neg (Ne.symm absent.1)]
      exact ih absent.2 _

/-- Bytes without a dash hold no block. -/
theorem cut?_eq_none {bytes : Bytes} (noDash : 0x2D ∉ bytes) : cut? bytes = none := by
  have begins : beginMark = 0x2D :: beginMark.tail := by decide
  rw [cut?, seek?, begins, seek_eq_none noDash]
  rfl

private theorem seek_append_left {next : UInt8} {left before : Bytes} (absent : next ∉ before)
    (seen bytes : Bytes) :
    seek (next :: left) (next :: left) seen (before ++ bytes) =
      seek (next :: left) (next :: left) (before.reverse ++ seen) bytes := by
  induction before generalizing seen with
  | nil => rfl
  | cons byte before ih =>
      rw [List.mem_cons, not_or] at absent
      rw [List.cons_append, seek, if_neg (Ne.symm absent.1), ih absent.2, List.reverse_cons,
        List.append_assoc, List.singleton_append]

/-- What follows a mark does not depend on what was seen before. -/
private theorem map_snd_seek (mark left seen seen' bytes : Bytes) :
    (seek mark left seen bytes).map Prod.snd = (seek mark left seen' bytes).map Prod.snd := by
  induction bytes generalizing left seen seen' with
  | nil => cases left <;> rfl
  | cons byte bytes ih =>
      cases left with
      | nil => rfl
      | cons next left => exact ih _ _ _

/-- Bytes without a dash in front of others do not change which block is the first. -/
theorem cut?_append_left {before : Bytes} (noDash : 0x2D ∉ before) (bytes : Bytes) :
    cut? (before ++ bytes) = cut? bytes := by
  have begins : beginMark = 0x2D :: beginMark.tail := by decide
  have same : (seek? beginMark (before ++ bytes)).map Prod.snd =
      (seek? beginMark bytes).map Prod.snd := by
    rw [seek?, seek?, begins, seek_append_left noDash]
    exact map_snd_seek _ _ _ _ _
  rw [cut?, cut?]
  generalize seek? beginMark (before ++ bytes) = found at same ⊢
  generalize seek? beginMark bytes = found' at same ⊢
  cases found with
  | none =>
      cases found' with
      | none => rfl
      | some pair => cases same
  | some pair =>
      cases found' with
      | none => cases same
      | some pair' =>
          obtain ⟨_, rest⟩ := pair
          obtain ⟨_, rest'⟩ := pair'
          obtain rfl : rest = rest' := Option.some.inj same
          rfl

private theorem seek_append_right {mark left seen bytes front rest : Bytes}
    (found : seek mark left seen bytes = some (front, rest)) (after : Bytes) :
    seek mark left seen (bytes ++ after) = some (front, rest ++ after) := by
  induction bytes generalizing left seen with
  | nil =>
      cases left with
      | nil =>
          cases found
          cases after <;> rfl
      | cons next left => cases found
  | cons byte bytes ih =>
      cases left with
      | nil =>
          cases found
          rfl
      | cons next left => exact ih found

private theorem ne_nil_of_seek {next : UInt8} {left seen bytes : Bytes} {found : Bytes × Bytes}
    (sought : seek (next :: left) (next :: left) seen bytes = some found) : bytes ≠ [] := by
  rintro rfl
  cases sought

/-- Bytes behind the first block do not change it. -/
theorem cut?_append_right {bytes rest : Bytes} {cut : Cut} (found : cut? bytes = some (cut, rest))
    (after : Bytes) : cut? (bytes ++ after) = some (cut, rest ++ after) := by
  have ends : endMark = 0x2D :: endMark.tail := by decide
  simp only [cut?, Option.bind_eq_bind, Option.bind_eq_some_iff, Prod.exists, Option.some.injEq,
    Prod.mk.injEq] at found ⊢
  obtain ⟨front, inner, begun, label, text, labelled, body, ending, filled, endLabel, left, closed,
    same, rfl⟩ := found
  have visible : text.dropWhile isGap ≠ [] := by
    rw [seek?, ends] at filled
    exact ne_nil_of_seek filled
  have gaps : (text ++ after).dropWhile isGap = text.dropWhile isGap ++ after := by
    rw [List.dropWhile_append, if_neg]
    simpa using visible
  refine ⟨front, _, seek_append_right begun after, label, _, seek_append_right labelled after, body,
    _, ?_, endLabel, _, seek_append_right closed after, same, rfl⟩
  rw [gaps]
  exact seek_append_right filled after

/-- The blocks in bytes; `fuel` bounds their number. -/
def cuts : (fuel : Nat) → Bytes → List Cut
  | 0, _ => []
  | fuel + 1, bytes =>
      match cut? bytes with
      | none => []
      | some (cut, rest) => cut :: cuts fuel rest

/-- The header lines and the content of a block, which an empty line parts. -/
def parts (body : Bytes) : Bytes × Bytes :=
  ((seek? (ascii "\n\n") body).or (seek? (ascii "\r\n\r\n") body)).getD ([], body)

/-- The name and the value of a header line. -/
def header? (line : Text) : Option (Text × Text) :=
  (Text.cutAt? ":".text line).map fun parts =>
    (Text.trimBy Text.isWhiteSpace parts.1, Text.trimBy Text.isWhiteSpace parts.2)

/-- The headers in lines, if all of them are well formed. -/
def headers? (bytes : Bytes) : Option (List (Text × Text)) := do
  let text ← Encoding.Utf8.decode? bytes
  let lines := Text.splitAt '\n' text
  let lines := if lines.getLast? = some [] then lines.dropLast else lines
  lines.mapM header?

/-- The content in base64, with white space anywhere. -/
def content? (bytes : Bytes) : Option Bytes := do
  let text ← Encoding.Utf8.decode? bytes
  Base64.decodeStrict? (text.filter fun c => !Text.isWhiteSpace c)

/-- The block of a cut, if it is well formed. -/
def Cut.block? (cut : Cut) : Option Block := do
  let label ← Encoding.Utf8.decode? cut.label
  let (headers, body) := parts cut.body
  let headers ← headers? headers
  let content ← content? body
  if !label.isEmpty && cut.endLabel = cut.label then some ⟨label, headers, content⟩ else none

/-- The first block in bytes, if it is well formed. -/
def firstBlock? (bytes : Bytes) : Option Block :=
  (cut? bytes).bind fun found => found.1.block?

/-- The blocks in bytes, if all of them are well formed. -/
def blocks? (bytes : Bytes) : Option (List Block) :=
  (cuts bytes.length bytes).mapM Cut.block?

end LicenseSeal.Pem
