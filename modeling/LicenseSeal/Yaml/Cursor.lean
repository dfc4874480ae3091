import LicenseSeal.Text

/-!
# Position in a YAML text

What is left of the text, with the line and the column that have been reached, and the classes of
characters that structure it.
-/

namespace LicenseSeal.Yaml

/-- A position in a text. -/
structure Cursor where
  rest : Text
  /-- The number of characters read. -/
  index : Nat
  line : Nat
  column : Nat
  deriving Repr

/-- The mark that can stand at the beginning of a text. -/
def byteOrderMark : CodePoint := CodePoint.ofNat 0xFEFF

/-- A line separator or paragraph separator, which breaks a line and is kept. -/
def isSeparator (c : CodePoint) : Bool :=
  c.toNat = 0x2028 || c.toNat = 0x2029

/-- A character that breaks a line. -/
def isBreak (c : CodePoint) : Bool :=
  c = '\n' || c = '\r' || c.toNat = 0x85 || isSeparator c

/-- The end of the text or of the line. -/
def endsLine : Option CodePoint → Bool
  | none => true
  | some c => isBreak c

/-- The end of the text or of the line, or a space. -/
def endsLineOrSpace : Option CodePoint → Bool
  | some ' ' => true
  | other => endsLine other

/-- The end of the text or of the line, a space or a tab. -/
def endsWord : Option CodePoint → Bool
  | some '\t' => true
  | other => endsLineOrSpace other

/-- A character that a text may hold. -/
def isAllowed (c : CodePoint) : Bool :=
  let code := c.toNat
  code = 0x09 || code = 0x0A || code = 0x0D || (0x20 ≤ code && code ≤ 0x7E) || code = 0x85
    || (0xA0 ≤ code && code ≤ 0xD7FF) || (0xE000 ≤ code && code ≤ 0xFFFD) || 0x10000 ≤ code

namespace Cursor

/-- The beginning of a text. -/
def start (text : Text) : Cursor :=
  ⟨text, 0, 0, 0⟩

/-- The next character. -/
def peek (cursor : Cursor) : Option CodePoint :=
  cursor.rest.head?

/-- The character after a number of others. -/
def peekAt (cursor : Cursor) (count : Nat) : Option CodePoint :=
  (cursor.rest.drop count).head?

/-- The position behind the next character. -/
def next (cursor : Cursor) : Cursor :=
  match cursor.rest with
  | [] => cursor
  | c :: rest =>
      if isBreak c && !(c = '\r' && rest.head? = some (.char '\n')) then
        ⟨rest, cursor.index + 1, cursor.line + 1, 0⟩
      else if c = byteOrderMark then ⟨rest, cursor.index + 1, cursor.line, cursor.column⟩
      else ⟨rest, cursor.index + 1, cursor.line, cursor.column + 1⟩

/-- The position behind a number of characters. -/
def advance : (count : Nat) → Cursor → Cursor
  | 0, cursor => cursor
  | count + 1, cursor => advance count cursor.next

/-- The characters of a class at the front, and the position behind them. -/
def takeWhile (belongs : CodePoint → Bool) (cursor : Cursor) : Text × Cursor :=
  let taken := cursor.rest.takeWhile belongs
  (taken, advance taken.length cursor)

/-- The position behind the spaces at the front. -/
def skipSpaces (cursor : Cursor) : Cursor :=
  (cursor.takeWhile (· = ' ')).2

/-- The position at the end of the line. -/
def skipLine (cursor : Cursor) : Cursor :=
  (cursor.takeWhile fun c => !isBreak c).2

/-- The line break at the front as it is kept, and the position behind it. -/
def lineBreak (cursor : Cursor) : Text × Cursor :=
  match cursor.rest with
  | '\r' :: '\n' :: _ => (['\n'], advance 2 cursor)
  | c :: _ =>
      if isSeparator c then ([c], cursor.next)
      else if isBreak c then (['\n'], cursor.next)
      else ([], cursor)
  | [] => ([], cursor)

/-- Whether one of the two marks between documents stands here. -/
def atDocumentMark (cursor : Cursor) : Bool :=
  let mark := cursor.rest.take 3
  (mark = "---".text || mark = "...".text) && endsWord (cursor.peekAt 3)

end Cursor

end LicenseSeal.Yaml
