import LicenseSeal.Yaml.Cursor
import LicenseSeal.Yaml.Error

/-!
# Written scalars

The ways of writing a text in YAML: plain, between quotes, and as a block of lines.  Each reader
gives the text that is meant and the position behind it.
-/

namespace LicenseSeal.Yaml

/-! ## Between quotes -/

/-- The character that a backslash and another character stand for. -/
def escaped? (c : CodePoint) : Option CodePoint :=
  match c with
  | '0' => some (CodePoint.ofNat 0x00)
  | 'a' => some (CodePoint.ofNat 0x07)
  | 'b' => some (CodePoint.ofNat 0x08)
  | 't' | '\t' => some '\t'
  | 'n' => some '\n'
  | 'v' => some (CodePoint.ofNat 0x0B)
  | 'f' => some (CodePoint.ofNat 0x0C)
  | 'r' => some '\r'
  | 'e' => some (CodePoint.ofNat 0x1B)
  | ' ' => some ' '
  | '"' => some '"'
  | '\\' => some '\\'
  | '/' => some '/'
  | 'N' => some (CodePoint.ofNat 0x85)
  | '_' => some (CodePoint.ofNat 0xA0)
  | 'L' => some (CodePoint.ofNat 0x2028)
  | 'P' => some (CodePoint.ofNat 0x2029)
  | _ => none

/-- The number of hexadecimal digits behind a backslash and a character. -/
def codeLength? (c : CodePoint) : Option Nat :=
  match c with
  | 'x' => some 2
  | 'u' => some 4
  | 'U' => some 8
  | _ => none

/-- The code point of a code. -/
def charOf (code : Nat) : Except ReadError CodePoint :=
  if code < 0x110000 then .ok (CodePoint.ofNat code) else .error (.badCode code)

/-- The number that hexadecimal digits write. -/
def hexNumber? (digits : Text) : Option Nat :=
  digits.foldlM (fun number c => (Text.hexValue? c).map (number * 16 + ·)) 0

/-- The breaks of the empty lines at the front; a mark between documents must not stand there. -/
def quotedBreaks? : (fuel : Nat) → Cursor → Option (Text × Cursor)
  | 0, _ => none
  | fuel + 1, cursor =>
      if cursor.atDocumentMark then none
      else
        let cursor := (cursor.takeWhile fun (c : CodePoint) => c = ' ' || c = '\t').2
        if cursor.rest.head?.any isBreak then do
          let (kept, cursor) := cursor.lineBreak
          let (others, cursor) ← quotedBreaks? fuel cursor
          some (kept ++ others, cursor)
        else some ([], cursor)

/-- What a line break and the breaks after it stand for: a single break for a space. -/
def folded (kept others : Text) : Text :=
  if kept ≠ "\n".text then kept ++ others
  else if others.isEmpty then [' ']
  else others

/-- The blanks at the front, folded if they reach over the end of a line. -/
def quotedBlanks? (cursor : Cursor) : Option (Text × Cursor) :=
  let (blanks, cursor) := cursor.takeWhile fun (c : CodePoint) => c = ' ' || c = '\t'
  match cursor.peek with
  | none => none
  | some c =>
      if isBreak c then do
        let (kept, cursor) := cursor.lineBreak
        let (others, cursor) ← quotedBreaks? (cursor.rest.length + 1) cursor
        some (folded kept others, cursor)
      else some (blanks, cursor)

/-- The text that an escape behind a backslash stands for. -/
def escape (cursor : Cursor) : Except ReadError (Text × Cursor) := do
  let c ← needed cursor.peek
  match escaped? c, codeLength? c with
  | some meant, _ => pure ([meant], cursor.next)
  | none, some length =>
      let cursor := cursor.next
      let digits := cursor.rest.take length
      let code ← needed (if digits.length < length then none else hexNumber? digits)
      let meant ← charOf code
      pure ([meant], cursor.advance length)
  | none, none =>
      if isBreak c then needed (quotedBreaks? (cursor.rest.length + 1) cursor.lineBreak.2)
      else throw .malformed

/-- The text up to the closing quote, and the position behind it. -/
def quotedText (double : Bool) : (fuel : Nat) → Cursor → Except ReadError (Text × Cursor)
  | 0, _ => throw .malformed
  | fuel + 1, cursor => do
      let c ← needed cursor.peek
      if c = (if double then '"' else '\'') then
        if !double && cursor.peekAt 1 = some (.char '\'') then
          let (others, cursor) ← quotedText double fuel (cursor.advance 2)
          pure ('\'' :: others, cursor)
        else pure ([], cursor.next)
      else if c = ' ' || c = '\t' || isBreak c then
        let (blanks, cursor) ← needed (quotedBlanks? cursor)
        let (others, cursor) ← quotedText double fuel cursor
        pure (blanks ++ others, cursor)
      else if double && c = '\\' then
        let (meant, cursor) ← escape cursor.next
        let (others, cursor) ← quotedText double fuel cursor
        pure (meant ++ others, cursor)
      else
        let (others, cursor) ← quotedText double fuel cursor.next
        pure (c :: others, cursor)

/-- The text between quotes, the opening one at the front. -/
def quoted (double : Bool) (cursor : Cursor) : Except ReadError (Text × Cursor) :=
  quotedText double (cursor.rest.length + 1) cursor.next

/-! ## Plain -/

/-- A plain text, where it ends, and whether a line break stands behind it. -/
structure Plain where
  content : Text
  cursor : Cursor
  /-- Whether the plain text reaches over the end of a line, or ends before one. -/
  crossesLine : Bool

/-- A character that has a meaning inside brackets. -/
def isFlowMark (c : CodePoint) : Bool :=
  c = ',' || c = '?' || c = '[' || c = ']' || c = '\x7b' || c = '\x7d'

/-- The run of characters at the front that belong to a plain text. -/
def plainRun (inFlow : Bool) : Text → Text
  | [] => []
  | c :: rest =>
      let following := rest.head?
      let endsKey := endsWord following
        || (inFlow && following.any fun (c : CodePoint) => c ≠ '?' && isFlowMark c)
      if endsWord (some c) || (c = ':' && endsKey) || (inFlow && isFlowMark c) then []
      else c :: plainRun inFlow rest

/-- The breaks of the empty lines at the front, none if a mark between documents stands behind one
of them. -/
def plainBreaks? : (fuel : Nat) → Cursor → Option Text × Cursor
  | 0, cursor => (some [], cursor)
  | fuel + 1, cursor =>
      match cursor.peek with
      | some ' ' => plainBreaks? fuel cursor.next
      | some c =>
          if isBreak c then
            let (kept, cursor) := cursor.lineBreak
            if cursor.atDocumentMark then (none, cursor)
            else
              let (others, cursor) := plainBreaks? fuel cursor
              (others.map (kept ++ ·), cursor)
          else (some [], cursor)
      | none => (some [], cursor)

/-- The spaces and line breaks behind a run of a plain text as the text they stand for, empty if the
plain text cannot go on; and whether a line ended. -/
def plainBlanks (cursor : Cursor) : Text × Cursor × Bool :=
  let (blanks, cursor) := cursor.takeWhile (fun (c : CodePoint) => c = ' ')
  if cursor.peek.any isBreak then
    let (kept, cursor) := cursor.lineBreak
    if cursor.atDocumentMark then ([], cursor, true)
    else
      match plainBreaks? (cursor.rest.length + 1) cursor with
      | (none, cursor) => ([], cursor, true)
      | (some others, cursor) => (folded kept others, cursor, true)
  else (blanks, cursor, false)

/-- The plain text at the front, further lines of which must be indented by `indent`. -/
def plainText (inFlow : Bool) (indent : Int) : (fuel : Nat) → (blanks : Text) → Cursor → Plain
  | 0, _, cursor => ⟨[], cursor, false⟩
  | fuel + 1, blanks, cursor =>
      let run := if cursor.peek = some (.char '#') then [] else plainRun inFlow cursor.rest
      if run.isEmpty then ⟨[], cursor, false⟩
      else
        let (following, cursor, crosses) := plainBlanks (cursor.advance run.length)
        if following.isEmpty || cursor.peek = some (.char '#')
            || (!inFlow && cursor.column < indent) then
          ⟨blanks ++ run, cursor, crosses⟩
        else
          let others := plainText inFlow indent fuel following cursor
          ⟨blanks ++ run ++ others.content, others.cursor,
            if others.content.isEmpty then crosses else others.crossesLine⟩

/-- The plain text at the front. -/
def plain (inFlow : Bool) (indent : Int) (cursor : Cursor) : Plain :=
  plainText inFlow indent (cursor.rest.length + 1) [] cursor

/-! ## Blocks of lines -/

/-- What happens to the line breaks at the end of a block. -/
inductive Chomping where
  | clip
  | keep
  | strip
  deriving DecidableEq, Repr

/-- The indicators behind the mark of a block: the chomping, and the indentation if it is given. -/
def blockIndicators? (cursor : Cursor) : Option (Chomping × Option Nat × Cursor) :=
  let chomping? (c : CodePoint) : Option Chomping :=
    if c = '+' then some .keep else if c = '-' then some .strip else none
  let increment? (c : CodePoint) : Option Nat := (Text.digitValue? c).filter (0 < ·)
  let closed (found : Chomping × Option Nat × Cursor) : Option (Chomping × Option Nat × Cursor) :=
    if endsLineOrSpace found.2.2.peek then some found else none
  match cursor.peek with
  | none => some (.clip, none, cursor)
  | some c =>
      match chomping? c, increment? c with
      | some chomping, _ =>
          match cursor.next.peek.bind increment? with
          | some increment => closed (chomping, some increment, cursor.next.next)
          | none => closed (chomping, none, cursor.next)
      | none, some increment =>
          match cursor.next.peek.bind chomping? with
          | some chomping => closed (chomping, some increment, cursor.next.next)
          | none => closed (.clip, some increment, cursor.next)
      | none, none => closed (.clip, none, cursor)

/-- The position behind the rest of a line that may hold a comment and nothing else. -/
def ignoredLine? (cursor : Cursor) : Option Cursor :=
  let cursor := cursor.skipSpaces
  let cursor := if cursor.peek = some (.char '#') then cursor.skipLine else cursor
  if endsLine cursor.peek then some cursor.lineBreak.2 else none

/-- The breaks of the empty lines at the front and the deepest indentation among them. -/
def blockIndentation : (fuel : Nat) → (deepest : Nat) → Cursor → Text × Nat × Cursor
  | 0, deepest, cursor => ([], deepest, cursor)
  | fuel + 1, deepest, cursor =>
      match cursor.peek with
      | some ' ' => blockIndentation fuel (max deepest cursor.next.column) cursor.next
      | some c =>
          if isBreak c then
            let (kept, cursor) := cursor.lineBreak
            let (others, deepest, cursor) := blockIndentation fuel deepest cursor
            (kept ++ others, deepest, cursor)
          else ([], deepest, cursor)
      | none => ([], deepest, cursor)

/-- The position behind the spaces at the front, up to a column. -/
def skipIndent (indent : Nat) (cursor : Cursor) : Cursor :=
  let spaces := cursor.rest.takeWhile (fun (c : CodePoint) => c = ' ')
  cursor.advance (min spaces.length (indent - cursor.column))

/-- The breaks of the empty lines at the front, and the position at the indentation behind them. -/
def blockBreaks (indent : Nat) : (fuel : Nat) → Cursor → Text × Cursor
  | 0, cursor => ([], cursor)
  | fuel + 1, cursor =>
      let cursor := skipIndent indent cursor
      if cursor.peek.any isBreak then
        let (kept, cursor) := cursor.lineBreak
        let (others, cursor) := blockBreaks indent fuel cursor
        (kept ++ others, cursor)
      else ([], cursor)

/-- A character that keeps its line from being folded. -/
def isLeadingBlank : Option CodePoint → Bool
  | some c => c = ' ' || c = '\t'
  | none => false

/-- The lines of a block from the breaks in front of the next line on: the text, the break behind
its last line, the breaks after that, and the position reached. -/
def blockLines (fold : Bool) (indent : Nat) :
    (fuel : Nat) → (breaks : Text) → Cursor → Text × Text × Text × Cursor
  | 0, breaks, cursor => ([], [], breaks, cursor)
  | fuel + 1, breaks, cursor =>
      if cursor.column ≠ indent || cursor.peek.isNone then ([], [], breaks, cursor)
      else
        let indented := isLeadingBlank cursor.peek
        let (line, cursor) := cursor.takeWhile fun c => !isBreak c
        let (kept, cursor) := cursor.lineBreak
        let (following, cursor) := blockBreaks indent (cursor.rest.length + 1) cursor
        if cursor.column = indent && cursor.peek.isSome then
          let between : Text :=
            if fold && kept = "\n".text && !indented && !isLeadingBlank cursor.peek then
              if following.isEmpty then [' '] else []
            else kept
          let (others, last, after, cursor) := blockLines fold indent fuel following cursor
          (breaks ++ line ++ between ++ others, last, after, cursor)
        else (breaks ++ line, kept, following, cursor)

/-- The text of a block, its mark at the front, inside a collection of an indentation. -/
def block? (fold : Bool) (outer : Int) (cursor : Cursor) : Option (Text × Cursor) := do
  let (chomping, increment, cursor) ← blockIndicators? cursor.next
  let cursor ← ignoredLine? cursor
  let least := (max (outer + 1) 1).toNat
  let (breaks, indent, cursor) :=
    match increment with
    | some increment =>
        let indent := least + increment - 1
        let (breaks, cursor) := blockBreaks indent (cursor.rest.length + 1) cursor
        (breaks, indent, cursor)
    | none =>
        let (breaks, deepest, cursor) := blockIndentation (cursor.rest.length + 1) 0 cursor
        (breaks, max least deepest, cursor)
  let (content, last, after, cursor) :=
    blockLines fold indent (cursor.rest.length + 1) breaks cursor
  match chomping with
  | .clip => some (content ++ last, cursor)
  | .keep => some (content ++ last ++ after, cursor)
  | .strip => some (content, cursor)

end LicenseSeal.Yaml
