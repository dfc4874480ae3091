import LicenseSeal.Encoding.Utf8
import LicenseSeal.Yaml.Written

/-!
# YAML tokens

A text as a sequence of tokens: marks, scalars, and the beginnings and ends of collections that
indentation shows.  That a scalar is a key is seen only at its colon, so the place where a key can
begin is remembered, and the tokens for it are put there later.
-/

namespace LicenseSeal.Yaml

/-- A token. -/
inductive Token where
  /-- A directive that gives the version of the format. -/
  | version
  /-- A directive that gives a handle of tags the front it stands for. -/
  | handle (name front : Text)
  /-- A directive that says nothing. -/
  | comment
  | documentStart
  | documentEnd
  | blockSequenceStart
  | blockMappingStart
  | blockEnd
  | flowSequenceStart
  | flowSequenceEnd
  | flowMappingStart
  | flowMappingEnd
  | blockEntry
  | flowEntry
  | key
  | value
  | alias (name : Text)
  | anchor (name : Text)
  /-- A tag by its handle, if it has one, and the rest. -/
  | tag (handle : Option Text) (suffix : Text)
  | scalar (isPlain : Bool) (content : Text)
  /-- The place where the text can no longer be read. -/
  | fault (error : ReadError)
  deriving DecidableEq, Repr

/-- A place where a key can begin. -/
structure PendingKey where
  /-- The number of brackets around it. -/
  level : Nat
  /-- The place of its token. -/
  place : Nat
  /-- Whether a colon has to follow. -/
  required : Bool
  index : Nat
  line : Nat
  column : Nat

/-- The tokens read so far, and what is known at the position reached. -/
structure Scanner where
  cursor : Cursor
  tokens : Array Token
  /-- The number of open brackets. -/
  level : Nat
  /-- The column of the innermost collection that is not in brackets. -/
  indent : Int
  /-- The columns of the collections around it. -/
  outer : List Int
  /-- Whether a key can begin here. -/
  keyAllowed : Bool
  pending : List PendingKey

namespace Scanner

/-- The beginning of a text. -/
def start (text : Text) : Scanner :=
  ⟨Cursor.start text, #[], 0, -1, [], true, []⟩

/-- Adds a token. -/
def push (scanner : Scanner) (token : Token) : Scanner :=
  { scanner with tokens := scanner.tokens.push token }

/-- Puts a token at a place among those read. -/
def insertAt (scanner : Scanner) (place : Nat) (token : Token) : Scanner :=
  { scanner with tokens := scanner.tokens.insertIdxIfInBounds place token }

/-- Moves on. -/
def moveTo (scanner : Scanner) (cursor : Cursor) : Scanner :=
  { scanner with cursor }

/-- Adds a token and moves on by a number of characters. -/
def pushOver (scanner : Scanner) (token : Token) (count : Nat) : Scanner :=
  (scanner.push token).moveTo (scanner.cursor.advance count)

/-- Moves over spaces, comments and line ends; a key can begin on a new line outside brackets. -/
def skipBlanks : (fuel : Nat) → Scanner → Scanner
  | 0, scanner => scanner
  | fuel + 1, scanner =>
      let cursor := scanner.cursor.skipSpaces
      let cursor := if cursor.peek = some (.char '#') then cursor.skipLine else cursor
      let (kept, cursor) := cursor.lineBreak
      if kept.isEmpty then scanner.moveTo cursor
      else
        let keyAllowed := scanner.keyAllowed || scanner.level = 0
        skipBlanks fuel { scanner with cursor, keyAllowed }

/-- Moves to the next token. -/
def toNextToken (scanner : Scanner) : Scanner :=
  let scanner :=
    if scanner.cursor.index = 0 && scanner.cursor.peek = some byteOrderMark then
      scanner.moveTo scanner.cursor.next
    else scanner
  skipBlanks (scanner.cursor.rest.length + 1) scanner

/-- The most characters that a key can have. -/
def keyLimit : Nat := 1024

/-- Gives up the pending keys that can have no colon any more; none of them may be required. -/
def dropStale? (scanner : Scanner) : Option Scanner :=
  let isStale (key : PendingKey) : Bool :=
    key.line ≠ scanner.cursor.line || keyLimit < scanner.cursor.index - key.index
  if scanner.pending.any fun key => isStale key && key.required then none
  else some { scanner with pending := scanner.pending.filter fun key => !isStale key }

/-- Closes the collections that are indented deeper than a column. -/
def unwind (column : Int) : (fuel : Nat) → Scanner → Scanner
  | 0, scanner => scanner
  | fuel + 1, scanner =>
      if column < scanner.indent then
        unwind column fuel
          { scanner.push .blockEnd with
            indent := scanner.outer.headD (-1), outer := scanner.outer.tail }
      else scanner

/-- Closes the collections that are indented deeper than a column, outside brackets. -/
def closeTo (scanner : Scanner) (column : Int) : Scanner :=
  if scanner.level = 0 then unwind column (scanner.outer.length + 1) scanner else scanner

/-- Opens a collection at a column if it is deeper than the innermost one. -/
def opened (scanner : Scanner) (column : Int) : Option Scanner :=
  if scanner.indent < column then
    some { scanner with indent := column, outer := scanner.indent :: scanner.outer }
  else none

/-- The pending key inside the present brackets. -/
def pendingHere? (scanner : Scanner) : Option PendingKey :=
  scanner.pending.find? fun key => key.level = scanner.level

/-- The scanner without the pending key inside the present brackets. -/
def forgetHere (scanner : Scanner) : Scanner :=
  { scanner with pending := scanner.pending.filter fun key => key.level ≠ scanner.level }

/-- Gives up the pending key inside the present brackets, which must not be required. -/
def dropKey? (scanner : Scanner) : Option Scanner :=
  match scanner.pendingHere? with
  | some key => if key.required then none else some scanner.forgetHere
  | none => some scanner

/-- Remembers that a key can begin here, if it can. -/
def saveKey? (scanner : Scanner) : Option Scanner :=
  if scanner.keyAllowed then do
    let cursor := scanner.cursor
    let required := scanner.level = 0 && scanner.indent = cursor.column
    let key : PendingKey :=
      ⟨scanner.level, scanner.tokens.size, required, cursor.index, cursor.line, cursor.column⟩
    let scanner ← scanner.dropKey?
    some { scanner with pending := key :: scanner.pending }
  else some scanner

/-- Says whether a key can begin here. -/
def allowKey (allowed : Bool) (scanner : Scanner) : Scanner :=
  { scanner with keyAllowed := allowed }

/-! ## Single tokens -/

/-- A letter, a digit, a hyphen or an underscore. -/
def isWordChar (c : CodePoint) : Bool :=
  c.isAlphanum || c = '-' || c = '_'

/-- A character that a tag can have. -/
def isTagChar (c : CodePoint) : Bool :=
  c.isAlphanum || "-;/?:@&=+$,_.!~*'()[]".text.contains c

/-- The bytes of the escapes by code at the front, and the position behind them. -/
private def tagEscapes? : (fuel : Nat) → Cursor → Option (Bytes × Cursor)
  | 0, _ => none
  | fuel + 1, cursor =>
      if cursor.peek = some (.char '%') then do
        let digits := cursor.next.rest.take 2
        let bytes ← if digits.length = 2 then Text.bytes? digits else none
        let (others, cursor) ← tagEscapes? fuel (cursor.advance 3)
        some (bytes ++ others, cursor)
      else some ([], cursor)

/-- The characters of a tag at the front, escapes by code among them, and the position behind
them. -/
private def tagChars? : (fuel : Nat) → Cursor → Option (Text × Cursor)
  | 0, _ => none
  | fuel + 1, cursor =>
      let (front, cursor) := cursor.takeWhile isTagChar
      if cursor.peek = some (.char '%') then do
        let (bytes, cursor) ← tagEscapes? (cursor.rest.length + 1) cursor
        let escaped ← Encoding.Utf8.decode? bytes
        let (others, cursor) ← tagChars? fuel cursor
        some (front ++ escaped ++ others, cursor)
      else some (front, cursor)

/-- The text of a tag at the front, which is not empty. -/
def tagText? (cursor : Cursor) : Option (Text × Cursor) :=
  (tagChars? (cursor.rest.length + 1) cursor).filter fun found => !found.1.isEmpty

/-- The handle at the front: a mark alone, or a name between two marks. -/
def tagHandle? (cursor : Cursor) : Option (Text × Cursor) := do
  if cursor.peek ≠ some (.char '!') then none
  else if cursor.peekAt 1 = some (.char ' ') then some (['!'], cursor.next)
  else
    let (name, cursor) := cursor.next.takeWhile isWordChar
    if cursor.peek = some (.char '!') then some ("!".text ++ name ++ "!".text, cursor.next)
    else none

/-- The position behind a version, the first number of which must be one. -/
private def version? (cursor : Cursor) : Option Cursor := do
  let (major, cursor) := cursor.skipSpaces.takeWhile Text.isDigit
  if cursor.peek ≠ some (.char '.') then none
  let (minor, cursor) := cursor.next.takeWhile Text.isDigit
  if Text.natOfDigits major = 1 && !major.isEmpty && !minor.isEmpty
      && endsLineOrSpace cursor.peek then
    some cursor
  else none

/-- The handle and the front of tags that a directive gives, and the position behind them. -/
private def handleFront? (cursor : Cursor) : Option (Text × Text × Cursor) := do
  let (name, cursor) ← tagHandle? cursor.skipSpaces
  if cursor.peek ≠ some (.char ' ') then none
  let (front, cursor) ← tagText? cursor.skipSpaces
  if endsLineOrSpace cursor.peek then some (name, front, cursor) else none

/-- The directive of a name and what stands behind the name. -/
private def directiveToken? (name : Text) (cursor : Cursor) : Option (Token × Cursor) :=
  if name = "YAML".text then (version? cursor).map fun cursor => (.version, cursor)
  else if name = "TAG".text then
    (handleFront? cursor).map fun (name, front, cursor) => (.handle name front, cursor)
  else some (.comment, cursor.skipLine)

/-- Reads a directive. -/
def directive? (scanner : Scanner) : Option Scanner := do
  let scanner ← (scanner.closeTo (-1)).dropKey?
  let (name, cursor) := scanner.cursor.next.takeWhile isWordChar
  if name.isEmpty || !endsLineOrSpace cursor.peek then none
  let (token, cursor) ← directiveToken? name cursor
  let cursor ← ignoredLine? cursor
  some ((scanner.push token).allowKey false |>.moveTo cursor)

/-- Reads a mark between documents. -/
def documentMark? (token : Token) (scanner : Scanner) : Option Scanner := do
  let scanner ← (scanner.closeTo (-1)).dropKey?
  some ((scanner.allowKey false).pushOver token 3)

/-- Reads an opening bracket. -/
def flowStart? (token : Token) (scanner : Scanner) : Option Scanner := do
  let scanner ← scanner.saveKey?
  some { (scanner.allowKey true).pushOver token 1 with level := scanner.level + 1 }

/-- Reads a closing bracket. -/
def flowEnd? (token : Token) (scanner : Scanner) : Option Scanner := do
  let scanner ← scanner.dropKey?
  some { (scanner.allowKey false).pushOver token 1 with level := scanner.level - 1 }

/-- Reads a comma inside brackets. -/
def flowEntry? (scanner : Scanner) : Option Scanner := do
  let scanner ← (scanner.allowKey true).dropKey?
  some (scanner.pushOver .flowEntry 1)

/-- Opens a collection here if there is none at this column yet; outside brackets a key must be able
to begin here. -/
private def openHere? (token : Token) (scanner : Scanner) : Option Scanner :=
  if scanner.level ≠ 0 then some scanner
  else if !scanner.keyAllowed then none
  else
    match scanner.opened scanner.cursor.column with
    | some opened => some (opened.push token)
    | none => some scanner

/-- Reads the mark of a sequence entry. -/
def blockEntry? (scanner : Scanner) : Option Scanner := do
  let scanner ← openHere? .blockSequenceStart scanner
  let scanner ← (scanner.allowKey true).dropKey?
  some (scanner.pushOver .blockEntry 1)

/-- Reads the mark of a key. -/
def key? (scanner : Scanner) : Option Scanner := do
  let scanner ← openHere? .blockMappingStart scanner
  let scanner ← (scanner.allowKey (scanner.level = 0)).dropKey?
  some (scanner.pushOver .key 1)

/-- Reads the mark of a value; the pending key in front of it becomes one. -/
def value? (scanner : Scanner) : Option Scanner :=
  match scanner.pendingHere? with
  | some key =>
      let keyed := scanner.forgetHere.insertAt key.place .key
      let keyed :=
        if scanner.level ≠ 0 then keyed
        else
          match keyed.opened key.column with
          | some opened => opened.insertAt key.place .blockMappingStart
          | none => keyed
      some ((keyed.allowKey false).pushOver .value 1)
  | none => do
      let scanner ← openHere? .blockMappingStart scanner
      let scanner ← (scanner.allowKey (scanner.level = 0)).dropKey?
      some (scanner.pushOver .value 1)

/-- Reads the name of an anchor behind its mark. -/
def anchorName? (cursor : Cursor) : Option (Text × Cursor) :=
  let (name, cursor) := cursor.next.takeWhile isWordChar
  let isClosed := endsWord cursor.peek || cursor.peek.any fun c => "?:,]\x7d%@`".text.contains c
  if name.isEmpty || !isClosed then none else some (name, cursor)

/-- Reads an anchor or an alias. -/
def anchor? (token : Text → Token) (scanner : Scanner) : Option Scanner := do
  let scanner ← scanner.saveKey?
  let (name, cursor) ← anchorName? scanner.cursor
  some (((scanner.allowKey false).push (token name)).moveTo cursor)

/-- The handle and the rest of the tag at the front. -/
def tagParts? (cursor : Cursor) : Option (Option Text × Text × Cursor) := do
  if cursor.peekAt 1 = some (.char '<') then
    let (suffix, cursor) ← tagText? (cursor.advance 2)
    if cursor.peek = some (.char '>') then some (none, suffix, cursor.next) else none
  else if endsWord (cursor.peekAt 1) then some (none, ['!'], cursor.next)
  else
    let word := cursor.next.rest.takeWhile fun c => !endsLineOrSpace (some c)
    let (handle, cursor) ←
      if word.contains '!' then tagHandle? cursor else some (['!'], cursor.next)
    let (suffix, cursor) ← tagText? cursor
    some (some handle, suffix, cursor)

/-- Reads a tag. -/
def tag? (scanner : Scanner) : Option Scanner := do
  let scanner ← scanner.saveKey?
  let (handle, suffix, cursor) ← tagParts? scanner.cursor
  if !endsLineOrSpace cursor.peek then none
  some (((scanner.allowKey false).push (.tag handle suffix)).moveTo cursor)

/-- Reads a block of lines. -/
def blockScalar? (fold : Bool) (scanner : Scanner) : Option Scanner := do
  let scanner ← (scanner.allowKey true).dropKey?
  let (content, cursor) ← block? fold scanner.indent scanner.cursor
  some ((scanner.push (.scalar false content)).moveTo cursor)

/-- Reads a text between quotes. -/
def quotedScalar (double : Bool) (scanner : Scanner) : Except ReadError Scanner := do
  let scanner ← needed scanner.saveKey?
  let (content, cursor) ← quoted double scanner.cursor
  pure (((scanner.allowKey false).push (.scalar false content)).moveTo cursor)

/-- Reads a plain text. -/
def plainScalar? (scanner : Scanner) : Option Scanner := do
  let scanner ← scanner.saveKey?
  let found := plain (scanner.level ≠ 0) (scanner.indent + 1) scanner.cursor
  some (((scanner.allowKey found.crossesLine).push (.scalar true found.content)).moveTo
    found.cursor)

/-- Whether a plain text can begin with a character in front of another one. -/
def beginsPlain (inFlow : Bool) (c : CodePoint) (following : Option CodePoint) : Bool :=
  let isMark := "-?:,[]\x7b\x7d#&*!|>'\"%@`".text.contains c
  (!isMark && !endsWord (some c))
    || (!endsWord following && (c = '-' || (!inFlow && (c = '?' || c = ':'))))

/-- Reads the token at a character that is no quote. -/
private def readToken? (scanner : Scanner) (c : CodePoint) : Option Scanner :=
  let cursor := scanner.cursor
  let inFlow := scanner.level ≠ 0
  let following := cursor.peekAt 1
  let atMark (mark : CodePoint) : Bool := c = mark && cursor.column = 0 && cursor.atDocumentMark
  if c = '%' && cursor.column = 0 then scanner.directive?
  else if atMark '-' then scanner.documentMark? .documentStart
  else if atMark '.' then scanner.documentMark? .documentEnd
  else if c = '[' then scanner.flowStart? .flowSequenceStart
  else if c = '\x7b' then scanner.flowStart? .flowMappingStart
  else if c = ']' then scanner.flowEnd? .flowSequenceEnd
  else if c = '\x7d' then scanner.flowEnd? .flowMappingEnd
  else if c = ',' then scanner.flowEntry?
  else if c = '-' && endsWord following then scanner.blockEntry?
  else if c = '?' && (inFlow || endsWord following) then scanner.key?
  else if c = ':' && (inFlow || endsWord following) then scanner.value?
  else if c = '*' then scanner.anchor? .alias
  else if c = '&' then scanner.anchor? .anchor
  else if c = '!' then scanner.tag?
  else if c = '|' && !inFlow then scanner.blockScalar? false
  else if c = '>' && !inFlow then scanner.blockScalar? true
  else if beginsPlain inFlow c following then scanner.plainScalar?
  else none

/-- Reads the token at a character. -/
def readToken (scanner : Scanner) (c : CodePoint) : Except ReadError Scanner :=
  if c = '\'' then scanner.quotedScalar false
  else if c = '"' then scanner.quotedScalar true
  else needed (scanner.readToken? c)

/-- The tokens up to a fault.  Those from the first place on where a key could begin are left out,
because it is not known what stands there. -/
def brokenBy (error : ReadError) (scanner : Scanner) : List Token :=
  let settled := scanner.pending.foldl (fun count key => min count key.place) scanner.tokens.size
  scanner.tokens.toList.take settled ++ [.fault error]

/-- All tokens up to the end of the text or a fault. -/
def readAll : (fuel : Nat) → Scanner → List Token
  | 0, scanner => scanner.brokenBy .malformed
  | fuel + 1, scanner =>
      match scanner.toNextToken.dropStale? with
      | none => scanner.brokenBy .malformed
      | some scanner =>
          let scanner := scanner.closeTo scanner.cursor.column
          match scanner.cursor.peek with
          | none =>
              match (scanner.closeTo (-1)).dropKey? with
              | some ended => ended.tokens.toList
              | none => scanner.brokenBy .malformed
          | some c =>
              match scanner.readToken c with
              | .ok scanner => readAll fuel scanner
              | .error error => scanner.brokenBy error

end Scanner

def tokens (text : Text) : List Token :=
  if text.all isAllowed then Scanner.readAll (text.length + 1) (Scanner.start text)
  else [.fault .malformed]

end LicenseSeal.Yaml
