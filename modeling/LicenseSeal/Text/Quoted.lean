import LicenseSeal.Text.Printable

/-!
# Quoted texts

A text or a byte string is quoted when it stands inside a list or a mapping that is itself written
as text, and when a path is named in a message.  Single quotes are used unless the content has a
single quote and no double quote; the quote in use, the backslash and everything without a graphic
are escaped.
-/

namespace LicenseSeal.Text

/-- The quote around a content: the double one only if it saves an escape. -/
private def quoteFor (hasSingle hasDouble : Bool) : CodePoint :=
  if hasSingle && !hasDouble then '"' else '\''

/-- A character without a graphic, by the shortest of its hexadecimal escapes. -/
private def escapeByCode (c : CodePoint) : Text :=
  let code := c.toNat
  if code < 0x100 then '\\' :: 'x' :: hexDigits 2 code
  else if code < 0x10000 then '\\' :: 'u' :: hexDigits 4 code
  else '\\' :: 'U' :: hexDigits 8 code

/-- One character between quotes. -/
private def escapeChar (quote c : CodePoint) : Text :=
  if c = quote || c = '\\' then ['\\', c]
  else if c = '\t' then ['\\', 't']
  else if c = '\n' then ['\\', 'n']
  else if c = '\r' then ['\\', 'r']
  else if isPrintable c then [c]
  else escapeByCode c

/-- The text between quotes. -/
def quoted (text : Text) : Text :=
  let quote := quoteFor (text.contains '\'') (text.contains '"')
  quote :: text.flatMap (escapeChar quote) ++ [quote]

/-- The bytes between quotes, after the letter that marks them; a byte outside printable ASCII is
escaped by its code. -/
def quotedBytes (bytes : Bytes) : Text :=
  let content := bytes.map fun byte => CodePoint.ofNat byte.toNat
  let quote := quoteFor (content.contains '\'') (content.contains '"')
  let escape (c : CodePoint) : Text := if c.toNat < 0x80 then escapeChar quote c else escapeByCode c
  "b".text ++ quote :: content.flatMap escape ++ [quote]

end LicenseSeal.Text
