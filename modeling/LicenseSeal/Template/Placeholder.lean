import LicenseSeal.Text.Blank

/-!
# Placeholders

A placeholder names a field: `{{name}}`, `{{&name}}` or `{{{name}}}`, with blanks around the name.
`Spelling` says which texts spell a name; `Placeholder.read?` finds the placeholder at the front of
a text.
-/

namespace LicenseSeal

/-- A character that a field name may have: an ASCII letter, an ASCII digit or an underscore. -/
def isNameChar (c : CodePoint) : Bool :=
  ('a' ≤ c && c ≤ 'z') || ('A' ≤ c && c ≤ 'Z') || ('0' ≤ c && c ≤ '9') || c == '_'

/-- A field name: one or more name characters. -/
def IsName (name : Text) : Prop :=
  name ≠ [] ∧ ∀ c ∈ name, isNameChar c

instance (name : Text) : Decidable (IsName name) :=
  inferInstanceAs (Decidable (_ ∧ _))

namespace Placeholder

/-- Two opening braces. -/
def opening : Text := ['\x7b', '\x7b']

/-- Two closing braces. -/
def closing : Text := ['\x7d', '\x7d']

end Placeholder

open Placeholder in
/-- `Spelling name raw` says that `raw` spells the placeholder of `name`. -/
inductive Spelling (name : Text) : Text → Prop where
  /-- Two braces on either side. -/
  | double (before after : Text) : IsName name → (∀ c ∈ before, Text.isBlank c) →
      (∀ c ∈ after, Text.isBlank c) →
      Spelling name (opening ++ before ++ name ++ after ++ closing)
  /-- Two braces on either side and an ampersand in front of the name. -/
  | ampersand (first before after : Text) : IsName name → (∀ c ∈ first, Text.isBlank c) →
      (∀ c ∈ before, Text.isBlank c) → (∀ c ∈ after, Text.isBlank c) →
      Spelling name (opening ++ first ++ ('&' : CodePoint) :: before ++ name ++ after ++ closing)
  /-- Three braces on either side. -/
  | triple (before after : Text) : IsName name → (∀ c ∈ before, Text.isBlank c) →
      (∀ c ∈ after, Text.isBlank c) →
      Spelling name (('\x7b' : CodePoint) :: opening ++ before ++ name ++ after
        ++ ('\x7d' : CodePoint) :: closing)

/-- A placeholder read from the front of a text. -/
structure Placeholder where
  name : Text
  /-- The text that spells it. -/
  raw : Text
  /-- What follows it. -/
  rest : Text
  deriving DecidableEq, Repr

namespace Placeholder

/-- A name with the blanks around it, and what follows. -/
structure Body where
  before : Text
  name : Text
  after : Text
  rest : Text

/-- The name at the front of a text, blanks around it allowed. -/
def body? (text : Text) : Option Body :=
  let before := text.takeWhile Text.isBlank
  let unblanked := text.dropWhile Text.isBlank
  let name := unblanked.takeWhile isNameChar
  let following := unblanked.dropWhile isNameChar
  if name.isEmpty then none
  else some ⟨before, name, following.takeWhile Text.isBlank, following.dropWhile Text.isBlank⟩

/-- The ampersand at the front of a text with the blanks before it, and what follows. -/
def ampersand (text : Text) : Text × Text :=
  match text.dropWhile Text.isBlank with
  | '&' :: rest => (text.takeWhile Text.isBlank ++ [('&' : CodePoint)], rest)
  | _ => ([], text)

/-- The placeholder with three braces at the front of a text. -/
def triple? (text : Text) : Option Placeholder := do
  let inner ← Text.dropLead? (('\x7b' : CodePoint) :: opening) text
  let body ← body? inner
  let rest ← Text.dropLead? (('\x7d' : CodePoint) :: closing) body.rest
  some ⟨body.name,
    ('\x7b' : CodePoint) :: opening ++ body.before ++ body.name ++ body.after
      ++ ('\x7d' : CodePoint) :: closing, rest⟩

/-- The placeholder with two braces at the front of a text. -/
def double? (text : Text) : Option Placeholder := do
  let inner ← Text.dropLead? opening text
  let (mark, inner) := ampersand inner
  let body ← body? inner
  let rest ← Text.dropLead? closing body.rest
  some ⟨body.name, opening ++ mark ++ body.before ++ body.name ++ body.after ++ closing, rest⟩

/-- The placeholder at the front of a text. -/
def read? (text : Text) : Option Placeholder :=
  (triple? text).or (double? text)

theorem body?_eq_append {text : Text} {body : Body} (found : body? text = some body) :
    text = body.before ++ body.name ++ body.after ++ body.rest := by
  simp only [body?] at found
  split at found
  · cases found
  · cases found
    simp only [List.append_assoc, List.takeWhile_append_dropWhile]

theorem ampersand_append (text : Text) : (ampersand text).1 ++ (ampersand text).2 = text := by
  unfold ampersand
  split
  · next rest following =>
      rw [List.append_assoc, List.singleton_append, ← following]
      exact List.takeWhile_append_dropWhile
  · simp

theorem triple?_eq_append {text : Text} {found : Placeholder} (read : triple? text = some found) :
    text = found.raw ++ found.rest := by
  simp only [triple?, Option.bind_eq_bind, Option.bind_eq_some_iff, Option.some.injEq] at read
  obtain ⟨inner, opened, body, named, rest, closed, rfl⟩ := read
  rw [Text.dropLead?_eq_some_iff.mp opened, body?_eq_append named,
    Text.dropLead?_eq_some_iff.mp closed]
  simp

theorem double?_eq_append {text : Text} {found : Placeholder} (read : double? text = some found) :
    text = found.raw ++ found.rest := by
  simp only [double?, Option.bind_eq_bind, Option.bind_eq_some_iff, Option.some.injEq] at read
  obtain ⟨inner, opened, body, named, rest, closed, rfl⟩ := read
  have whole := ampersand_append inner
  generalize ampersand inner = parts at whole named ⊢
  rw [Text.dropLead?_eq_some_iff.mp opened, ← whole, body?_eq_append named,
    Text.dropLead?_eq_some_iff.mp closed]
  simp

/-- A placeholder that is read is the front of the text. -/
theorem read?_eq_append {text : Text} {found : Placeholder} (read : read? text = some found) :
    text = found.raw ++ found.rest := by
  simp only [read?, Option.or_eq_some_iff] at read
  rcases read with three | ⟨_, two⟩
  · exact triple?_eq_append three
  · exact double?_eq_append two

theorem raw_ne_nil {text : Text} {found : Placeholder} (read : read? text = some found) :
    found.raw ≠ [] := by
  simp only [read?, Option.or_eq_some_iff, triple?, double?, Option.bind_eq_bind,
    Option.bind_eq_some_iff, Option.some.injEq] at read
  rcases read with ⟨_, _, _, _, _, _, rfl⟩ | ⟨_, _, _, _, _, _, _, rfl⟩ <;> simp [opening]

/-- What follows a placeholder is shorter than the text it was read from. -/
theorem length_rest_lt {text : Text} {found : Placeholder} (read : read? text = some found) :
    found.rest.length < text.length := by
  rw [read?_eq_append read, List.length_append]
  have := List.length_pos_iff.mpr (raw_ne_nil read)
  omega

end Placeholder

end LicenseSeal
