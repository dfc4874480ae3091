import LicenseSeal.Template.Placeholder

/-!
# Template scan

A template is split into literal text and placeholders, the leftmost placeholder first.  A `Scan`
holds the segments; the positions of its tokens, the names they use and the fragments that only
look like placeholders are read off the segments.
-/

namespace LicenseSeal

/-- A piece of a template. -/
inductive Segment where
  /-- Text that is copied as it stands. -/
  | literal (text : Text)
  /-- A placeholder of a name, with the text that spells it. -/
  | token (name raw : Text)
  deriving DecidableEq, Repr

namespace Segment

/-- The text of the template that a segment covers. -/
def source : Segment → Text
  | .literal text => text
  | .token _ raw => raw

/-- The name of a token. -/
def name? : Segment → Option Text
  | .literal _ => none
  | .token name _ => some name

end Segment

/-- What is wrong with a fragment that looks like a placeholder and is none. -/
inductive UnsupportedKind where
  /-- Braces on both sides of something that is not a name. -/
  | invalidFormat
  /-- Opening braces without closing ones. -/
  | unclosedOpen
  /-- Closing braces without opening ones. -/
  | strayClose
  deriving DecidableEq, Repr

namespace UnsupportedKind

/-- The word for a kind in reports. -/
def word : UnsupportedKind → Text
  | .invalidFormat => "invalid_format".text
  | .unclosedOpen => "unclosed_open".text
  | .strayClose => "stray_close".text

end UnsupportedKind

/-- A fragment of literal text that looks like a placeholder and is none. -/
structure Unsupported where
  kind : UnsupportedKind
  text : Text
  start : Nat
  deriving DecidableEq, Repr

namespace Unsupported

/-- The position after a fragment. -/
def stop (fragment : Unsupported) : Nat :=
  fragment.start + fragment.text.length

end Unsupported

/-- A token at its place in the template. -/
structure Occurrence where
  name : Text
  start : Nat
  stop : Nat
  deriving DecidableEq, Repr

/-- A template split into segments. -/
structure Scan where
  segments : List Segment
  deriving DecidableEq, Repr

namespace Template

/-- Puts one literal character in front of segments. -/
def consLiteral (c : CodePoint) : List Segment → List Segment
  | .literal text :: rest => .literal (c :: text) :: rest
  | segments => .literal [c] :: segments

/-- The segments of a template: a placeholder that starts here is a token, any other character is
literal. -/
def tokenize (template : Text) : List Segment :=
  match template with
  | [] => []
  | c :: rest =>
      match _read : Placeholder.read? (c :: rest) with
      | some found => .token found.name found.raw :: tokenize found.rest
      | none => consLiteral c (tokenize rest)
termination_by template.length
decreasing_by
  · exact Placeholder.length_rest_lt _read
  · simp

def scan (template : Text) : Scan :=
  ⟨tokenize template⟩

/-- A fragment at the front of a literal text, and what follows it. -/
structure Fragment where
  kind : UnsupportedKind
  text : Text
  rest : Text

/-- A character that is no brace. -/
def isPlain (c : CodePoint) : Bool :=
  c != '\x7b' && c != '\x7d'

/-- Two opening braces, text without braces and two closing braces at the front of a text. -/
def braced? (text : Text) : Option Fragment := do
  let inner ← Text.dropLead? Placeholder.opening text
  let rest ← Text.dropLead? Placeholder.closing (inner.dropWhile isPlain)
  some ⟨.invalidFormat,
    Placeholder.opening ++ inner.takeWhile isPlain ++ Placeholder.closing, rest⟩

theorem braced?_eq_append {text : Text} {found : Fragment} (read : braced? text = some found) :
    text = found.text ++ found.rest := by
  simp only [braced?, Option.bind_eq_bind, Option.bind_eq_some_iff, Option.some.injEq] at read
  obtain ⟨inner, opened, rest, closed, rfl⟩ := read
  have whole : inner.takeWhile isPlain ++ inner.dropWhile isPlain = inner :=
    List.takeWhile_append_dropWhile
  rw [Text.dropLead?_eq_some_iff.mp closed] at whole
  rw [Text.dropLead?_eq_some_iff.mp opened]
  simp only [List.append_assoc, List.append_cancel_left_eq]
  exact whole.symm

theorem braced?_text_ne_nil {text : Text} {found : Fragment} (read : braced? text = some found) :
    found.text ≠ [] := by
  simp only [braced?, Option.bind_eq_bind, Option.bind_eq_some_iff, Option.some.injEq] at read
  obtain ⟨_, _, _, _, rfl⟩ := read
  simp [Placeholder.opening]

/-- What follows a braced fragment is shorter than the text it was found in. -/
theorem length_braced_rest_lt {text : Text} {found : Fragment} (read : braced? text = some found) :
    found.rest.length < text.length := by
  rw [braced?_eq_append read, List.length_append]
  have := List.length_pos_iff.mpr (braced?_text_ne_nil read)
  omega

/-- The braced fragments of a text that stands at a position, and the text with blanks in their
place. -/
def bracedFrom (start : Nat) (text : Text) : List Unsupported × Text :=
  match text with
  | [] => ([], [])
  | c :: rest =>
      match _read : braced? (c :: rest) with
      | some found =>
          let size := found.text.length
          let (others, masked) := bracedFrom (start + size) found.rest
          (⟨found.kind, found.text, start⟩ :: others,
            List.replicate size (' ' : CodePoint) ++ masked)
      | none =>
          let (others, masked) := bracedFrom (start + 1) rest
          (others, c :: masked)
termination_by text.length
decreasing_by
  · exact length_braced_rest_lt _read
  · simp

/-- The pairs of braces in a text that stands at a position. -/
def delimitersFrom (start : Nat) : Text → List Unsupported
  | '\x7b' :: '\x7b' :: rest =>
      ⟨.unclosedOpen, Placeholder.opening, start⟩ :: delimitersFrom (start + 2) rest
  | '\x7d' :: '\x7d' :: rest =>
      ⟨.strayClose, Placeholder.closing, start⟩ :: delimitersFrom (start + 2) rest
  | _ :: rest => delimitersFrom (start + 1) rest
  | [] => []

/-- The fragments of a literal text that stands at a position: first the braced ones, then the pairs
of braces outside them. -/
def fragmentsAt (start : Nat) (text : Text) : List Unsupported :=
  if (Text.cutAt? Placeholder.opening text).isNone
      && (Text.cutAt? Placeholder.closing text).isNone then []
  else
    let (braced, masked) := bracedFrom start text
    braced ++ delimitersFrom start masked

end Template

namespace Scan

/-- Segments with their positions, the first one at `start`. -/
def placedFrom (start : Nat) : List Segment → List (Segment × Nat)
  | [] => []
  | segment :: rest => (segment, start) :: placedFrom (start + segment.source.length) rest

/-- The segments with their positions. -/
def placed (scan : Scan) : List (Segment × Nat) :=
  placedFrom 0 scan.segments

/-- Every token with its place, in order. -/
def occurrences (scan : Scan) : List Occurrence :=
  scan.placed.filterMap fun
    | (.literal _, _) => none
    | (.token name raw, start) => some ⟨name, start, start + raw.length⟩

/-- The name of every token, in order. -/
def names (scan : Scan) : List Text :=
  scan.segments.filterMap Segment.name?

/-- The distinct names by first appearance. -/
def fields (scan : Scan) : List Text :=
  scan.names.eraseDups

/-- The names that come for the second time after the names in `seen`. -/
def secondTimes (seen : List Text) : List Text → List Text
  | [] => []
  | name :: rest =>
      if seen.count name = 1 then name :: secondTimes (name :: seen) rest
      else secondTimes (name :: seen) rest

/-- The names used more than once, by second appearance. -/
def duplicates (scan : Scan) : List Text :=
  secondTimes [] scan.names

/-- The fragments of literal text that look like placeholders, in the order of their positions. -/
def unsupported (scan : Scan) : List Unsupported :=
  let found := scan.placed.flatMap fun
    | (.literal text, start) => Template.fragmentsAt start text
    | (.token _ _, _) => []
  found.mergeSort fun first second => first.start ≤ second.start

end Scan

/-- Why a template cannot be used. -/
inductive TemplateError where
  /-- It has fragments that look like placeholders and none were to be there. -/
  | unsupported (scan : Scan)
  /-- It repeats a name, so that a document has no unique reading. -/
  | repeated (scan : Scan)
  /-- It has no placeholder of a name that is needed. -/
  | lacks (name : Text) (scan : Option Scan)
  deriving DecidableEq, Repr

namespace TemplateError

/-- The scan that showed the error. -/
def scan? : TemplateError → Option Scan
  | .unsupported scan => some scan
  | .repeated scan => some scan
  | .lacks _ scan => scan

def message : TemplateError → Text
  | .unsupported _ => "Unsupported placeholders found in template".text
  | .repeated scan =>
      "Duplicate placeholders are not extractable: ".text
        ++ Text.join ", ".text scan.duplicates
  | .lacks name _ => "Template has no ".text ++ name ++ " placeholder".text

end TemplateError

namespace Template

/-- The scan of a template that must not have unsupported fragments. -/
def scanStrict (template : Text) : Except TemplateError Scan :=
  let scan := Template.scan template
  if scan.unsupported.isEmpty then .ok scan else .error (.unsupported scan)

end Template

end LicenseSeal
