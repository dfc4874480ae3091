import LicenseSeal.Template.Scan

/-!
# Template grammar

The grammar of a template says which documents it can have rendered: its literal text in order,
with any text captured at each placeholder.
-/

namespace LicenseSeal

namespace Grammar

/-- A part of a document. -/
inductive Node where
  /-- Text that must stand as it is. -/
  | literal (text : Text)
  /-- Any text, taken under a name: the shortest that works if the capture is lazy, else the
  longest. -/
  | capture (name : Text) (isLazy : Bool)
  deriving DecidableEq, Repr

/-- The name of a capture. -/
def Node.name? : Node → Option Text
  | .literal _ => none
  | .capture name _ => some name

end Grammar

/-- The names of tokens, and a sequence of nodes that a whole document has to match. -/
structure Grammar where
  tokenNames : List Text
  nodes : List Grammar.Node
  deriving DecidableEq, Repr

namespace Grammar

/-- The names of the captures in order. -/
def captureNames (grammar : Grammar) : List Text :=
  grammar.nodes.filterMap Node.name?

/-- The node of a segment; a token is captured lazily. -/
def Node.ofSegment : Segment → Node
  | .literal text => .literal text
  | .token name _ => .capture name true

end Grammar

namespace Template

/-- The grammar of a template that uses every name once. -/
def grammar (template : Text) : Except TemplateError Grammar :=
  let scan := Template.scan template
  if scan.duplicates.isEmpty then .ok ⟨scan.fields, scan.segments.map Grammar.Node.ofSegment⟩
  else .error (.repeated scan)

end Template

end LicenseSeal
