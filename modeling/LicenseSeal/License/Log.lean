import LicenseSeal.Json.Writer
import LicenseSeal.Template.Scan

/-!
# Log

A license operation reports events.  An event is logged at a level, as a JSON object that names it
and gives its details; no event holds key material.
-/

namespace LicenseSeal

/-- The weight of a log record. -/
inductive LogLevel where
  | debug
  | info
  | warning
  | error
  | critical
  deriving DecidableEq, Repr

namespace LogLevel

def name : LogLevel → Text
  | .debug => "DEBUG".text
  | .info => "INFO".text
  | .warning => "WARNING".text
  | .error => "ERROR".text
  | .critical => "CRITICAL".text

def weight : LogLevel → Nat
  | .debug => 10
  | .info => 20
  | .warning => 30
  | .error => 40
  | .critical => 50

/-- Whether a level is at least as heavy as another. -/
def reaches (level least : LogLevel) : Bool :=
  least.weight ≤ level.weight

end LogLevel

/-- A logged message. -/
structure LogRecord where
  level : LogLevel
  message : Text
  deriving DecidableEq, Repr

/-- The message of an event given by its name and its details; a value that JSON has no form for is
logged as its text. -/
def logMessage (event : Text) (details : List (Text × Value)) : Except Json.WriteError Text :=
  let entries : List (Scalar × Value) :=
    (.text "event".text, .text event) :: details.map fun detail => (.text detail.1, detail.2)
  Json.write .writeText (Value.mapOf entries)

/-- Something that happens in a license operation. -/
inductive Event where
  /-- The template has fragments that look like placeholders. -/
  | unsupportedPlaceholders (count : Nat) (kinds : List UnsupportedKind)
  | generateStart (fieldCount : Nat) (defaultTemplate : Bool)
  /-- Data fields that the template does not name are left out. -/
  | fieldsNotInTemplate (fields : List Text)
  /-- Template fields that the data does not have stay as they are spelled. -/
  | missingFields (fields : List Text)
  | generateDone (fieldCount documentLength : Nat)
  | parseStart (strategy : Text)
  | parseCorrupted (strategy errorName : Text)
  | parseDone (strategy : Text) (valid : Bool) (fieldCount : Nat)
  deriving DecidableEq, Repr

namespace Event

/-- The level that an event is logged at. -/
def level : Event → LogLevel
  | .unsupportedPlaceholders _ _ | .fieldsNotInTemplate _ | .missingFields _
  | .parseCorrupted _ _ => .warning
  | .generateStart _ _ | .generateDone _ _ | .parseStart _ | .parseDone _ _ _ => .info

/-- A truth value as JSON. -/
private def truthText (truth : Bool) : Text :=
  if truth then "true".text else "false".text

private def named (name : String) : String × Text :=
  ("event", Json.string name.text)

private def textsOf (items : List Text) : Text :=
  Json.array (items.map Json.string)

/-- The members of an event's object, in the order of their names. -/
private def members : Event → List (String × Text)
  | .unsupportedPlaceholders count kinds => [("count", Text.ofNat count),
      named "unsupported_placeholders", ("kinds", textsOf (kinds.map UnsupportedKind.word))]
  | .generateStart fieldCount defaultTemplate => [
      ("default_template", truthText defaultTemplate), named "generate_start",
      ("field_count", Text.ofNat fieldCount)]
  | .fieldsNotInTemplate fields => [named "fields_not_in_template", ("fields", textsOf fields)]
  | .missingFields fields => [named "missing_fields", ("fields", textsOf fields)]
  | .generateDone fieldCount documentLength => [("document_length", Text.ofNat documentLength),
      named "generate_done", ("field_count", Text.ofNat fieldCount)]
  | .parseStart strategy => [named "parse_start", ("strategy", Json.string strategy)]
  | .parseCorrupted strategy errorName => [("error_type", Json.string errorName),
      named "parse_corrupted", ("strategy", Json.string strategy)]
  | .parseDone strategy valid fieldCount => [named "parse_done",
      ("field_count", Text.ofNat fieldCount), ("strategy", Json.string strategy),
      ("valid", truthText valid)]

def record (event : Event) : LogRecord :=
  ⟨event.level, Json.object (event.members.map fun member => (member.1.text, member.2))⟩

end Event

end LicenseSeal
