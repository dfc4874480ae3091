import LicenseSeal.Yaml.Timestamp

/-!
# YAML tags

A tag says what the value of a node is.  It is written in full or with a handle for its front.  The
tag of a plain scalar is seen from its text: an absent value, a truth value, a number or a date in
the forms of version 1.1, and a text otherwise.
-/

namespace LicenseSeal.Yaml

/-- What the value of a node is. -/
inductive Tag where
  | text
  | null
  | bool
  | int
  | float
  | timestamp
  | binary
  | sequence
  | mapping
  | set
  /-- A sequence of single entries whose order counts. -/
  | orderedMap
  /-- A sequence of single entries whose keys may repeat. -/
  | pairs
  /-- The key whose value is a mapping with entries for the mapping around it. -/
  | merge
  /-- The key of the value that stands for the mapping where a scalar is needed. -/
  | standIn
  /-- A tag that nothing is made of. -/
  | foreign
  deriving DecidableEq, Repr

/-- The front of the tags of the basic types. -/
def basicFront : Text := "tag:yaml.org,2002:".text

/-- The tags of the basic types by what follows their front. -/
private def basicTags : List (Text × Tag) := [
  ("str".text, .text), ("null".text, .null), ("bool".text, .bool), ("int".text, .int),
  ("float".text, .float), ("timestamp".text, .timestamp), ("binary".text, .binary),
  ("seq".text, .sequence), ("map".text, .mapping), ("set".text, .set),
  ("omap".text, .orderedMap), ("pairs".text, .pairs), ("merge".text, .merge),
  ("value".text, .standIn)]

/-- The tag that is written in full. -/
def Tag.ofFull (full : Text) : Tag :=
  match Text.dropLead? basicFront full with
  | none => .foreign
  | some name => ((basicTags.find? fun entry => entry.1 = name).map (·.2)).getD .foreign

/-- The handles and the fronts that they stand for. -/
abbrev Handles := List (Text × Text)

namespace Handles

/-- The handles that need no directive. -/
def usual : Handles := [(['!'], ['!']), ("!!".text, basicFront)]

/-- A tag in full, none if its handle is not known. -/
def full? (handles : Handles) (handle : Option Text) (suffix : Text) : Option Text :=
  match handle with
  | none => some suffix
  | some name => (handles.find? fun entry => entry.1 = name).map fun entry => entry.2 ++ suffix

end Handles

/-! ## Plain scalars -/

/-- The content without the sign at its front. -/
def withoutSign : Text → Text
  | '-' :: rest => rest
  | '+' :: rest => rest
  | rest => rest

private def isDigitOrGap (c : CodePoint) : Bool :=
  Text.isDigit c || c = '_'

/-- Whether a text is a number below sixty with one or two digits. -/
private def isSexagesimal (part : Text) : Bool :=
  match part with
  | [only] => Text.isDigit only
  | [tens, ones] => '0' ≤ tens && tens ≤ '5' && Text.isDigit ones
  | _ => false

/-- Whether a text is a number whose further parts count sixtieths. -/
private def hasSexagesimalForm (content : Text) : Bool :=
  match Text.splitAt ':' content with
  | whole :: parts => whole.all isDigitOrGap && parts.all isSexagesimal
  | [] => false

/-- Whether a text has one of the cases of a word: small letters, a capital at the front, or
capitals. -/
private def isCased (content : Text) (word : String) : Bool :=
  let letters := word.text
  let capitals := letters.map CodePoint.toUpper
  content = letters || content = capitals.take 1 ++ letters.drop 1 || content = capitals

/-- Whether a text is a word for a truth value. -/
def isTruth (content : Text) : Bool :=
  ["yes", "true", "on", "no", "false", "off"].any (isCased content)

/-- Whether a text is a way of writing the absent value. -/
def isNull (content : Text) : Bool :=
  content.isEmpty || content = "~".text || isCased content "null"

/-- Whether a text has the form of an integer. -/
def isInteger (content : Text) : Bool :=
  match withoutSign content with
  | '0' :: 'b' :: digits =>
      !digits.isEmpty && digits.all fun (c : CodePoint) => c = '0' || c = '1' || c = '_'
  | '0' :: 'x' :: digits =>
      !digits.isEmpty && digits.all fun c => (Text.hexValue? c).isSome || c = '_'
  | '0' :: digits => digits.all fun c => ('0' ≤ c && c ≤ '7') || c = '_'
  | first :: digits => Text.isDigit first && hasSexagesimalForm (first :: digits)
  | [] => false

/-- Whether a text is the exponent of a floating-point number, which needs a sign, or empty. -/
private def isExponent : Text → Bool
  | [] => true
  | mark :: sign :: digits =>
      (mark = 'e' || mark = 'E') && (sign = '+' || sign = '-') && !digits.isEmpty
        && digits.all Text.isDigit
  | _ => false

/-- Whether a text is a number with a point; one that begins with the point has no sign. -/
private def isPointed (isSigned : Bool) (content : Text) : Bool :=
  let whole := content.takeWhile isDigitOrGap
  match content.dropWhile isDigitOrGap with
  | '.' :: rest =>
      let first := if whole.isEmpty && !isSigned then rest else whole
      first.head?.any Text.isDigit && isExponent (rest.dropWhile isDigitOrGap)
  | _ => false

/-- Whether a text is a number whose further parts count sixtieths, with a point at its end. -/
private def isSexagesimalPoint (content : Text) : Bool :=
  match Text.splitAt '.' content with
  | [whole, fraction] =>
      whole.head?.any Text.isDigit && whole.contains ':' && hasSexagesimalForm whole
        && fraction.all isDigitOrGap
  | _ => false

/-- Whether a text has the form of a floating-point number. -/
def isFloat (content : Text) : Bool :=
  let digits := withoutSign content
  [".inf", ".Inf", ".INF"].any (fun word => digits = word.text)
    || [".nan", ".NaN", ".NAN"].any (fun word => content = word.text)
    || isPointed (digits.length ≠ content.length) digits
    || isSexagesimalPoint digits

/-- The tag that a text shows by its form. -/
private def shown (content : Text) : Tag :=
  if isTruth content then .bool
  else if isFloat content then .float
  else if isInteger content then .int
  else if content = "<<".text then .merge
  else if isNull content then .null
  else if Timestamp.isShown content then .timestamp
  else if content = "=".text then .standIn
  else if ["!", "&", "*"].any fun mark => content = mark.text then .foreign
  else .text

/-- The tag of a plain scalar.  A line feed at its end does not count, unless it is all there is. -/
def Tag.ofPlain (content : Text) : Tag :=
  if content.getLast? = some (.char '\n') then
    let line := content.dropLast
    if line.isEmpty then .text else shown line
  else shown content

end LicenseSeal.Yaml
