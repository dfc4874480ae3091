import LicenseSeal.Encoding.Utf8
import LicenseSeal.Hash.Sha256
import LicenseSeal.Json.Writer
import LicenseSeal.Template.Scan

/-!
# Template fingerprint

A template is identified by its literal texts and token names, whatever way its placeholders are
spelled.  These are written as JSON, and the fingerprint is the hash of that text.
-/

namespace LicenseSeal

namespace Segment

/-- A segment as JSON: its literal text or its name. -/
def identity : Segment → Text
  | .literal text => Json.object [("literal".text, Json.string text)]
  | .token name _ => Json.object [("token".text, Json.string name)]

end Segment

namespace Scan

/-- The distinct texts of the unsupported fragments in order of their characters. -/
def unsupportedTexts (scan : Scan) : List Text :=
  ((scan.unsupported.map (·.text)).eraseDups).mergeSort fun left right => !(decide (right < left))

/-- The text that identifies a template. -/
def identity (scan : Scan) : Text :=
  Json.object [
    ("segments".text, Json.array (scan.segments.map Segment.identity)),
    ("unsupported".text, Json.array (scan.unsupportedTexts.map Json.string))]

end Scan

namespace Template

/-- The fingerprint of a template in hexadecimal, unless the template holds a surrogate. -/
def fingerprint (template : Text) : Except Encoding.EncodeError Text :=
  (Encoding.Utf8.encode (scan template).identity).map fun bytes =>
    Text.ofBytes (Sha256.digest bytes)

end Template

end LicenseSeal
