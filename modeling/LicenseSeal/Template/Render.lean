import LicenseSeal.Fields
import LicenseSeal.Template.Scan

/-!
# Rendering

A template is rendered by putting the value of its field in place of every placeholder.  A value is
not looked at again, and a placeholder without a field stays as it is spelled.
-/

namespace LicenseSeal

namespace Segment

/-- What a segment contributes to a document. -/
def rendered (fields : Fields Text) : Segment → Text
  | .literal text => text
  | .token name raw => (fields.get? name).getD raw

end Segment

namespace Template

/-- The document of a template and its fields. -/
def render (template : Text) (fields : Fields Text) : Text :=
  (scan template).segments.flatMap (Segment.rendered fields)

end Template

end LicenseSeal
