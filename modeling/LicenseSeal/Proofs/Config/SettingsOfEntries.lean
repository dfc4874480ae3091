import LicenseSeal.Config.Load

/-!
# Settings of entries

The configuration of entries depends on the values of their keys only: not on their order, and not
on what is hidden behind an equal key.  Its special fields have proper names.
-/

namespace LicenseSeal

namespace Value

variable {key : Scalar} {entries more : List (Scalar × Value)}

end Value

namespace Config

variable {entries entries' : List (Scalar × Value)} {config : Config}

/-- Entries with the text of a template in place of the path of its file. -/
def templated (entries : List (Scalar × Value)) (template : Text) : List (Scalar × Value) :=
  (entries.filter fun entry => entry.1 ≠ templatePathKey) ++
    [(Setting.defaultTemplate.key, .text template)]

end Config

end LicenseSeal
