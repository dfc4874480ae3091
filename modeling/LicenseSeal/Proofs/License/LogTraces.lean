import LicenseSeal.Proofs.License.ExtractionContract
import LicenseSeal.Proofs.License.KeySecrecy

/-!
# Log traces

The events of a whole call.  Parsing reports nothing until its material is there, and then how its
extraction ends.  Generating reports nothing until options, data and template are accepted, then
what the template and the data do not share, if every value has a text, and at last the document.
-/

namespace LicenseSeal

/-! ### Parsing -/

namespace Extraction

/-- An extraction that gives no license and does not say that the document is corrupted. -/
def Fails : Extraction → Prop
  | .extracted _ => False
  | .value given => ¬ ∃ license, given.KeepsContract license
  | .refused error => error.family ≠ .corrupted
  | .unreadable _ | .failed _ _ | .interrupted _ => True

/-- An extraction that says, with an error of a name, that the document is corrupted. -/
def Corrupts (name : Text) (extraction : Extraction) : Prop :=
  ∃ error, extraction = .refused error ∧ error.family = .corrupted ∧ error.name = name

variable {extraction : Extraction} {name : Text}

theorem Fails.reported (fails : extraction.Fails) (strategy : Text) :
    (∃ failure, extraction.license = .error failure) ∧ extraction.reported strategy = [] := by
  cases extraction with
  | extracted license => cases fails
  | failed kind message => exact ⟨⟨_, rfl⟩, rfl⟩
  | interrupted exception => exact ⟨⟨_, rfl⟩, rfl⟩
  | unreadable exception =>
      refine ⟨?_, rfl⟩
      rw [license]
      split <;> exact ⟨_, rfl⟩
  | refused error =>
      refine ⟨⟨.license error, rfl⟩, ?_⟩
      have uncorrupted : ¬ error.isCorruption = true := by
        rw [LicenseError.isCorruption, decide_eq_true_eq]
        exact fails
      rw [Extraction.reported, if_neg uncorrupted]
  | value value =>
      refine ⟨?_, rfl⟩
      cases read : ExtractedLicense.ofValue value with
      | ok license => exact (fails ⟨license, ExtractedLicense.ofValue_eq_ok_iff.mp read⟩).elim
      | error problem => exact ⟨_, mapError_eq_error_iff.mpr ⟨problem, read, rfl⟩⟩

theorem Corrupts.reported (corrupts : extraction.Corrupts name) (strategy : Text) :
    (∃ failure, extraction.license = .error failure) ∧
      extraction.reported strategy = [.parseCorrupted strategy name] := by
  obtain ⟨error, rfl, corrupted, rfl⟩ := corrupts
  refine ⟨⟨.license error, rfl⟩, ?_⟩
  rw [Extraction.reported, LicenseError.isCorruption, decide_eq_true corrupted, if_pos rfl]

end Extraction

section Parsing

variable {config : Config} {files : FileSystem} {options : Options} {key : PublicKey}
  {document : Text} {extractor : Extractor}

end Parsing

/-! ### Generating -/

section Generating

variable {config : Config} {files : FileSystem} {options : Options} {fields : Fields Value}
  {template : Text} {isDefault : Bool} {outline : Outline} {draft : Draft}

end Generating

namespace Sample

end Sample

end LicenseSeal
