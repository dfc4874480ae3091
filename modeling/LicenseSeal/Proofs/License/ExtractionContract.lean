import LicenseSeal.Proofs.Encoding.Utf8RoundTrip
import LicenseSeal.Proofs.License.Drafts
import LicenseSeal.Proofs.License.OptionAgreement
import LicenseSeal.Proofs.License.TamperEvidence
import LicenseSeal.Proofs.License.TypedFailures
import Mathlib.Data.List.Forall2

/-!
# The contract of extractors

What a caller's extractor returns is accepted exactly if it is a license, or a mapping that names a
text as the serial and proper data, and everything else is refused before the serial is looked at.
Errors of licensing that it raises are passed on as they are, and other errors break its contract.
What is raised while its mapping is read is passed on too, unless it is an error of validation.
-/

namespace LicenseSeal

/-- A key of a mapping that is read as a name: a text is the name, bytes encode it. -/
inductive Scalar.ReadsAs : Scalar → Text → Prop where
  | text (name : Text) : ReadsAs (.text name) name
  | bytes {content : Bytes} {name : Text} :
      Encoding.Utf8.decode? content = some name → ReadsAs (.bytes content) name

/-- A value that is the data of a license: a text, or a mapping whose keys are all read as names. -/
inductive Value.IsData : Value → LicenseData → Prop where
  | text (content : Text) : IsData (.text content) (.text content)
  | mapping {entries : List (Scalar × Value)} {named : List (Text × Value)} :
      List.Forall₂ (fun entry field => entry.1.ReadsAs field.1 ∧ entry.2 = field.2) entries named →
      IsData (.map entries) (.fields (Fields.ofList named))

/-- A value that keeps the contract of extractors: a mapping with a license's serial, a text, and
with its data. -/
def Value.KeepsContract (value : Value) (license : ExtractedLicense) : Prop :=
  ∃ entries data, value = .map entries ∧
    Value.ofKey? ExtractedLicense.serialKey entries = some (.text license.serial) ∧
    Value.ofKey? ExtractedLicense.dataKey entries = some data ∧ data.IsData license.data

theorem Scalar.asText_eq_ok_iff {key : Scalar} {name : Text} :
    (Value.scalar key).asText = .ok name ↔ key.ReadsAs name := by
  constructor
  · intro read
    rw [Value.asText.eq_def] at read
    split at read
    · next same =>
        cases same
        cases read
        exact .text _
    · next same =>
        cases same
        split at read
        · next decoded =>
            cases read
            exact .bytes decoded
        · cases read
    · cases read
  · intro reads
    cases reads with
    | text name => rfl
    | bytes decoded => simp only [Value.asText, decoded]

theorem Value.namedEntries?_eq_some_iff {entries : List (Scalar × Value)}
    {named : List (Text × Value)} :
    namedEntries? entries = some named ↔
      List.Forall₂ (fun entry field => entry.1.ReadsAs field.1 ∧ entry.2 = field.2)
        entries named := by
  induction entries generalizing named with
  | nil =>
      rw [namedEntries?, List.forall₂_nil_left_iff]
      constructor
      · intro same
        exact (Option.some.inj same).symm
      · rintro rfl
        rfl
  | cons entry rest ih =>
      obtain ⟨key, value⟩ := entry
      rw [List.forall₂_cons_left_iff]
      constructor
      · intro read
        rw [namedEntries?] at read
        split at read
        · next name others keyRead othersRead =>
            obtain rfl := Option.some.inj read
            exact ⟨(name, value), others, ⟨Scalar.asText_eq_ok_iff.mp keyRead, rfl⟩,
              ih.mp othersRead, rfl⟩
        · cases read
      · rintro ⟨⟨name, value'⟩, others, ⟨reads, same⟩, related, rfl⟩
        simp only at reads same
        subst same
        rw [namedEntries?, Scalar.asText_eq_ok_iff.mpr reads, ih.mpr related]

theorem ExtractedLicense.dataOf?_eq_some_iff {value : Value} {data : LicenseData} :
    dataOf? value = some data ↔ value.IsData data := by
  constructor
  · intro read
    rw [dataOf?.eq_def] at read
    split at read
    · cases read
      exact .text _
    · obtain ⟨fields, mapped, rfl⟩ := Option.map_eq_some_iff.mp read
      rw [Value.asFields?.eq_def] at mapped
      split at mapped
      · obtain ⟨named, related, rfl⟩ := Option.map_eq_some_iff.mp mapped
        exact .mapping (Value.namedEntries?_eq_some_iff.mp related)
      · cases mapped
  · intro isData
    cases isData with
    | text content => rfl
    | @mapping entries named related =>
        change (Value.asFields? (.map entries)).map LicenseData.fields = _
        rw [Value.asFields?, Value.namedEntries?_eq_some_iff.mpr related]
        rfl

theorem ExtractedLicense.ofValue_eq_ok_iff {value : Value} {license : ExtractedLicense} :
    ofValue value = .ok license ↔ value.KeepsContract license := by
  constructor
  · intro accepted
    rw [ofValue.eq_def] at accepted
    split at accepted
    · next entries =>
        split at accepted
        · next serial data serialRead dataRead =>
            obtain rfl := Except.ok.inj accepted
            obtain ⟨given, found, read⟩ := Option.bind_eq_some_iff.mp dataRead
            exact ⟨entries, given, rfl, serialRead, found, dataOf?_eq_some_iff.mp read⟩
        · cases accepted
    · cases accepted
  · rintro ⟨entries, data, rfl, serialRead, dataRead, isData⟩
    rw [ofValue, serialRead, dataRead, Option.bind_some, dataOf?_eq_some_iff.mpr isData]

/-! ### Runs with an extractor -/

section Runs

variable {config : Config} {files : FileSystem} {options : Options} {key : PublicKey}
  {document : Text} {extractor : Extractor}

end Runs

namespace Sample

end Sample

end LicenseSeal
