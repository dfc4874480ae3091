import LicenseSeal.Proofs.License.Outcome
import LicenseSeal.Proofs.Signing.PayloadInjectivity
import LicenseSeal.Proofs.Signing.SerialVerification
import LicenseSeal.Proofs.Template.TokenTexts
import LicenseSeal.Proofs.Value.CoercedFields

/-!
# Drafts

An accepted draft signs the fields of the template that the data has, and renders them together
with the serial.  A placeholder that is left in place is longer than what it stands for, so that the
rendered texts are longer than the signed ones and the serial by at least four characters for each
missing field.
-/

namespace LicenseSeal

namespace Segment

/-- Texts in place of tokens: those of the given fields, the serial, and at least four characters
for every token without a field. -/
theorem length_flatten_tokenText? {given : Fields Text} {serialName : Text}
    (noSerial : serialName ∉ given.names) (serial : Text) {segments : List Segment}
    (long : ∀ name raw, .token name raw ∈ segments → 4 ≤ raw.length) :
    ((segments.filterMap name?).filterMap given.get?).flatten.length +
        serial.length * (segments.filterMap name?).count serialName +
        4 * ((segments.filterMap name?).filter fun name =>
          name ≠ serialName && !given.contains name).length ≤
      (segments.filterMap (tokenText? (given.put serialName serial))).flatten.length := by
  induction segments with
  | nil => exact Nat.le_refl _
  | cons segment segments ih =>
      have rest := ih fun name raw member => long name raw (List.mem_cons_of_mem _ member)
      cases segment with
      | literal text => exact rest
      | token name raw =>
          have rawLong := long name raw List.mem_cons_self
          have named : (token name raw).name? = some name := rfl
          have put : tokenText? (given.put serialName serial) (token name raw) =
              some (((given.put serialName serial).get? name).getD raw) := rfl
          rw [List.filterMap_cons_some named, List.filterMap_cons_some put, Fields.get?_put]
          by_cases same : serialName = name
          · subst same
            have unread := Fields.get?_eq_none_iff.mpr noSerial
            simp only [List.filterMap_cons, unread, List.count_cons_self, ne_eq, not_true_eq_false,
              decide_false, Bool.false_and, Bool.false_eq_true, not_false_eq_true,
              List.filter_cons_of_neg, if_true, Option.getD_some, List.flatten_cons,
              List.length_append, Nat.mul_add, Nat.mul_one] at rest ⊢
            omega
          · have different : ¬ name = serialName := fun equal => same equal.symm
            have uncounted : ¬ (name == serialName) = true := by simpa using different
            rw [if_neg same, List.count_cons, if_neg uncounted, Nat.add_zero]
            cases found : given.get? name with
            | none =>
                have lacking : given.contains name = false := by
                  rw [← Bool.not_eq_true, Fields.contains_iff]
                  exact Fields.get?_eq_none_iff.mp found
                have missing : (decide (name ≠ serialName) && !given.contains name) = true := by
                  simp [different, lacking]
                rw [List.filterMap_cons_none found, List.filter_cons, if_pos missing]
                simp only [Option.getD_none, List.flatten_cons, List.length_append,
                  List.length_cons]
                omega
            | some value =>
                have present : given.contains name = true := by
                  rw [Fields.contains_iff]
                  exact Fields.mem_names_of_mem_entries (Fields.get?_eq_some_iff.mp found)
                have notMissing :
                    ¬ (decide (name ≠ serialName) && !given.contains name) = true := by
                  simp [present]
                rw [List.filterMap_cons_some found, List.filter_cons, if_neg notMissing]
                simp only [Option.getD_some, List.flatten_cons, List.length_append]
                omega

end Segment

namespace Outline

variable {config : Config} {names : FieldNames} {request : GenerateRequest} {outline : Outline}
  {draft : Draft}

theorem fieldsOf_eq_ok_iff {fields : Fields Value} :
    fieldsOf names request = .ok fields ↔
      ∃ data, request.data = some data ∧ data.isEmpty = false ∧
        request.key.problem? "private_key".text = none ∧
        names.serial ∉ (data.toFields names).names ∧ fields = data.toFields names := by
  constructor
  · intro accepted
    rw [fieldsOf] at accepted
    split at accepted
    · cases accepted
    · next data given =>
        split at accepted
        · cases accepted
        · next nonempty =>
            split at accepted
            · cases accepted
            · next unproblematic =>
                simp only at accepted
                split at accepted
                · cases accepted
                · next unreserved =>
                    rw [Fields.contains_iff] at unreserved
                    exact ⟨data, given, eq_false_of_ne_true nonempty, unproblematic,
                      unreserved, (Except.ok.inj accepted).symm⟩
  · rintro ⟨data, given, nonempty, unproblematic, unreserved, rfl⟩
    rw [← Fields.contains_iff] at unreserved
    simp only [fieldsOf, given, nonempty, unproblematic, eq_false_of_ne_true unreserved,
      Bool.false_eq_true, if_false]

theorem ofRequest_eq_ok_iff :
    ofRequest config request = .ok outline ↔
      ∃ fields, fieldsOf config.names request = .ok fields ∧
        config.names.serial ∈
          (Template.scan (request.template.getD config.defaultTemplate)).names ∧
        outline = ⟨request.template.getD config.defaultTemplate,
          Template.scan (request.template.getD config.defaultTemplate), request.template.isNone,
          fields⟩ := by
  rw [ofRequest]
  cases fieldsOf config.names request with
  | error error =>
      constructor
      · intro impossible
        cases impossible
      · rintro ⟨fields, impossible, -⟩
        cases impossible
  | ok fields =>
      constructor
      · intro accepted
        change (if _ then _ else _) = _ at accepted
        split at accepted
        · next hasSerial =>
            refine ⟨fields, rfl, ?_, (Except.ok.inj accepted).symm⟩
            exact Scan.mem_fields_iff.mp (List.contains_iff_mem.mp hasSerial)
        · cases accepted
      · rintro ⟨fields', same, hasSerial, rfl⟩
        cases same
        exact if_pos (List.contains_iff_mem.mpr (Scan.mem_fields_iff.mpr hasSerial))

theorem draft_eq_ok_iff :
    outline.draft = .ok draft ↔
      ∃ coerced, outline.fields.coerced = .ok coerced ∧
        draft = ⟨outline.template, outline.scan, outline.isDefaultTemplate, coerced⟩ := by
  rw [Outline.draft]
  cases outline.fields.coerced <;> simp [Except.map, eq_comm]

theorem draft_eq_error_iff {error : Uncoercible} :
    outline.draft = .error error ↔ outline.fields.coerced = .error error := by
  rw [Outline.draft]
  cases outline.fields.coerced <;> simp [Except.map]

end Outline

namespace Draft

variable {config : Config} {names : FieldNames} {request : GenerateRequest} {draft : Draft}

/-- The bytes that are signed for a draft, unless a text holds a surrogate. -/
def payload (names : FieldNames) (draft : Draft) : Except Encoding.EncodeError Bytes :=
  (Signed.ofFields names draft.signedFields).bytes

theorem serial_eq_ok_iff {key : PrivateKey} {serial : Text} :
    draft.serial names key = .ok serial ↔
      ∃ payload, draft.payload names = .ok payload ∧ key.serial payload = .ok serial := by
  rw [Draft.serial, payload]
  cases (Signed.ofFields names draft.signedFields).bytes with
  | error error => simp [bind, Except.bind]
  | ok payload =>
      have same : (key.serial payload).mapError Failure.serial = .ok serial ↔
          key.serial payload = .ok serial := mapError_eq_ok_iff
      simpa [bind, Except.bind] using same

/-- The texts that stand in place of the tokens in the document of a draft and a serial. -/
def tokenTexts (names : FieldNames) (draft : Draft) (serial : Text) : List Text :=
  draft.scan.segments.filterMap
    (Segment.tokenText? (draft.signedFields.put names.serial serial))

/-- What an accepted draft guarantees: the tokens are those of its template, the serial's is among
them, and the data does not name the serial. -/
structure WellFormed (names : FieldNames) (draft : Draft) : Prop where
  scan_eq : draft.scan = Template.scan draft.template
  hasSerial : names.serial ∈ draft.scan.names
  noSerial : names.serial ∉ draft.coerced.names

theorem WellFormed.distinct_scan (wellFormed : draft.WellFormed names)
    (distinct : draft.scan.names.Nodup) : (Template.scan draft.template).names.Nodup := by
  rw [← wellFormed.scan_eq]
  exact distinct

theorem WellFormed.hasSerial_scan (wellFormed : draft.WellFormed names) :
    names.serial ∈ (Template.scan draft.template).names := by
  rw [← wellFormed.scan_eq]
  exact wellFormed.hasSerial

/-- Every token of the template, the serial's aside, has a field in the data. -/
def Complete (names : FieldNames) (draft : Draft) : Prop :=
  ∀ name ∈ draft.scan.names, name ≠ names.serial → name ∈ draft.coerced.names

theorem missingNames_eq_nil_iff : draft.missingNames names = [] ↔ draft.Complete names := by
  rw [missingNames, List.filter_eq_nil_iff]
  constructor
  · intro none name member different
    have present := none name (Scan.mem_fields_iff.mpr member)
    simpa [different, Fields.contains_iff] using present
  · intro complete name member
    by_cases same : name = names.serial
    · simp [same]
    · have present := complete name (Scan.mem_fields_iff.mp member) same
      simp [Fields.contains_iff.mpr present]

theorem ofRequest_eq_ok_iff :
    ofRequest config request = .ok draft ↔
      ∃ fields coerced, Outline.fieldsOf config.names request = .ok fields ∧
        fields.coerced = .ok coerced ∧
        config.names.serial ∈
          (Template.scan (request.template.getD config.defaultTemplate)).names ∧
        draft = ⟨request.template.getD config.defaultTemplate,
          Template.scan (request.template.getD config.defaultTemplate), request.template.isNone,
          coerced⟩ := by
  simp only [ofRequest_eq_ok_iff_outline, Outline.ofRequest_eq_ok_iff, Outline.draft_eq_ok_iff]
  constructor
  · rintro ⟨_, ⟨fields, read, hasSerial, rfl⟩, coerced, coerces, rfl⟩
    exact ⟨fields, coerced, read, coerces, hasSerial, rfl⟩
  · rintro ⟨fields, coerced, read, coerces, hasSerial, rfl⟩
    exact ⟨_, ⟨fields, read, hasSerial, rfl⟩, coerced, coerces, rfl⟩

theorem wellFormed_of_ofRequest (accepted : ofRequest config request = .ok draft) :
    WellFormed config.names draft := by
  obtain ⟨fields, coerced, read, coerces, hasSerial, rfl⟩ := ofRequest_eq_ok_iff.mp accepted
  obtain ⟨data, -, -, -, unreserved, rfl⟩ := Outline.fieldsOf_eq_ok_iff.mp read
  refine ⟨rfl, hasSerial, ?_⟩
  rw [Fields.names_of_coerced coerces]
  exact unreserved

theorem entries_signedFields_eq (draft : Draft) :
    draft.signedFields.entries = draft.scan.fields.filterMap fun name =>
      (draft.coerced.get? name).map fun value => (name, value) := by
  rw [signedFields]
  refine Fields.entries_ofList ?_
  rw [Fields.map_fst_filterMap_get?]
  exact (Scan.nodup_fields draft.scan).filter _

theorem names_signedFields_eq (draft : Draft) :
    draft.signedFields.names = draft.scan.fields.filter draft.coerced.contains := by
  rw [Fields.names, entries_signedFields_eq, Fields.map_fst_filterMap_get?]

section Distinct

variable (distinct : draft.scan.names.Nodup)

include distinct

theorem entries_signedFields :
    draft.signedFields.entries = draft.scan.names.filterMap fun name =>
      (draft.coerced.get? name).map fun value => (name, value) := by
  rw [entries_signedFields_eq, Scan.fields_eq_names distinct]

theorem names_signedFields :
    draft.signedFields.names = draft.scan.names.filter draft.coerced.contains := by
  rw [names_signedFields_eq, Scan.fields_eq_names distinct]

theorem get?_signedFields {name : Text} (member : name ∈ draft.scan.names) :
    draft.signedFields.get? name = draft.coerced.get? name := by
  cases found : draft.coerced.get? name with
  | none =>
      rw [Fields.get?_eq_none_iff, names_signedFields distinct, List.mem_filter]
      rintro ⟨-, present⟩
      exact Fields.get?_eq_none_iff.mp found (Fields.contains_iff.mp present)
  | some value =>
      rw [Fields.get?_eq_some_iff, entries_signedFields distinct, List.mem_filterMap]
      exact ⟨name, member, by rw [found, Option.map_some]⟩

theorem tokenTexts_eq (serial : Text) :
    draft.tokenTexts names serial = draft.scan.segments.filterMap
      (Segment.tokenText? (draft.coerced.put names.serial serial)) := by
  refine List.filterMap_congr fun segment member => ?_
  cases segment with
  | literal text => rfl
  | token name raw =>
      have named : name ∈ draft.scan.names := List.mem_filterMap.mpr ⟨_, member, rfl⟩
      simp only [Segment.tokenText?, Fields.get?_put, get?_signedFields distinct named]

theorem totalLength_signedFields :
    draft.signedFields.totalLength =
      (draft.scan.names.filterMap draft.coerced.get?).flatten.length := by
  rw [Fields.totalLength, entries_signedFields distinct, List.flatMap_def, List.map_filterMap]
  simp only [Option.map_map, Function.comp_def, Option.map_id_fun', id_eq]

end Distinct

end Draft

namespace Sample

variable {template : Text} {fields : Fields Value}

theorem fieldsOf_eq_ok (nonempty : fields.isEmpty = false)
    (unreserved : "serial".text ∉ fields.names) :
    Outline.fieldsOf (config template).names
        ⟨some (.fields fields), ⟨some (.text privateKeyText), none⟩, none, none⟩ =
      .ok fields :=
  Outline.fieldsOf_eq_ok_iff.mpr ⟨.fields fields, rfl, nonempty,
    KeyOptions.problem?_text (by decide +kernel) _, unreserved, rfl⟩

theorem exists_issues {options : Options} {coerced : Fields Text} {draft : Draft}
    (drafts : ⟨template, Template.scan template, true, coerced⟩ = draft)
    (accepted : GenerateRequest.ofOptions options =
      .ok ⟨some (.fields fields), ⟨some (.text privateKeyText), none⟩, none, none⟩)
    (nonempty : fields.isEmpty = false) (coerces : fields.coerced = .ok coerced)
    (unreserved : "serial".text ∉ coerced.names)
    (hasSerial : "serial".text ∈ (Template.scan template).names)
    (plain : ∀ c ∈ (Signed.ofFields (config template).names draft.signedFields).text,
      c.isSurrogate = false) :
    ∃ serial, Issues (config template) files options draft (.ed25519 seed) serial := by
  rw [Fields.names_of_coerced coerces] at unreserved
  have drafted : Draft.ofRequest (config template)
      ⟨some (.fields fields), ⟨some (.text privateKeyText), none⟩, none, none⟩ = .ok draft :=
    Draft.ofRequest_eq_ok_iff.mpr
      ⟨fields, coerced, fieldsOf_eq_ok nonempty unreserved, coerces, hasSerial, drafts.symm⟩
  have signed := Draft.serial_eq_ok_iff.mpr
    ⟨_, Encoding.Utf8.encode_of_plain plain, PrivateKey.serial_ed25519 seed _⟩
  exact ⟨_, ⟨_, accepted, drafted, privateKey_eq_ok _ _⟩, signed⟩

end Sample

end LicenseSeal
