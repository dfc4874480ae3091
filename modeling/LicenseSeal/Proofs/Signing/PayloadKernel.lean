import LicenseSeal.Proofs.Signing.PayloadInjectivity
import LicenseSeal.Proofs.Value.CoercedFields

/-!
# Which data share a payload

Data are signed in a normal form: one text, or named texts in order.  Two payloads agree exactly if
the normal forms do, or if one data is a text that writes the other one as an object.
-/

namespace LicenseSeal

/-- What is signed for named texts: the raw field alone is a plain text. -/
def Signed.ofTexts (names : FieldNames) : List (Text × Text) → Signed
  | [(name, text)] => if name = names.raw then .raw text else .structured [(name, text)]
  | texts => .structured texts

/-- The normal form of data, if its values have texts: without the serial, the raw field alone is a
plain text, and all other fields are their texts in order. -/
def LicenseData.normal (names : FieldNames) : LicenseData → Except Uncoercible Signed
  | .text content => .ok (.raw content)
  | .fields values =>
      (coerceEntries (values.entries.filter fun entry => entry.1 ≠ names.serial)).map
        (Signed.ofTexts names)

namespace Signed

/-- The bytes of what is signed determine it, but for a text that is an object's own text. -/
theorem text_eq_iff {first second : Signed} :
    first.text = second.text ↔
      first = second ∨ ∃ entries,
        (first = .raw (Json.textObject entries) ∧ second = .structured entries) ∨
          (first = .structured entries ∧ second = .raw (Json.textObject entries)) := by
  constructor
  · intro same
    cases first with
    | raw content =>
        cases second with
        | raw content' =>
            left
            exact congrArg raw same
        | structured entries =>
            right
            exact ⟨entries, .inl ⟨congrArg raw same, rfl⟩⟩
    | structured entries =>
        cases second with
        | raw content =>
            right
            exact ⟨entries, .inr ⟨rfl, congrArg raw same.symm⟩⟩
        | structured entries' =>
            left
            exact congrArg structured (Json.textObject_injective same)
  · rintro (rfl | ⟨entries, ⟨rfl, rfl⟩ | ⟨rfl, rfl⟩⟩)
    · rfl
    · rfl
    · rfl

theorem bytes_eq_ok_iff {signed : Signed} {bytes : Bytes} :
    signed.bytes = .ok bytes ↔
      (∀ c ∈ signed.text, c.isSurrogate = false) ∧ Encoding.Utf8.bytesOf signed.text = bytes :=
  Encoding.Utf8.encode_eq_ok_iff

private theorem ofFields_eq_ofTexts (names : FieldNames) {fields : Fields Text}
    (unsigned : names.serial ∉ fields.names) :
    ofFields names fields = ofTexts names fields.entries := by
  have kept := Fields.erase_eq_self unsigned
  rcases ofFields_cases names fields with ⟨text, single, signed⟩ | ⟨mixed, signed⟩
  · rw [kept] at single
    rw [signed, single, ofTexts, if_pos rfl]
  · rw [kept] at mixed
    rw [signed, kept, ofTexts.eq_def]
    split
    · next name text single =>
        have other : name ≠ names.raw := by
          rintro rfl
          exact mixed (by rw [Fields.names, single]; rfl)
        rw [if_neg other]
        exact congrArg structured single
    · rfl

/-- Entries whose keys are texts are signed like fields. -/
private theorem named_of_texts (entries : List (Text × Text)) :
    ofEntries.named (entries.map fun entry => (.text entry.1, entry.2)) =
      .ok (.structured entries) := by
  have members : (entries.map fun entry => (Scalar.text entry.1, entry.2)).mapM
      (fun entry => (Json.memberName entry.1).map fun name => (name, entry.2)) = .ok entries := by
    induction entries with
    | nil => rfl
    | cons entry entries ih =>
        rw [List.map_cons, List.mapM_cons, ih]
        rfl
  rw [ofEntries.named, members]
  rfl

private theorem coerceEntries_map_key {κ κ' : Type} (image : κ → κ')
    (entries : List (κ × Value)) :
    coerceEntries (entries.map fun entry => (image entry.1, entry.2)) =
      (coerceEntries entries).map (List.map fun entry => (image entry.1, entry.2)) := by
  induction entries with
  | nil => rfl
  | cons entry entries ih =>
      rw [List.map_cons, coerceEntries, coerceEntries, ih]
      cases entry.2.coerced with
      | error error => rfl
      | ok text => cases coerceEntries entries <;> rfl

theorem ofEntries_of_texts (names : FieldNames) (values : Fields Value) :
    ofEntries names (values.entries.map fun entry => (.text entry.1, entry.2)) =
      ((LicenseData.fields values).normal names).mapError .uncoercible := by
  have kept : ((values.entries.map fun entry => (Scalar.text entry.1, entry.2)).filter
        fun entry => entry.1 ≠ .text names.serial) =
      (values.entries.filter fun entry => entry.1 ≠ names.serial).map
        fun entry => (.text entry.1, entry.2) := by
    simp only [List.filter_map, Function.comp_def, ne_eq, Scalar.text.injEq]
  rw [ofEntries, kept, coerceEntries_map_key, LicenseData.normal]
  generalize coerceEntries (values.entries.filter fun entry => entry.1 ≠ names.serial) = coerced
  match coerced with
  | .error error => rfl
  | .ok [] => exact named_of_texts []
  | .ok [(name, text)] =>
      by_cases same : name = names.raw
      · simp [same, Except.map, ofTexts]
      · simpa [same, Except.map, ofTexts] using named_of_texts [(name, text)]
  | .ok (first :: second :: rest) => exact named_of_texts (first :: second :: rest)

end Signed

namespace LicenseData

variable {names : FieldNames} {data : LicenseData} {bytes : Bytes}

theorem signed_eq_normal (names : FieldNames) (data : LicenseData) :
    data.signed names = data.normal names := by
  cases data with
  | text content => rfl
  | fields values =>
      rw [signed, normal, Fields.coerced, Fields.entries_erase]
      cases same : coerceEntries (values.entries.filter fun entry => entry.1 ≠ names.serial) with
      | error error => rfl
      | ok texts =>
          have sameKeys := map_fst_of_coerces (coerceEntries_eq_ok_iff.mp same)
          have keys : texts.map Prod.fst = (values.erase names.serial).names := by
            rw [sameKeys, Fields.names, Fields.entries_erase]
          have entries : (Fields.ofList texts).entries = texts :=
            Fields.entries_ofList (keys ▸ (values.erase names.serial).distinct)
          have unsigned : names.serial ∉ (Fields.ofList texts).names := by
            rw [Fields.names, entries, keys]
            exact Fields.not_mem_names_erase values names.serial
          exact congrArg Except.ok
            ((Signed.ofFields_eq_ofTexts names unsigned).trans (by rw [entries]))

theorem payload_eq_ok_iff :
    data.payload names = .ok bytes ↔
      ∃ signed, data.normal names = .ok signed ∧ signed.bytes = .ok bytes := by
  rw [payload, signed_eq_normal]
  cases data.normal names with
  | error error => simp [bind, Except.bind]
  | ok signed =>
      cases same : signed.bytes <;> simp [bind, Except.bind, same]

/-- Data have a payload if their values have texts without a surrogate.  Two data share one exactly
if they have the same normal form or if one of them is a text that writes the normal form of the
other as an object.  Fields that are given entry by entry are signed in the same way. -/
theorem payload_eq_payload_iff (names : FieldNames) :
    (∀ data : LicenseData, (∃ bytes, data.payload names = .ok bytes) ↔
      ∃ signed, data.normal names = .ok signed ∧ ∀ c ∈ signed.text, c.isSurrogate = false) ∧
    (∀ first second : LicenseData,
      (∃ bytes, first.payload names = .ok bytes ∧ second.payload names = .ok bytes) ↔
        (∃ bytes, first.payload names = .ok bytes) ∧
          (first.normal names = second.normal names ∨ ∃ entries,
            (first.normal names = .ok (.raw (Json.textObject entries)) ∧
                second.normal names = .ok (.structured entries)) ∨
              (first.normal names = .ok (.structured entries) ∧
                second.normal names = .ok (.raw (Json.textObject entries))))) ∧
    ∀ values : Fields Value, ∃ outcome : Except Uncoercible Signed,
      Signed.ofEntries names (values.entries.map fun entry => (.text entry.1, entry.2)) =
        outcome.mapError .uncoercible ∧
      (LicenseData.fields values).payload names =
        outcome.mapError .uncoercible >>= fun signed => signed.bytes.mapError .unencodable := by
  refine ⟨fun data => ?_, fun first second => ⟨?_, ?_⟩, fun values => ?_⟩
  · simp only [payload_eq_ok_iff, Signed.bytes_eq_ok_iff]
    constructor
    · rintro ⟨bytes, signed, normal, plain, -⟩
      exact ⟨signed, normal, plain⟩
    · rintro ⟨signed, normal, plain⟩
      exact ⟨_, signed, normal, plain, rfl⟩
  · rintro ⟨bytes, written, written'⟩
    refine ⟨⟨bytes, written⟩, ?_⟩
    obtain ⟨signed, normal, encoded⟩ := payload_eq_ok_iff.mp written
    obtain ⟨signed', normal', encoded'⟩ := payload_eq_ok_iff.mp written'
    rw [normal, normal']
    simp only [Except.ok.injEq]
    exact Signed.text_eq_iff.mp (Signed.text_eq_of_bytes_eq encoded encoded')
  · rintro ⟨⟨bytes, written⟩, related⟩
    obtain ⟨signed, normal, encoded⟩ := payload_eq_ok_iff.mp written
    rw [normal] at related
    -- The other data is signed by the same text, so that it has the same bytes.
    obtain ⟨signed', normal', sameText⟩ :
        ∃ signed', second.normal names = .ok signed' ∧ signed.text = signed'.text := by
      rcases related with same | ⟨entries, ⟨first, other⟩ | ⟨first, other⟩⟩
      · exact ⟨signed, same.symm, rfl⟩
      · obtain rfl := Except.ok.inj first
        exact ⟨_, other, rfl⟩
      · obtain rfl := Except.ok.inj first
        exact ⟨_, other, rfl⟩
    refine ⟨bytes, written, payload_eq_ok_iff.mpr ⟨signed', normal', ?_⟩⟩
    rw [Signed.bytes, ← sameText]
    exact encoded
  · refine ⟨_, Signed.ofEntries_of_texts names values, ?_⟩
    rw [payload, signed_eq_normal]

end LicenseData

end LicenseSeal
