import LicenseSeal.Proofs.License.Outcome
import LicenseSeal.Proofs.Signing.PlainTexts
import LicenseSeal.Proofs.Template.MemoSoundness
import LicenseSeal.Proofs.Template.TokenTexts
import LicenseSeal.Proofs.Value.CoercedFields

/-!
# Licenses read from a template

A template that uses every name once, the serial's among them, finds a license in every document
that it matches: the captured texts under the names of its tokens.  What parsing reconstructs from
the document is the payload of this license together with its serial.
-/

namespace LicenseSeal

/-- The payload that is reconstructed from a license, if its data has one, and the serial that it is
checked with. -/
def ParsedLicense.signedPair (names : FieldNames) (parsed : ParsedLicense) :
    Except PayloadError (Bytes × Text) :=
  (parsed.data.payload names).map fun payload => (payload, parsed.serial)

theorem ParsedLicense.signedPair_eq_ok_iff {names : FieldNames} {parsed : ParsedLicense}
    {payload : Bytes} {serial : Text} :
    parsed.signedPair names = .ok (payload, serial) ↔
      parsed.data.payload names = .ok payload ∧ parsed.serial = serial := by
  rw [signedPair]
  cases parsed.data.payload names <;> simp [Except.map]

theorem ExtractedLicense.verified_eq_ok_iff {names : FieldNames} {key : PublicKey}
    {license : ExtractedLicense} {parsed : ParsedLicense} :
    license.verified names key = .ok parsed ↔
      ∃ payload, license.data.payload names = .ok payload ∧
        parsed = ⟨key.verifies payload license.serial, license.serial, license.data⟩ := by
  rw [verified]
  cases license.data.payload names <;> simp [bind, Except.bind, pure, Except.pure, eq_comm]

/-- Texts as data: the raw field alone is a plain text. -/
def LicenseData.ofTexts (names : FieldNames) (texts : Fields Text) : LicenseData :=
  if isRaw names.raw texts.names then .text ((texts.get? names.raw).getD [])
  else .fields (texts.map Value.text)

theorem LicenseData.signed_ofTexts (names : FieldNames) {texts : Fields Text}
    (noSerial : names.serial ∉ texts.names) :
    (ofTexts names texts).signed names = .ok (Signed.ofFields names texts) := by
  have kept : texts.erase names.serial = texts := Fields.erase_eq_self noSerial
  rw [ofTexts]
  split
  · next alone =>
      simp only [signed, Signed.ofFields, kept, alone, if_true]
  · rw [signed, Fields.coerced_erase (Fields.coerced_map_text texts), kept]
    rfl

theorem TemplateExtractor.data_licenseOf (names : FieldNames) (fields : Fields Text) :
    (licenseOf names fields).data = .ofTexts names (fields.erase names.serial) :=
  rfl

theorem TemplateExtractor.payload_licenseOf (names : FieldNames) (fields : Fields Text) :
    (licenseOf names fields).data.payload names =
      (Signed.ofFields names fields).bytes.mapError .unencodable := by
  rw [LicenseData.payload, data_licenseOf,
    LicenseData.signed_ofTexts names (Fields.not_mem_names_erase fields names.serial),
    Signed.ofFields_erase]
  rfl

namespace Template

variable {template document : Text} {captured texts : List Text}

/-- The texts captured for the tokens of a template, under the names of the tokens. -/
def capturedFields (template : Text) (captured : List Text) : Fields Text :=
  Fields.ofList ((scan template).names.zip captured)

theorem entries_capturedFields (distinct : (scan template).names.Nodup)
    (oneEach : captured.length = (scan template).names.length) :
    (capturedFields template captured).entries = (scan template).names.zip captured := by
  refine Fields.entries_ofList ?_
  rw [List.map_fst_zip (Nat.le_of_eq oneEach.symm)]
  exact distinct

theorem names_capturedFields (distinct : (scan template).names.Nodup)
    (oneEach : captured.length = (scan template).names.length) :
    (capturedFields template captured).names = (scan template).names := by
  rw [Fields.names, entries_capturedFields distinct oneEach,
    List.map_fst_zip (Nat.le_of_eq oneEach.symm)]

theorem values_capturedFields (distinct : (scan template).names.Nodup)
    (oneEach : captured.length = (scan template).names.length) :
    (capturedFields template captured).entries.map Prod.snd = captured := by
  rw [entries_capturedFields distinct oneEach, List.map_snd_zip (Nat.le_of_eq oneEach)]

theorem totalLength_capturedFields (distinct : (scan template).names.Nodup)
    (oneEach : captured.length = (scan template).names.length) :
    (capturedFields template captured).totalLength = captured.flatten.length := by
  rw [Fields.totalLength, List.flatMap_def, values_capturedFields distinct oneEach]

theorem get?_capturedFields (distinct : (scan template).names.Nodup) (fields : Fields Text)
    {name raw : Text} (member : .token name raw ∈ (scan template).segments) :
    (capturedFields template
      ((scan template).segments.filterMap (Segment.tokenText? fields))).get? name =
        some ((fields.get? name).getD raw) := by
  rw [Fields.get?_eq_some_iff,
    entries_capturedFields distinct (Segment.length_filterMap_tokenText? fields _)]
  exact Segment.mem_zip_filterMap_tokenText? fields member

/-- What a template reconstructs from captured texts: the text that is signed, and the serial. -/
def capturedPair (names : FieldNames) (template : Text) (captured : List Text) : Text × Text :=
  ((Signed.ofFields names (capturedFields template captured)).text,
    ((capturedFields template captured).get? names.serial).getD [])

theorem captured_eq_of_capturedPair_eq {names : FieldNames} {captured' : List Text}
    (distinct : (scan template).names.Nodup)
    (hasSerial : names.serial ∈ (scan template).names)
    (oneEach : captured.length = (scan template).names.length)
    (oneEach' : captured'.length = (scan template).names.length)
    (same : capturedPair names template captured = capturedPair names template captured') :
    captured = captured' := by
  have fieldNames := names_capturedFields distinct oneEach
  have fieldNames' := names_capturedFields distinct oneEach'
  obtain ⟨sameText, sameSerial⟩ := Prod.mk.inj same
  have sameOthers : (capturedFields template captured).erase names.serial =
      (capturedFields template captured').erase names.serial := by
    refine Signed.erase_eq_of_names_eq ?_ sameText
    rw [Fields.names_erase, Fields.names_erase, fieldNames, fieldNames']
  have sameValue : (capturedFields template captured).get? names.serial =
      (capturedFields template captured').get? names.serial := by
    rw [← fieldNames] at hasSerial
    obtain ⟨serial, found⟩ := Fields.exists_get?_of_mem_names hasSerial
    rw [fieldNames, ← fieldNames'] at hasSerial
    obtain ⟨serial', found'⟩ := Fields.exists_get?_of_mem_names hasSerial
    rw [found, found'] at sameSerial
    rw [found, found']
    exact congrArg some sameSerial
  have sameFields :=
    Fields.eq_of_erase_eq (fieldNames.trans fieldNames'.symm) sameValue sameOthers
  rw [← values_capturedFields distinct oneEach, ← values_capturedFields distinct oneEach',
    sameFields]

abbrev nodes (template : Text) : List Grammar.Node :=
  (scan template).segments.map Grammar.Node.ofSegment

theorem length_captured (decomposition : Grammar.Decomposes (nodes template) document captured) :
    captured.length = (scan template).names.length := by
  rw [decomposition.length_captured, Grammar.filterMap_name?_ofSegment]
  rfl

/-- The compiled grammar of a template that uses every name once. -/
abbrev compiled (template : Text) : Grammar :=
  ⟨(scan template).fields, nodes template⟩

theorem grammar_eq_compiled (distinct : (scan template).names.Nodup) :
    Template.grammar template = .ok (compiled template) :=
  grammar_eq_ok_iff.mpr ⟨distinct, rfl⟩

theorem ofTemplate_eq_ok {names : FieldNames} (distinct : (scan template).names.Nodup)
    (hasSerial : names.serial ∈ (scan template).names) :
    TemplateExtractor.ofTemplate template names = .ok ⟨compiled template, names⟩ := by
  rw [TemplateExtractor.ofTemplate, grammar_eq_compiled distinct]
  exact if_pos (List.contains_iff_mem.mpr (Scan.mem_fields_iff.mpr hasSerial))

theorem distinct_of_ofTemplate {names : FieldNames} {extractor : TemplateExtractor}
    (made : TemplateExtractor.ofTemplate template names = .ok extractor) :
    (scan template).names.Nodup := by
  cases result : Template.grammar template with
  | error error =>
      rw [TemplateExtractor.ofTemplate, result] at made
      cases made
  | ok grammar => exact (grammar_eq_ok_iff.mp result).1

/-- The names that a grammar keeps are those of its captures, so that the texts that a document
gives for the captures are as many. -/
theorem ofCaptures_compiled {names : FieldNames} (distinct : (scan template).names.Nodup)
    (oneEach : captured.length = (scan template).names.length) :
    TemplateExtractor.ofCaptures ⟨compiled template, names⟩ (some captured) =
      .ok (TemplateExtractor.licenseOf names (capturedFields template captured)) := by
  rw [capturedFields, ← Scan.fields_eq_names distinct]
  rw [← Scan.fields_eq_names distinct] at oneEach
  exact if_pos oneEach

theorem license_eq_ofCaptures {names : FieldNames} (distinct : (scan template).names.Nodup)
    (hasSerial : names.serial ∈ (scan template).names) :
    license template names document = TemplateExtractor.ofCaptures ⟨compiled template, names⟩
      ((compiled template).captures? document) := by
  rw [license, ofTemplate_eq_ok distinct hasSerial]
  rfl

theorem license_eq_ok {names : FieldNames} (distinct : (scan template).names.Nodup)
    (hasSerial : names.serial ∈ (scan template).names)
    (best : Grammar.IsMostPreferred (nodes template) document captured) :
    license template names document =
      .ok (TemplateExtractor.licenseOf names (capturedFields template captured)) := by
  have matched : (compiled template).captures? document = some captured :=
    Grammar.captures?_eq_some_iff.mpr best
  rw [license_eq_ofCaptures distinct hasSerial, matched,
    ofCaptures_compiled distinct (length_captured best.decomposes)]

/-- The grammar of a template matches a document and captures some texts from it. -/
def Captures (template document : Text) (captured : List Text) : Prop :=
  ∃ grammar, Template.grammar template = .ok grammar ∧
    grammar.captures? document = some captured

theorem captures_iff (distinct : (scan template).names.Nodup) :
    Captures template document captured ↔
      Grammar.IsMostPreferred (nodes template) document captured := by
  constructor
  · rintro ⟨grammar, compiled, matched⟩
    obtain ⟨-, rfl⟩ := grammar_eq_ok_iff.mp compiled
    exact Grammar.captures?_eq_some_iff.mp matched
  · intro best
    exact ⟨compiled template, grammar_eq_compiled distinct,
      Grammar.captures?_eq_some_iff.mpr best⟩

theorem exists_captures (distinct : (scan template).names.Nodup)
    (decomposition : Grammar.Decomposes (nodes template) document texts) :
    ∃ captured, Captures template document captured := by
  cases matched : (compiled template).captures? document with
  | none => exact (Grammar.captures?_eq_none_iff.mp matched texts decomposition).elim
  | some captured =>
      exact ⟨captured, (captures_iff distinct).mpr (Grammar.captures?_eq_some_iff.mp matched)⟩

theorem isSurrogate_of_mem_name {name : Text} (member : name ∈ (scan template).names) :
    ∀ c ∈ name, c.isSurrogate = false := by
  obtain ⟨raw, inSegments⟩ := Segment.exists_token_of_mem_filterMap member
  have spelled := (isTokenization_scan template).spelled name raw inSegments
  exact fun c inside => isSurrogate_eq_false_of_isNameChar (spelled.isName.2 c inside)

/-- Captured texts have a payload exactly if none of them, the serial aside, holds a surrogate. -/
theorem exists_bytes_captured_iff {names : FieldNames} (distinct : (scan template).names.Nodup)
    (oneEach : captured.length = (scan template).names.length) :
    (∃ payload, (Signed.ofFields names (capturedFields template captured)).bytes = .ok payload) ↔
      ((capturedFields template captured).erase names.serial).Encodable := by
  refine Signed.exists_bytes_iff fun name member => ?_
  rw [names_capturedFields distinct oneEach] at member
  exact isSurrogate_of_mem_name member

theorem encodable_of_plain {names : FieldNames} (distinct : (scan template).names.Nodup)
    (oneEach : captured.length = (scan template).names.length)
    (plain : ∀ text ∈ captured, ∀ c ∈ text, c.isSurrogate = false) :
    ((capturedFields template captured).erase names.serial).Encodable := by
  intro entry member c inside
  rw [Fields.entries_erase, List.mem_filter, entries_capturedFields distinct oneEach] at member
  exact plain _ (List.of_mem_zip member.1).2 c inside

theorem encodable_captured {names : FieldNames} (distinct : (scan template).names.Nodup)
    (decomposition : Grammar.Decomposes (nodes template) document captured)
    (plain : ∀ c ∈ document, c.isSurrogate = false) :
    ((capturedFields template captured).erase names.serial).Encodable :=
  encodable_of_plain distinct (length_captured decomposition) fun _ taken c inside =>
    plain c (decomposition.mem_document taken inside)

end Template

section Captured

variable {config : Config} {files : FileSystem} {options : Options} {template document : Text}
  {key : PublicKey} {captured : List Text}

theorem parse_outcome_of_captures (reads : Reads config files options template document key)
    (distinct : (Template.scan template).names.Nodup)
    (hasSerial : config.names.serial ∈ (Template.scan template).names)
    (matched : Template.Captures template document captured) :
    (parse config files options).outcome =
      ((TemplateExtractor.licenseOf config.names
        (Template.capturedFields template captured)).verified config.names key).mapError
          .ofPayload := by
  have best := (Template.captures_iff distinct).mp matched
  rw [parse_outcome reads, Template.license_eq_ok distinct hasSerial best]
  rfl

variable (reads : Reads config files options template document key)
  (distinct : (Template.scan template).names.Nodup)
  (hasSerial : config.names.serial ∈ (Template.scan template).names)
  (matched : Template.Captures template document captured)

include reads distinct hasSerial matched

/-- The license of captured texts is checked with their payload and the captured serial. -/
theorem parse_eq_ok_iff_of_captures {parsed : ParsedLicense} :
    (parse config files options).outcome = .ok parsed ↔
      ∃ payload,
        (Signed.ofFields config.names (Template.capturedFields template captured)).bytes =
          .ok payload ∧
        parsed =
          ⟨key.verifies payload (Template.capturedPair config.names template captured).2,
            (Template.capturedPair config.names template captured).2,
            .ofTexts config.names
              ((Template.capturedFields template captured).erase config.names.serial)⟩ := by
  rw [parse_outcome_of_captures reads distinct hasSerial matched, mapError_eq_ok_iff,
    ExtractedLicense.verified_eq_ok_iff, TemplateExtractor.payload_licenseOf]
  simp only [mapError_eq_ok_iff]
  rfl

theorem exists_pair_of_captures {parsed : ParsedLicense}
    (succeeds : (parse config files options).outcome = .ok parsed) :
    ∃ payload serial, parsed.signedPair config.names = .ok (payload, serial) ∧
      (Signed.ofFields config.names (Template.capturedFields template captured)).bytes =
        .ok payload ∧
      serial = (Template.capturedPair config.names template captured).2 ∧
      parsed.valid = key.verifies payload serial := by
  obtain ⟨payload, written, rfl⟩ :=
    (parse_eq_ok_iff_of_captures reads distinct hasSerial matched).mp succeeds
  have reconstructed := TemplateExtractor.payload_licenseOf config.names
    (Template.capturedFields template captured)
  rw [written] at reconstructed
  exact ⟨payload, _, ParsedLicense.signedPair_eq_ok_iff.mpr ⟨reconstructed, rfl⟩, written, rfl, rfl⟩

/-- Once a template matches, a license is given or a captured text holds a surrogate. -/
theorem parse_cases_of_captures :
    (((Template.capturedFields template captured).erase config.names.serial).Encodable ∧
        ∃ parsed, (parse config files options).outcome = .ok parsed) ∨
      (¬ ((Template.capturedFields template captured).erase config.names.serial).Encodable ∧
        ∃ error, (parse config files options).outcome = .error (.unencodable error)) := by
  have oneEach := Template.length_captured ((Template.captures_iff distinct).mp matched).decomposes
  rw [← Template.exists_bytes_captured_iff distinct oneEach]
  cases written : (Signed.ofFields config.names
      (Template.capturedFields template captured)).bytes with
  | ok payload =>
      exact .inl ⟨⟨payload, rfl⟩, _,
        (parse_eq_ok_iff_of_captures reads distinct hasSerial matched).mpr ⟨payload, written, rfl⟩⟩
  | error error =>
      refine .inr ⟨?_, error, ?_⟩
      · rintro ⟨payload, impossible⟩
        cases impossible
      · rw [parse_outcome_of_captures reads distinct hasSerial matched, ExtractedLicense.verified,
          TemplateExtractor.payload_licenseOf, written]
        rfl

end Captured

end LicenseSeal
