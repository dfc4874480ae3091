import LicenseSeal.Proofs.License.PairReproduction
import LicenseSeal.Proofs.Signing.SerialVerification
import LicenseSeal.Proofs.Template.DelimitedCaptures

/-!
# Round trip

If every rendered text ends before its delimiter can start, parsing a generated document with the
matching key gives back the data of the template and finds the serial valid.
-/

namespace LicenseSeal

/-- The texts of the data for the tokens of a template, the serial's aside, in the template's
order. -/
def LicenseData.textsFor (names : FieldNames) (template : Text) (data : LicenseData) :
    Fields Text :=
  Fields.ofList <|
    ((Template.scan template).names.filter (· ≠ names.serial)).filterMap fun name =>
      (((data.toFields names).get? name).bind Value.text?).map fun text => (name, text)

theorem GenerateRequest.problem?_eq_none {files : FileSystem} {request : GenerateRequest}
    {key : PrivateKey} (loaded : request.privateKey files = .ok key) :
    request.key.problem? "private_key".text = none := by
  cases problematic : request.key.problem? "private_key".text with
  | none => rfl
  | some problem =>
      simp only [privateKey, KeyOptions.read, KeyOptions.check, problematic] at loaded
      cases loaded

namespace Draft

variable {names : FieldNames} {draft : Draft} {data : LicenseData}

theorem signedFields_eq_textsFor (wellFormed : draft.WellFormed names)
    (distinct : draft.scan.names.Nodup)
    (coerced : (data.toFields names).coerced = .ok draft.coerced) :
    draft.signedFields = data.textsFor names draft.template := by
  rw [signedFields, LicenseData.textsFor, Scan.fields_eq_names distinct, ← wellFormed.scan_eq,
    List.filterMap_filter]
  refine congrArg Fields.ofList (List.filterMap_congr fun name _ => ?_)
  by_cases isSerial : name = names.serial
  · have unread := Fields.get?_eq_none_iff.mpr wellFormed.noSerial
    rw [if_neg (by simp [isSerial]), isSerial, unread, Option.map_none]
  · rw [if_pos (by simp [isSerial]), Fields.get?_of_coerced coerced]

/-- If every rendered text ends before its delimiter can start, the document of a draft gives back
the signed fields, and its serial is valid if it verifies for them. -/
theorem parse_outcome_of_delimited {config : Config} {files : FileSystem} {options : Options}
    {verifying : PublicKey} {serial : Text} {payload : Bytes}
    (wellFormed : draft.WellFormed config.names)
    (distinct : draft.scan.names.Nodup) (complete : draft.Complete config.names)
    (separated : Segment.Separated draft.scan.segments)
    (delimited : Segment.Delimited (draft.signedFields.put config.names.serial serial)
      draft.scan.segments)
    (written : draft.payload config.names = .ok payload)
    (verifies : verifying.verifies payload serial = true)
    (reads : Reads config files options draft.template (draft.document config.names serial)
      verifying) :
    (parse config files options).outcome =
      .ok ⟨true, serial, .ofTexts config.names draft.signedFields⟩ := by
  have distinct' := wellFormed.distinct_scan distinct
  obtain ⟨captured, matched⟩ :=
    Template.exists_captures distinct' (decomposes_document wellFormed serial)
  have own : captured = draft.tokenTexts config.names serial := by
    have best := (Template.captures_iff distinct').mp matched
    rw [document, Template.render, Template.nodes, ← wellFormed.scan_eq] at best
    exact Grammar.captured_eq_of_delimited separated delimited best
  subst own
  obtain ⟨found, others⟩ := capturedFields_tokenTexts wellFormed distinct complete serial
  refine (parse_eq_ok_iff_of_captures reads distinct' wellFormed.hasSerial_scan matched).mpr
    ⟨payload, ?_, ?_⟩
  · rw [← Signed.ofFields_erase, others]
    exact written
  · rw [Template.capturedPair, found, Option.getD_some, others, verifies]

end Draft

/-- Parsing what was generated finds the serial valid and gives back the texts of the data, provided
that the values have texts, that the key accepts what it signed and that no rendered text lets its
delimiter start early. -/
theorem parse_generate {config : Config} {files : FileSystem} {options : Options}
    {request : GenerateRequest} {data : LicenseData} {template : Text} {key : PrivateKey}
    {verifying : PublicKey} {payload signature : Bytes}
    (accepted : GenerateRequest.ofOptions options = .ok request)
    (given : request.data = some data)
    (templateUsed : request.template.getD config.defaultTemplate = template)
    (loaded : request.privateKey files = .ok key)
    (nonempty : data.isEmpty = false)
    (unreserved : config.names.serial ∉ (data.toFields config.names).names)
    (coercible : ∀ entry ∈ (data.toFields config.names).entries,
      ∃ text, entry.2.coerced = .ok text)
    (covered : ∀ name ∈ (Template.scan template).names, name ≠ config.names.serial →
      name ∈ (data.toFields config.names).names)
    (distinct : (Template.scan template).names.Nodup)
    (hasSerial : config.names.serial ∈ (Template.scan template).names)
    (separated : Segment.Separated (Template.scan template).segments)
    (written : (Signed.ofFields config.names (data.textsFor config.names template)).bytes =
      .ok payload)
    (signs : key.sign? payload = some signature)
    (accepts : verifying.accepts payload signature = true)
    (delimited : Segment.Delimited
      ((data.textsFor config.names template).put config.names.serial (Base64.encode signature))
      (Template.scan template).segments) :
    ∃ document, (generate config files options).outcome = .ok document ∧
      ∀ files' options', Reads config files' options' template document verifying →
        (parse config files' options').outcome =
          .ok ⟨true, Base64.encode signature,
            .ofTexts config.names (data.textsFor config.names template)⟩ := by
  obtain ⟨draft, drafted, rfl, coerced⟩ : ∃ draft, Draft.ofRequest config request = .ok draft ∧
      draft.template = template ∧ (data.toFields config.names).coerced = .ok draft.coerced := by
    have unproblematic := GenerateRequest.problem?_eq_none loaded
    obtain ⟨coerced, coerces⟩ := Fields.exists_coerced_iff.mpr coercible
    refine ⟨_, Draft.ofRequest_eq_ok_iff.mpr ⟨_, coerced, Outline.fieldsOf_eq_ok_iff.mpr ⟨data,
      given, nonempty, unproblematic, unreserved, rfl⟩, coerces, ?_, rfl⟩, templateUsed, coerces⟩
    rw [templateUsed]
    exact hasSerial
  have wellFormed := Draft.wellFormed_of_ofRequest drafted
  rw [← wellFormed.scan_eq] at covered distinct separated delimited
  have complete : draft.Complete config.names := by
    intro name member different
    rw [Fields.names_of_coerced coerced]
    exact covered name member different
  rw [← Draft.signedFields_eq_textsFor wellFormed distinct coerced] at written delimited ⊢
  have serial : key.serial payload = .ok (Base64.encode signature) := by
    rw [PrivateKey.serial, signs]
  have signed := Draft.serial_eq_ok_iff.mpr ⟨payload, written, serial⟩
  have generated := generate_outcome_eq_ok_iff.mpr
    ⟨draft, key, _, ⟨⟨request, accepted, drafted, loaded⟩, signed⟩, rfl⟩
  refine ⟨_, generated, fun files' options' reads => ?_⟩
  exact Draft.parse_outcome_of_delimited wellFormed distinct complete separated delimited written
    (PublicKey.verifies_encode accepts) reads

namespace Sample

/-- A template whose first delimiter is an angle bracket twice. -/
def angled : Text :=
  "\x7b\x7ba\x7d\x7d>>\x7b\x7bb\x7d\x7d|\x7b\x7bserial\x7d\x7d".text

/-- Data whose values hold a single angle bracket and a truth value. -/
def angledData : List (Scalar × Value) :=
  [(.text "b".text, .bool true), (.text "a".text, .text "x>y".text)]

def angledFields : Fields Value :=
  Fields.ofList [("b".text, .bool true), ("a".text, .text "x>y".text)]

/-- What is signed: the texts in the order of the template. -/
def angledPayload : Bytes :=
  Encoding.Utf8.bytesOf "\x7b\"a\":\"x>y\",\"b\":\"true\"\x7d".text

theorem segments_angled : (Template.scan angled).segments =
    [.token "a".text "\x7b\x7ba\x7d\x7d".text, .literal ">>".text,
      .token "b".text "\x7b\x7bb\x7d\x7d".text, .literal "|".text,
      .token "serial".text "\x7b\x7bserial\x7d\x7d".text] := by
  decide +kernel

theorem names_angled : (Template.scan angled).names = ["a".text, "b".text, "serial".text] := by
  rw [Scan.names, segments_angled]
  rfl

theorem textsFor_angled : (LicenseData.fields angledFields).textsFor (config angled).names angled =
    Fields.ofList [("a".text, "x>y".text), ("b".text, "true".text)] :=
  Fields.eq_of_entries_eq (by decide +kernel)

theorem payload_angled : (Signed.ofFields (config angled).names
    ((LicenseData.fields angledFields).textsFor (config angled).names angled)).bytes =
      .ok angledPayload := by
  rw [textsFor_angled]
  decide +kernel

theorem accepts_angled : PublicKey.accepts (.ed25519 point) angledPayload
    (Ed25519.sign seed angledPayload) = true := by
  decide +kernel

theorem separated_angled : Segment.Separated (Template.scan angled).segments := by
  rw [segments_angled]
  intro name raw name' raw' after suffix
  simp [List.suffix_cons_iff] at suffix

theorem delimited_angled (serial : Text) : Segment.Delimited
    (((LicenseData.fields angledFields).textsFor (config angled).names angled).put
      (config angled).names.serial serial) (Template.scan angled).segments := by
  rw [segments_angled, textsFor_angled]
  intro name raw delimiter after suffix more
  simp only [List.suffix_cons_iff, List.suffix_nil, List.cons.injEq, Segment.token.injEq,
    Segment.literal.injEq, reduceCtorEq, false_and, and_false, or_false, false_or] at suffix
  rcases suffix with ⟨⟨rfl, rfl⟩, rfl, rfl⟩ | ⟨⟨rfl, rfl⟩, rfl, rfl⟩
  · have value : ((Fields.ofList [("a".text, "x>y".text), ("b".text, "true".text)]).put
        (config angled).names.serial serial).get? "a".text = some "x>y".text := rfl
    rw [value]
    decide
  · have value : ((Fields.ofList [("a".text, "x>y".text), ("b".text, "true".text)]).put
        (config angled).names.serial serial).get? "b".text = some "true".text := rfl
    rw [value]
    decide

end Sample

/-- A value with half of its delimiter inside comes back, and a truth value comes back as its
text. -/
theorem parse_generate_angled :
    ∃ document, (generate (Sample.config Sample.angled) Sample.files
        (Sample.generateOptions (.map Sample.angledData))).outcome = .ok document ∧
      (parse (Sample.config Sample.angled) Sample.files
        (Sample.parseOptions document)).outcome =
          .ok ⟨true, Base64.encode (Ed25519.sign Sample.seed Sample.angledPayload),
            .fields (Fields.ofList [("a".text, .text "x>y".text),
              ("b".text, .text "true".text)])⟩ := by
  have accepted : GenerateRequest.ofOptions (Sample.generateOptions (.map Sample.angledData)) =
      .ok ⟨some (.fields Sample.angledFields), ⟨some (.text Sample.privateKeyText), none⟩, none,
        none⟩ := rfl
  have covered : ∀ name ∈ (Template.scan Sample.angled).names,
      name ≠ (Sample.config Sample.angled).names.serial →
        name ∈ ((LicenseData.fields Sample.angledFields).toFields
          (Sample.config Sample.angled).names).names := by
    rw [Sample.names_angled]
    decide
  have coercible : ∀ entry ∈ Sample.angledFields.entries,
      ∃ text, entry.2.coerced = .ok text := by
    have values : Sample.angledFields.entries =
        [("b".text, .bool true), ("a".text, .text "x>y".text)] := rfl
    rw [values]
    simp [Value.coerced, Value.ownText, Scalar.ownText]
  have distinct : (Template.scan Sample.angled).names.Nodup := by
    rw [Sample.names_angled]
    decide
  have hasSerial : (Sample.config Sample.angled).names.serial ∈
      (Template.scan Sample.angled).names := by
    rw [Sample.names_angled]
    decide
  have data : LicenseData.ofTexts (Sample.config Sample.angled).names
      (Fields.ofList [("a".text, "x>y".text), ("b".text, "true".text)]) =
        .fields (Fields.ofList [("a".text, .text "x>y".text),
          ("b".text, .text "true".text)]) := rfl
  rw [← data, ← Sample.textsFor_angled]
  have roundTrip : ∃ document, (generate (Sample.config Sample.angled) Sample.files
        (Sample.generateOptions (.map Sample.angledData))).outcome = .ok document ∧
      ∀ files' options', Reads (Sample.config Sample.angled) files' options' Sample.angled document
          (.ed25519 Sample.point) →
        (parse (Sample.config Sample.angled) files' options').outcome =
          .ok ⟨true, Base64.encode (Ed25519.sign Sample.seed Sample.angledPayload),
            .ofTexts (Sample.config Sample.angled).names
              ((LicenseData.fields Sample.angledFields).textsFor
                (Sample.config Sample.angled).names Sample.angled)⟩ := by
    refine parse_generate accepted rfl rfl (Sample.privateKey_eq_ok _ _) ?_ ?_ ?_ covered distinct
      hasSerial Sample.separated_angled Sample.payload_angled ?_ Sample.accepts_angled
      (Sample.delimited_angled _)
    · decide
    · decide
    · exact coercible
    · rw [PrivateKey.sign?]
  obtain ⟨document, generated, parses⟩ := roundTrip
  exact ⟨document, generated, parses _ _ (Sample.reads Sample.angled document)⟩

end LicenseSeal
