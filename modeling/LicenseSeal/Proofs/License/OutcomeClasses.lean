import LicenseSeal.Proofs.License.TemplateReading

/-!
# How parsing with a template ends

Parsing with a template ends in one of three ways.  The template is refused, the document is not the
template with texts in place of its tokens, or a license is found and its serial is accepted or not.
No serial makes parsing fail, and the number of captured texts never disagrees with the tokens.  Of
the texts of a document, only one with a surrogate leaves the license without a payload, and parsing
then fails outside the errors of licensing.
-/

namespace LicenseSeal

/-- An operation fails with an error of licensing that belongs to a family. -/
def FailsAs {α : Type} (outcome : Except Failure α) (family : ErrorFamily) : Prop :=
  ∃ error : LicenseError, outcome = .error (.license error) ∧ error.family = family

theorem failsAs_error_iff {α : Type} {error : LicenseError} {family : ErrorFamily} :
    FailsAs (.error (.license error) : Except Failure α) family ↔ error.family = family := by
  constructor
  · rintro ⟨error', same, belongs⟩
    cases same
    exact belongs
  · intro belongs
    exact ⟨error, rfl, belongs⟩

/-- A document is a template with one text in place of each token. -/
def Template.Fills (template : Text) (texts : List Text) (document : Text) : Prop :=
  texts.length = (scan template).names.length ∧
    document = Segment.fill (scan template).segments texts

/-- What a parsed license holds of the texts that stand in place of the tokens: the serial's text,
and either the raw field's text or every other token's text under its name.  It is valid exactly if
the serial is the text of a signature that the key accepts for the payload of the data. -/
structure ParsedLicense.Holds (names : FieldNames) (key : PublicKey) (tokens : List (Text × Text))
    (parsed : ParsedLicense) : Prop where
  serial : (names.serial, parsed.serial) ∈ tokens
  plain : (tokens.map Prod.fst).filter (· ≠ names.serial) = [names.raw] →
    ∃ text, (names.raw, text) ∈ tokens ∧ parsed.data = .text text
  named : (tokens.map Prod.fst).filter (· ≠ names.serial) ≠ [names.raw] →
    ∃ values, parsed.data = .fields values ∧
      values.names = (tokens.map Prod.fst).filter (· ≠ names.serial) ∧
      ∀ name text, (name, text) ∈ tokens → name ≠ names.serial →
        values.get? name = some (.text text)
  valid : parsed.valid = true ↔ ∃ payload signature, parsed.data.payload names = .ok payload ∧
    Base64.decode? parsed.serial = some signature ∧ signature ≠ [] ∧
    key.accepts payload signature = true

/-- Of the texts in place of the tokens, one other than the serial's holds a surrogate. -/
def HoldsSurrogate (names : FieldNames) (tokens : List (Text × Text)) : Prop :=
  ∃ name text, (name, text) ∈ tokens ∧ name ≠ names.serial ∧ ∃ c ∈ text, c.isSurrogate = true

theorem PublicKey.verifies_iff {key : PublicKey} {payload : Bytes} {serial : Text} :
    key.verifies payload serial = true ↔ ∃ signature, Base64.decode? serial = some signature ∧
      signature ≠ [] ∧ key.accepts payload signature = true := by
  rw [verifies]
  cases Base64.decode? serial with
  | none => simp
  | some signature => simp

namespace Template

variable {template document : Text} {names : FieldNames} {texts captured : List Text}

theorem exists_fills_iff :
    (∃ texts, Fills template texts document) ↔
      ∃ texts, Grammar.Decomposes (nodes template) document texts := by
  constructor
  · rintro ⟨texts, oneEach, rfl⟩
    exact ⟨texts, Grammar.decomposes_fill oneEach⟩
  · rintro ⟨texts, decomposition⟩
    exact ⟨texts, length_captured decomposition, decomposition.eq_fill⟩

theorem license_of_repeated (repeated : ¬ (scan template).names.Nodup) :
    license template names document = .error (.template (.repeated (scan template))) := by
  have some : ¬ (scan template).duplicates.isEmpty = true := by
    rw [List.isEmpty_iff, Scan.duplicates_eq_nil_iff]
    exact repeated
  have refused : Template.grammar template = .error (.repeated (scan template)) := if_neg some
  rw [license, TemplateExtractor.ofTemplate, refused]

theorem license_of_lacking (distinct : (scan template).names.Nodup)
    (lacking : names.serial ∉ (scan template).names) :
    license template names document = .error (.template (.lacks names.serial none)) := by
  have absent : ¬ (scan template).fields.contains names.serial = true := fun present =>
    lacking (Scan.mem_fields_iff.mp (List.contains_iff_mem.mp present))
  have refused : TemplateExtractor.ofTemplate template names =
      .error (.lacks names.serial none) := by
    rw [TemplateExtractor.ofTemplate, grammar_eq_compiled distinct]
    exact if_neg absent
  rw [license, refused]

theorem license_of_unmatched (distinct : (scan template).names.Nodup)
    (hasSerial : names.serial ∈ (scan template).names)
    (unmatched : ∀ texts, ¬ Grammar.Decomposes (nodes template) document texts) :
    license template names document = .error (.corrupted .noMatch) := by
  have none : (compiled template).captures? document = none :=
    Grammar.captures?_eq_none_iff.mpr unmatched
  rw [license, ofTemplate_eq_ok distinct hasSerial]
  simp only [TemplateExtractor.extract, TemplateExtractor.ofCaptures, none]

theorem holds_verified (distinct : (scan template).names.Nodup)
    (hasSerial : names.serial ∈ (scan template).names)
    (oneEach : captured.length = (scan template).names.length) {key : PublicKey}
    {parsed : ParsedLicense}
    (verified : (TemplateExtractor.licenseOf names (capturedFields template captured)).verified
      names key = .ok parsed) :
    parsed.Holds names key ((scan template).names.zip captured) := by
  obtain ⟨payload, written, rfl⟩ := ExtractedLicense.verified_eq_ok_iff.mp verified
  have entries := entries_capturedFields distinct oneEach
  have fieldNames := names_capturedFields distinct oneEach
  have tokenNames : ((scan template).names.zip captured).map Prod.fst = (scan template).names :=
    List.map_fst_zip (Nat.le_of_eq oneEach.symm)
  have othersNames : ((capturedFields template captured).erase names.serial).names =
      (scan template).names.filter (· ≠ names.serial) := by
    rw [Fields.names_erase, fieldNames]
  constructor
  · rw [← fieldNames] at hasSerial
    obtain ⟨serial, found⟩ := Fields.exists_get?_of_mem_names hasSerial
    rw [← entries]
    apply Fields.get?_eq_some_iff.mp
    change _ = some ((Fields.get? _ _).getD [])
    rw [found, Option.getD_some]
  · intro alone
    rw [tokenNames, ← othersNames] at alone
    have present : names.raw ∈ ((capturedFields template captured).erase names.serial).names := by
      rw [alone]
      exact List.mem_singleton_self _
    obtain ⟨text, found⟩ := Fields.exists_get?_of_mem_names present
    refine ⟨text, ?_, ?_⟩
    · rw [Fields.get?_erase] at found
      split at found
      · cases found
      · rw [← entries]
        exact Fields.get?_eq_some_iff.mp found
    · change LicenseData.ofTexts names _ = _
      rw [LicenseData.ofTexts, isRaw, decide_eq_true alone, found]
      rfl
  · intro mixed
    rw [tokenNames, ← othersNames] at mixed
    refine ⟨((capturedFields template captured).erase names.serial).map Value.text, ?_, ?_, ?_⟩
    · change LicenseData.ofTexts names _ = _
      rw [LicenseData.ofTexts, isRaw, decide_eq_false mixed]
      rfl
    · rw [Fields.names_map, tokenNames, othersNames]
    · intro name text member different
      rw [← entries] at member
      rw [Fields.get?_map, Fields.get?_erase, if_neg different,
        Fields.get?_eq_some_iff.mpr member, Option.map_some]
  · rw [PublicKey.verifies_iff]
    simp only [written, Except.ok.injEq, exists_and_left, exists_eq_left']

theorem not_encodable_iff (distinct : (scan template).names.Nodup)
    (oneEach : captured.length = (scan template).names.length) :
    ¬ ((capturedFields template captured).erase names.serial).Encodable ↔
      HoldsSurrogate names ((scan template).names.zip captured) := by
  simp only [Fields.Encodable, Fields.entries_erase, entries_capturedFields distinct oneEach,
    List.mem_filter, decide_eq_true_eq, HoldsSurrogate, not_forall, Bool.not_eq_false, Prod.exists,
    exists_prop, and_assoc]

end Template

section Outcomes

variable {config : Config} {files : FileSystem} {options : Options} {template document : Text}
  {key : PublicKey}

theorem failsAs_template (reads : Reads config files options template document key)
    (unusable : ¬ (Template.scan template).names.Nodup ∨
      config.names.serial ∉ (Template.scan template).names) :
    ∃ error, (parse config files options).outcome = .error (.license (.template error)) := by
  rw [parse_outcome reads]
  by_cases distinct : (Template.scan template).names.Nodup
  · have lacking := unusable.resolve_left (not_not_intro distinct)
    rw [Template.license_of_lacking distinct lacking]
    exact ⟨_, rfl⟩
  · rw [Template.license_of_repeated distinct]
    exact ⟨_, rfl⟩

theorem outcome_of_unmatched (reads : Reads config files options template document key)
    (distinct : (Template.scan template).names.Nodup)
    (hasSerial : config.names.serial ∈ (Template.scan template).names)
    (unfilled : ¬ ∃ texts, Template.Fills template texts document) :
    (parse config files options).outcome = .error (.license (.corrupted .noMatch)) := by
  rw [Template.exists_fills_iff] at unfilled
  rw [parse_outcome reads, Template.license_of_unmatched distinct hasSerial fun texts => ?_]
  · rfl
  · exact fun decomposition => unfilled ⟨texts, decomposition⟩

/-- Texts in place of the tokens are captured from the document, and give a license unless one of
them holds a surrogate. -/
theorem exists_outcome_of_fills (reads : Reads config files options template document key)
    (distinct : (Template.scan template).names.Nodup)
    (hasSerial : config.names.serial ∈ (Template.scan template).names)
    (filled : ∃ texts, Template.Fills template texts document) :
    ∃ texts, Template.Captures template document texts ∧
      Template.Fills template texts document ∧
      ((¬ HoldsSurrogate config.names ((Template.scan template).names.zip texts) ∧
        ∃ parsed, (parse config files options).outcome = .ok parsed ∧
          parsed.Holds config.names key ((Template.scan template).names.zip texts)) ∨
      (HoldsSurrogate config.names ((Template.scan template).names.zip texts) ∧
        ∃ error, (parse config files options).outcome = .error (.unencodable error))) := by
  obtain ⟨texts, decomposition⟩ := Template.exists_fills_iff.mp filled
  obtain ⟨captured, matched⟩ := Template.exists_captures distinct decomposition
  have best := ((Template.captures_iff distinct).mp matched).decomposes
  have oneEach := Template.length_captured best
  refine ⟨captured, matched, ⟨oneEach, best.eq_fill⟩, ?_⟩
  rw [← Template.not_encodable_iff distinct oneEach, not_not]
  rcases parse_cases_of_captures reads distinct hasSerial matched with
    ⟨encodable, parsed, succeeds⟩ | fails
  · refine .inl ⟨encodable, parsed, succeeds, ?_⟩
    rw [parse_outcome_of_captures reads distinct hasSerial matched, mapError_eq_ok_iff] at succeeds
    exact Template.holds_verified distinct hasSerial oneEach succeeds
  · exact .inr fails

/-- Parsing with a template refuses the template exactly if it repeats a name or lacks the serial's
token.  Otherwise it finds the document corrupted exactly if this is not the template with texts in
place of the tokens.  In all other cases it gives a license that holds the texts that are captured,
unless one of them holds a surrogate. -/
theorem parse_outcome_classes (reads : Reads config files options template document key) :
    (FailsAs (parse config files options).outcome .template ↔
      ¬ (Template.scan template).names.Nodup ∨
        config.names.serial ∉ (Template.scan template).names) ∧
    ((Template.scan template).names.Nodup →
      config.names.serial ∈ (Template.scan template).names →
      (FailsAs (parse config files options).outcome .corrupted ↔
        ¬ ∃ texts, Template.Fills template texts document) ∧
      ((∃ texts, Template.Fills template texts document) →
        ∃ texts, Template.Captures template document texts ∧
          Template.Fills template texts document ∧
          ((¬ HoldsSurrogate config.names ((Template.scan template).names.zip texts) ∧
            ∃ parsed, (parse config files options).outcome = .ok parsed ∧
              parsed.Holds config.names key ((Template.scan template).names.zip texts)) ∨
          (HoldsSurrogate config.names ((Template.scan template).names.zip texts) ∧
            ∃ error, (parse config files options).outcome = .error (.unencodable error))))) ∧
    (∀ expected actual, (parse config files options).outcome ≠
      .error (.license (.corrupted (.tokenCount expected actual)))) := by
  by_cases usable : (Template.scan template).names.Nodup ∧
      config.names.serial ∈ (Template.scan template).names
  · obtain ⟨distinct, hasSerial⟩ := usable
    have notUnusable : ¬ (¬ (Template.scan template).names.Nodup ∨
        config.names.serial ∉ (Template.scan template).names) := by
      rintro (repeated | lacking)
      · exact repeated distinct
      · exact lacking hasSerial
    by_cases filled : ∃ texts, Template.Fills template texts document
    · have found := exists_outcome_of_fills reads distinct hasSerial filled
      have unlicensed (error : LicenseError) :
          (parse config files options).outcome ≠ .error (.license error) := by
        intro fails
        obtain ⟨texts, -, -, ⟨-, parsed, succeeds, -⟩ | ⟨-, error, fails'⟩⟩ := found
        · rw [succeeds] at fails
          cases fails
        · rw [fails'] at fails
          cases fails
      have noFailure (family : ErrorFamily) :
          ¬ FailsAs (parse config files options).outcome family := by
        rintro ⟨error, fails, -⟩
        exact unlicensed error fails
      refine ⟨iff_of_false (noFailure _) notUnusable, fun _ _ => ⟨?_, fun _ => found⟩, ?_⟩
      · exact iff_of_false (noFailure _) (not_not_intro filled)
      · exact fun expected actual => unlicensed _
    · rw [outcome_of_unmatched reads distinct hasSerial filled, failsAs_error_iff,
        failsAs_error_iff]
      refine ⟨iff_of_false ?_ notUnusable, fun _ _ => ⟨iff_of_true rfl filled, ?_⟩, ?_⟩
      · intro impossible
        cases impossible
      · intro impossible
        exact (filled impossible).elim
      · intro expected actual impossible
        cases impossible
  · have unusable := not_and_or.mp usable
    obtain ⟨error, fails⟩ := failsAs_template reads unusable
    rw [fails, failsAs_error_iff]
    refine ⟨iff_of_true rfl unusable, ?_, ?_⟩
    · intro distinct hasSerial
      exact (usable ⟨distinct, hasSerial⟩).elim
    · intro expected actual impossible
      cases impossible

end Outcomes

namespace Sample

/-- A template of a text and its serial with a colon in between. -/
def colon : Text := "\x7b\x7bstring\x7d\x7d:\x7b\x7bserial\x7d\x7d".text

end Sample

/-- A lone colon holds an empty serial, which is invalid and no failure; a document without a colon
is corrupted; and without the serial's token the template is refused. -/
theorem parse_outcome_classes_colon :
    (∃ parsed, (parse (Sample.config Sample.colon) Sample.files
        (Sample.parseOptions ":".text)).outcome = .ok parsed ∧
      parsed.serial = [] ∧ parsed.data = .text [] ∧ parsed.valid = false) ∧
    FailsAs (parse (Sample.config Sample.colon) Sample.files
      (Sample.parseOptions "ab".text)).outcome .corrupted ∧
    FailsAs (parse (Sample.config "\x7b\x7bstring\x7d\x7d".text) Sample.files
      (Sample.parseOptions ":".text)).outcome .template := by
  have segments : (Template.scan Sample.colon).segments =
      [.token "string".text "\x7b\x7bstring\x7d\x7d".text, .literal ":".text,
        .token "serial".text "\x7b\x7bserial\x7d\x7d".text] := by decide +kernel
  have named : (Template.scan Sample.colon).names = ["string".text, "serial".text] := by
    rw [Scan.names, segments]
    rfl
  have named' : (Template.scan "\x7b\x7bstring\x7d\x7d".text).names = ["string".text] := by
    decide +kernel
  have distinct : (Template.scan Sample.colon).names.Nodup := by
    rw [named]
    decide
  have hasSerial : (Sample.config Sample.colon).names.serial ∈
      (Template.scan Sample.colon).names := by
    rw [named]
    decide
  have colonText : ":".text = [(':' : CodePoint)] := rfl
  have filled {texts : List Text} {document : Text}
      (fills : Template.Fills Sample.colon texts document) :
      ∃ first second, texts = [first, second] ∧
        document = first ++ (":".text ++ second) := by
    obtain ⟨oneEach, rfl⟩ := fills
    rw [named] at oneEach
    obtain ⟨first, second, rfl⟩ := List.length_eq_two.mp oneEach
    refine ⟨first, second, rfl, ?_⟩
    rw [segments]
    simp [Segment.fill]
  refine ⟨?_, ?_, ?_⟩
  · have classes := parse_outcome_classes (Sample.reads Sample.colon ":".text)
    have fills : Template.Fills Sample.colon [[], []] ":".text := by
      refine ⟨by rw [named]; rfl, ?_⟩
      rw [segments]
      rfl
    obtain ⟨texts, -, fills', outcome⟩ := (classes.2.1 distinct hasSerial).2 ⟨_, fills⟩
    obtain ⟨first, second, rfl, same⟩ := filled fills'
    obtain ⟨rfl, rfl⟩ : first = [] ∧ second = [] := by
      rw [colonText] at same
      cases first with
      | nil => exact ⟨rfl, (List.cons.inj same).2.symm⟩
      | cons c first => simp at same
    rw [named] at outcome
    have noSurrogate : ¬ HoldsSurrogate (Sample.config Sample.colon).names
        (["string".text, "serial".text].zip [[], []]) := by
      rintro ⟨name, text, member, -, c, inside, -⟩
      obtain rfl : text = [] := by simpa using (List.of_mem_zip member).2
      cases inside
    obtain ⟨parsed, succeeds, holds⟩ := (outcome.resolve_right fun other => noSurrogate other.1).2
    have other : "serial".text ≠ "string".text := by decide
    have serial : parsed.serial = [] := by
      have member := holds.serial
      simpa [Sample.config, other] using member
    obtain ⟨text, member, data⟩ := holds.plain (by decide)
    refine ⟨parsed, succeeds, serial, ?_, ?_⟩
    · rw [data]
      have empty : text = [] := by
        simpa [Sample.config, Ne.symm other] using member
      rw [empty]
    · apply Bool.eq_false_iff.mpr
      intro valid
      obtain ⟨-, signature, -, decoded, nonempty, -⟩ := holds.valid.mp valid
      rw [serial] at decoded
      cases decoded
      exact nonempty rfl
  · have classes := parse_outcome_classes (Sample.reads Sample.colon "ab".text)
    refine (classes.2.1 distinct hasSerial).1.mpr ?_
    rintro ⟨texts, fills⟩
    obtain ⟨first, second, -, same⟩ := filled fills
    have colon : (':' : CodePoint) ∈ "ab".text := by
      rw [same, colonText]
      simp
    exact absurd colon (by decide)
  · have classes :=
      parse_outcome_classes (Sample.reads "\x7b\x7bstring\x7d\x7d".text ":".text)
    refine classes.1.mpr (.inr ?_)
    rw [named']
    decide

namespace Sample

/-- A configuration whose encoding reads escapes, and a template with a blank in between. -/
def escapedConfig : Config :=
  { defaultTemplate := "\x7b\x7bstring\x7d\x7d \x7b\x7bserial\x7d\x7d".text
    encoding := "unicode_escape".text }

/-- A file whose bytes write the escape of a surrogate, a blank and a letter. -/
def escapedFiles : FileSystem :=
  { current := []
    entries := [(["d".text], .file (Encoding.Utf8.bytesOf "\\ud800 b".text))] }

def escapedOptions : Options :=
  Fields.ofList [("document_path".text, .value (.text "d".text)),
    ("public_key".text, .value (.text publicKeyText))]

theorem reads_escaped : Reads escapedConfig escapedFiles escapedOptions
    escapedConfig.defaultTemplate (.surrogate 0 :: " b".text) (.ed25519 point) := by
  have accepted : ParseRequest.ofOptions escapedOptions =
      .ok ⟨⟨none, some (Path.ofText "d".text)⟩, ⟨some (.text publicKeyText), none⟩, none,
        none⟩ := rfl
  have visible : publicKeyText.all Text.isBlank = false := by decide +kernel
  have document : DocumentOptions.read escapedConfig.encoding escapedFiles
      ⟨none, some (Path.ofText "d".text)⟩ = .ok (.surrogate 0 :: " b".text) :=
    eq_ok_of_toOption (by decide +kernel)
  refine ⟨_, accepted, ?_, ?_, document, rfl, rfl⟩
  · exact ParseRequest.check_eq_ok (KeyOptions.check_text visible _) rfl
  · have found := KeyOptions.read_text visible "public_key".text encode_publicKeyText escapedFiles
    exact ParseRequest.publicKey_eq_ok found (load_publicKeyText _)

end Sample

/-- A document that is its template with texts in place of the tokens can still end parsing in a
failure that is no error of licensing. -/
theorem exists_unencodable_document :
    ∃ config files options template document key error,
      Reads config files options template document key ∧
      (Template.scan template).names.Nodup ∧
      config.names.serial ∈ (Template.scan template).names ∧
      (∃ texts, Template.Fills template texts document) ∧
      (parse config files options).outcome = .error (.unencodable error) := by
  have segments : (Template.scan Sample.escapedConfig.defaultTemplate).segments =
      [.token "string".text "\x7b\x7bstring\x7d\x7d".text, .literal " ".text,
        .token "serial".text "\x7b\x7bserial\x7d\x7d".text] := by decide +kernel
  have named : (Template.scan Sample.escapedConfig.defaultTemplate).names =
      ["string".text, "serial".text] := by
    rw [Scan.names, segments]
    rfl
  have distinct : (Template.scan Sample.escapedConfig.defaultTemplate).names.Nodup := by
    rw [named]
    decide
  have hasSerial : Sample.escapedConfig.names.serial ∈
      (Template.scan Sample.escapedConfig.defaultTemplate).names := by
    rw [named]
    decide
  have fills : Template.Fills Sample.escapedConfig.defaultTemplate
      [[.surrogate 0], "b".text] (.surrogate 0 :: " b".text) := by
    refine ⟨by rw [named]; rfl, ?_⟩
    rw [segments]
    rfl
  have compiled : (Template.compiled Sample.escapedConfig.defaultTemplate).captures?
      (.surrogate 0 :: " b".text) = some [[.surrogate 0], "b".text] := by
    rw [Grammar.captures?_eq_search]
    decide +kernel
  have matched : Template.Captures Sample.escapedConfig.defaultTemplate
      (.surrogate 0 :: " b".text) [[.surrogate 0], "b".text] :=
    ⟨_, Template.grammar_eq_compiled distinct, compiled⟩
  have surrogate : HoldsSurrogate Sample.escapedConfig.names
      ((Template.scan Sample.escapedConfig.defaultTemplate).names.zip
        [[.surrogate 0], "b".text]) := by
    rw [named]
    exact ⟨_, _, List.mem_cons_self, by decide, _, List.mem_cons_self, rfl⟩
  rcases parse_cases_of_captures Sample.reads_escaped distinct hasSerial matched with
    ⟨encodable, -⟩ | ⟨-, error, fails⟩
  · exact ((Template.not_encodable_iff distinct fills.1).mpr surrogate encodable).elim
  · exact ⟨_, _, _, _, _, _, error, Sample.reads_escaped, distinct, hasSerial, ⟨_, fills⟩, fails⟩

end LicenseSeal
