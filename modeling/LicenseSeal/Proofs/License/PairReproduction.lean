import LicenseSeal.Proofs.License.Drafts
import LicenseSeal.Proofs.License.TemplateReading
import LicenseSeal.Proofs.Signing.SerialVerification

/-!
# Reproduction of the signed pair

Parsing a generated document reconstructs a payload and a serial.  They are those of the draft
exactly if nothing was missing and every token was captured with its own text: a missing field makes
the document too long for the signed texts, and otherwise the payload determines the fields.
-/

namespace LicenseSeal

namespace Draft

variable {names : FieldNames} {draft : Draft} {serial : Text} {captured : List Text}

theorem complete_of_filter_eq
    (same : draft.scan.names.filter draft.coerced.contains =
      draft.scan.names.filter (· ≠ names.serial)) : draft.Complete names := by
  intro name member different
  have kept : name ∈ draft.scan.names.filter (· ≠ names.serial) :=
    List.mem_filter.mpr ⟨member, decide_eq_true different⟩
  rw [← same] at kept
  exact Fields.contains_iff.mp (List.mem_filter.mp kept).2

private theorem filter_eq_of_complete (wellFormed : draft.WellFormed names)
    (complete : draft.Complete names) :
    draft.scan.names.filter draft.coerced.contains =
      draft.scan.names.filter (· ≠ names.serial) := by
  refine List.filter_congr fun name member => ?_
  by_cases same : name = names.serial
  · have unread : ¬ draft.coerced.contains name = true := by
      rw [Fields.contains_iff, same]
      exact wellFormed.noSerial
    simp [same, eq_false_of_ne_true (same ▸ unread)]
  · have read := Fields.contains_iff.mpr (complete name member same)
    simp [same, read]

theorem serial_not_mem_signedFields (wellFormed : draft.WellFormed names)
    (distinct : draft.scan.names.Nodup) : names.serial ∉ draft.signedFields.names := by
  rw [names_signedFields distinct, List.mem_filter]
  rintro ⟨-, present⟩
  exact wellFormed.noSerial (Fields.contains_iff.mp present)

theorem erase_signedFields (wellFormed : draft.WellFormed names)
    (distinct : draft.scan.names.Nodup) :
    draft.signedFields.erase names.serial = draft.signedFields :=
  Fields.erase_eq_self (serial_not_mem_signedFields wellFormed distinct)

theorem decomposes_document (wellFormed : draft.WellFormed names) (serial : Text) :
    Grammar.Decomposes (Template.nodes draft.template) (draft.document names serial)
      (draft.tokenTexts names serial) := by
  rw [tokenTexts, wellFormed.scan_eq]
  exact Grammar.decomposes_rendered _ _

theorem length_tokenTexts (wellFormed : draft.WellFormed names) (serial : Text) :
    (draft.tokenTexts names serial).length = (Template.scan draft.template).names.length := by
  rw [tokenTexts, wellFormed.scan_eq]
  exact Segment.length_filterMap_tokenText? _ _

theorem names_capturedFields_tokenTexts (wellFormed : draft.WellFormed names)
    (distinct : draft.scan.names.Nodup) (serial : Text) :
    (Template.capturedFields draft.template (draft.tokenTexts names serial)).names =
      draft.scan.names := by
  rw [wellFormed.scan_eq]
  exact Template.names_capturedFields (wellFormed.distinct_scan distinct)
    (length_tokenTexts wellFormed serial)

theorem get?_capturedFields_tokenTexts (wellFormed : draft.WellFormed names)
    (distinct : draft.scan.names.Nodup) {serial name value : Text}
    (member : name ∈ draft.scan.names)
    (given : (draft.coerced.put names.serial serial).get? name = some value) :
    (Template.capturedFields draft.template (draft.tokenTexts names serial)).get? name =
      some value := by
  obtain ⟨raw, inSegments⟩ := Segment.exists_token_of_mem_filterMap member
  rw [wellFormed.scan_eq] at inSegments
  have read := Template.get?_capturedFields (wellFormed.distinct_scan distinct)
    (draft.coerced.put names.serial serial) inSegments
  rw [given, Option.getD_some] at read
  rw [tokenTexts_eq distinct, wellFormed.scan_eq]
  exact read

theorem capturedFields_tokenTexts (wellFormed : draft.WellFormed names)
    (distinct : draft.scan.names.Nodup) (complete : draft.Complete names) (serial : Text) :
    (Template.capturedFields draft.template (draft.tokenTexts names serial)).get? names.serial =
        some serial ∧
      (Template.capturedFields draft.template (draft.tokenTexts names serial)).erase names.serial =
        draft.signedFields := by
  have fieldNames := names_capturedFields_tokenTexts wellFormed distinct serial
  constructor
  · refine get?_capturedFields_tokenTexts wellFormed distinct wellFormed.hasSerial ?_
    rw [Fields.get?_put, if_pos rfl]
  · apply Fields.eq_of_get?_eq
    · rw [Fields.names_erase, fieldNames, names_signedFields distinct,
        filter_eq_of_complete wellFormed complete]
    · intro name
      rw [Fields.get?_erase]
      by_cases isSerial : name = names.serial
      · rw [if_pos isSerial, isSerial]
        exact (Fields.get?_eq_none_iff.mpr
          (serial_not_mem_signedFields wellFormed distinct)).symm
      · rw [if_neg isSerial]
        by_cases member : name ∈ draft.scan.names
        · obtain ⟨value, found⟩ :=
            Fields.exists_get?_of_mem_names (complete name member isSerial)
          rw [get?_signedFields distinct member, found]
          apply get?_capturedFields_tokenTexts wellFormed distinct member
          rw [Fields.get?_put, if_neg (Ne.symm isSerial), found]
        · have absent : name ∉ draft.signedFields.names := by
            rw [names_signedFields distinct]
            exact fun present => member (List.mem_filter.mp present).1
          rw [Fields.get?_eq_none_iff.mpr absent, Fields.get?_eq_none_iff, fieldNames]
          exact member

/-- The documents of a draft with missing fields hold at least four characters more than the signed
texts and the serial. -/
theorem totalLength_add_le (wellFormed : draft.WellFormed names)
    (distinct : draft.scan.names.Nodup) (incomplete : ¬ draft.Complete names) (serial : Text) :
    draft.signedFields.totalLength + serial.length + 4 ≤
      (draft.tokenTexts names serial).flatten.length := by
  have long : ∀ name raw, .token name raw ∈ draft.scan.segments → 4 ≤ raw.length := by
    intro name raw member
    rw [wellFormed.scan_eq] at member
    exact Template.four_le_length_raw_of_mem member
  have bound := Segment.length_flatten_tokenText? wellFormed.noSerial serial long
  have once : draft.scan.names.count names.serial = 1 := by
    rw [distinct.count, if_pos wellFormed.hasSerial]
  have missing : 1 ≤ (draft.missingNames names).length :=
    List.length_pos_iff.mpr fun none => incomplete (missingNames_eq_nil_iff.mp none)
  rw [missingNames, Scan.fields_eq_names distinct] at missing
  rw [Scan.names] at once missing
  rw [totalLength_signedFields distinct, tokenTexts_eq distinct, Scan.names]
  rw [once] at bound
  omega

/-- The text that is signed for a draft. -/
def signedText (names : FieldNames) (draft : Draft) : Text :=
  (Signed.ofFields names draft.signedFields).text

theorem complete_of_capturedPair_eq (wellFormed : draft.WellFormed names)
    (distinct : draft.scan.names.Nodup)
    (decomposition : Grammar.Decomposes (Template.nodes draft.template)
      (draft.document names serial) captured)
    (same : Template.capturedPair names draft.template captured =
      (draft.signedText names, serial)) :
    draft.Complete names := by
  have distinct' := wellFormed.distinct_scan distinct
  have oneEach := Template.length_captured decomposition
  have fieldNames := Template.names_capturedFields distinct' oneEach
  obtain ⟨sameText, sameSerial⟩ := Prod.mk.inj same
  have signedNames : (draft.signedFields.erase names.serial).names =
      draft.scan.names.filter draft.coerced.contains := by
    rw [erase_signedFields wellFormed distinct, names_signedFields distinct]
  have othersNames : ((Template.capturedFields draft.template captured).erase names.serial).names =
      draft.scan.names.filter (· ≠ names.serial) := by
    rw [Fields.names_erase, fieldNames, wellFormed.scan_eq]
  -- With something missing, the payloads could only agree across the two modes of signing, which
  -- the lengths rule out.
  refine Classical.byContradiction fun incomplete => incomplete (complete_of_filter_eq ?_)
  rw [← signedNames, ← othersNames]
  refine congrArg Fields.names (Signed.erase_eq_of_text_eq ?_ ?_ sameText.symm)
  · rw [signedNames, othersNames]
    refine List.monotone_filter_right _ fun name present => ?_
    refine decide_eq_true ?_
    rintro rfl
    exact wellFormed.noSerial (Fields.contains_iff.mp present)
  · intro _
    have hasSerial : names.serial ∈ (Template.capturedFields draft.template captured).names := by
      rw [fieldNames, ← wellFormed.scan_eq]
      exact wellFormed.hasSerial
    obtain ⟨serial', found⟩ := Fields.exists_get?_of_mem_names hasSerial
    rw [found, Option.getD_some] at sameSerial
    subst sameSerial
    -- Both lists of texts fill the same document, so that they have the same length in all.
    have sameLength := decomposition.length_flatten_add (decomposes_document wellFormed serial')
    have total := Template.totalLength_capturedFields distinct' oneEach
    have others := Fields.totalLength_erase_add found
    have bound := totalLength_add_le wellFormed distinct incomplete serial'
    rw [erase_signedFields wellFormed distinct]
    omega

/-- The pair of a draft is reconstructed exactly if nothing is missing and every token is captured
with its own text. -/
theorem capturedPair_eq_iff (wellFormed : draft.WellFormed names)
    (distinct : draft.scan.names.Nodup)
    (decomposition : Grammar.Decomposes (Template.nodes draft.template)
      (draft.document names serial) captured) :
    Template.capturedPair names draft.template captured = (draft.signedText names, serial) ↔
      draft.Complete names ∧ captured = draft.tokenTexts names serial := by
  have distinct' := wellFormed.distinct_scan distinct
  have oneEach := Template.length_captured decomposition
  have ofOwnTexts (complete : draft.Complete names) :
      Template.capturedPair names draft.template (draft.tokenTexts names serial) =
        (draft.signedText names, serial) := by
    obtain ⟨found, others⟩ := capturedFields_tokenTexts wellFormed distinct complete serial
    rw [Template.capturedPair, found, ← Signed.ofFields_erase, others]
    rfl
  constructor
  · intro same
    have complete := complete_of_capturedPair_eq wellFormed distinct decomposition same
    refine ⟨complete, ?_⟩
    apply Template.captured_eq_of_capturedPair_eq distinct' wellFormed.hasSerial_scan oneEach
    · exact length_tokenTexts wellFormed serial
    · exact same.trans (ofOwnTexts complete).symm
  · rintro ⟨complete, rfl⟩
    exact ofOwnTexts complete

section Plain

variable {key : PrivateKey} {payload : Bytes} {c : CodePoint}
  (wellFormed : draft.WellFormed names) (distinct : draft.scan.names.Nodup)
  (written : draft.payload names = .ok payload) (signs : key.serial payload = .ok serial)

include wellFormed distinct written signs

/-- What stands in place of a token is signed, is the serial, or spells the token. -/
theorem isSurrogate_of_mem_tokenText {name raw : Text}
    (inside : .token name raw ∈ (Template.scan draft.template).segments)
    (shown : c ∈ ((draft.signedFields.put names.serial serial).get? name).getD raw) :
    c.isSurrogate = false := by
  rw [Fields.get?_put] at shown
  split at shown
  · exact PrivateKey.isSurrogate_of_mem_serial signs shown
  · cases found : draft.signedFields.get? name with
    | none =>
        rw [found] at shown
        have spelled := (Template.isTokenization_scan draft.template).spelled name raw inside
        exact spelled.isSurrogate_of_mem shown
    | some value =>
        rw [found] at shown
        have encodable := (Signed.exists_bytes_iff fun name member => ?_).mp ⟨payload, written⟩
        · rw [erase_signedFields wellFormed distinct] at encodable
          exact encodable _ (Fields.get?_eq_some_iff.mp found) c shown
        · rw [names_signedFields distinct, wellFormed.scan_eq] at member
          exact Template.isSurrogate_of_mem_name (List.mem_filter.mp member).1

/-- The surrogates of a document all stand in the literal text of its template, so that none is left
for what is captured. -/
theorem isSurrogate_of_mem_captured {text : Text}
    (decomposition : Grammar.Decomposes (Template.nodes draft.template)
      (draft.document names serial) captured)
    (taken : text ∈ captured) (inside : c ∈ text) : c.isSurrogate = false := by
  have own : (draft.tokenTexts names serial).flatten.countP CodePoint.isSurrogate = 0 := by
    refine List.countP_eq_zero.mpr fun d member => Bool.eq_false_iff.mp ?_
    obtain ⟨filled, given, shown⟩ := List.mem_flatten.mp member
    rw [tokenTexts, wellFormed.scan_eq] at given
    obtain ⟨segment, inSegments, fills⟩ := List.mem_filterMap.mp given
    cases segment with
    | literal text => cases fills
    | token name raw =>
        obtain rfl := Option.some.inj fills
        exact isSurrogate_of_mem_tokenText wellFormed distinct written signs inSegments shown
  have total := decomposition.countP_flatten_add CodePoint.isSurrogate
    (decomposes_document wellFormed serial)
  have none : captured.flatten.countP CodePoint.isSurrogate = 0 := by omega
  exact Bool.eq_false_iff.mpr
    (List.countP_eq_zero.mp none c (List.mem_flatten.mpr ⟨text, taken, inside⟩))

end Plain

theorem signedPair_eq_ok_iff {config : Config} {files : FileSystem} {options : Options}
    {key : PublicKey} {document : Text} {payload : Bytes}
    (reads : Reads config files options draft.template document key)
    (distinct : (Template.scan draft.template).names.Nodup)
    (hasSerial : config.names.serial ∈ (Template.scan draft.template).names)
    (matched : Template.Captures draft.template document captured)
    (written : draft.payload config.names = .ok payload) :
    (∃ parsed, (parse config files options).outcome = .ok parsed ∧
        parsed.signedPair config.names = .ok (payload, serial)) ↔
      Template.capturedPair config.names draft.template captured =
        (draft.signedText config.names, serial) := by
  constructor
  · rintro ⟨parsed, succeeds, pair⟩
    obtain ⟨payload', serial', pair', written', sameSerial, -⟩ :=
      exists_pair_of_captures reads distinct hasSerial matched succeeds
    obtain ⟨rfl, rfl⟩ := Prod.mk.inj (Except.ok.inj (pair.symm.trans pair'))
    exact Prod.ext (Signed.text_eq_of_bytes_eq written' written) sameSerial.symm
  · intro same
    have written' : (Signed.ofFields config.names
        (Template.capturedFields draft.template captured)).bytes = .ok payload := by
      rw [Signed.bytes]
      exact (congrArg Encoding.Utf8.encode (congrArg Prod.fst same)).trans written
    have succeeds :=
      (parse_eq_ok_iff_of_captures reads distinct hasSerial matched).mpr ⟨payload, written', rfl⟩
    obtain ⟨payload', serial', pair, written'', sameSerial, -⟩ :=
      exists_pair_of_captures reads distinct hasSerial matched succeeds
    obtain rfl := Except.ok.inj (written'.symm.trans written'')
    rw [same] at sameSerial
    subst sameSerial
    exact ⟨_, succeeds, pair⟩

/-- A document that was generated for a draft is parsed, whatever its texts are taken for. -/
theorem exists_parsed_of_captures {config : Config} {files : FileSystem} {options : Options}
    {key : PrivateKey} {verifying : PublicKey} {payload : Bytes}
    (reads : Reads config files options draft.template (draft.document config.names serial)
      verifying)
    (wellFormed : draft.WellFormed config.names) (distinct : draft.scan.names.Nodup)
    (written : draft.payload config.names = .ok payload) (signs : key.serial payload = .ok serial)
    (matched : Template.Captures draft.template (draft.document config.names serial) captured) :
    ∃ parsed, (parse config files options).outcome = .ok parsed := by
  have distinct' := wellFormed.distinct_scan distinct
  have decomposition := ((Template.captures_iff distinct').mp matched).decomposes
  rcases parse_cases_of_captures reads distinct' wellFormed.hasSerial_scan matched with
    ⟨-, parses⟩ | ⟨unencodable, -⟩
  · exact parses
  · refine (unencodable (Template.encodable_of_plain distinct'
      (Template.length_captured decomposition) fun text taken c inside => ?_)).elim
    exact isSurrogate_of_mem_captured wellFormed distinct written signs decomposition taken inside

theorem plain_of_parsed {config : Config} {files : FileSystem} {options : Options}
    {key : PrivateKey} {verifying : PublicKey} {payload : Bytes} {parsed : ParsedLicense}
    (reads : Reads config files options draft.template (draft.document config.names serial)
      verifying)
    (wellFormed : draft.WellFormed config.names) (distinct : draft.scan.names.Nodup)
    (written : draft.payload config.names = .ok payload) (signs : key.serial payload = .ok serial)
    (succeeds : (parse config files options).outcome = .ok parsed) :
    (∀ c ∈ parsed.serial, c.isSurrogate = false) ∧
      ∃ texts, parsed.data = .ofTexts config.names texts ∧ texts.Encodable ∧
        ∀ name ∈ texts.names, ∀ c ∈ name, c.isSurrogate = false := by
  have distinct' := wellFormed.distinct_scan distinct
  obtain ⟨captured, matched⟩ :=
    Template.exists_captures distinct' (decomposes_document wellFormed serial)
  have decomposition := ((Template.captures_iff distinct').mp matched).decomposes
  have oneEach := Template.length_captured decomposition
  have plain : ∀ text ∈ captured, ∀ c ∈ text, c.isSurrogate = false := fun _ taken _ inside =>
    isSurrogate_of_mem_captured wellFormed distinct written signs decomposition taken inside
  have names := Template.names_capturedFields distinct' oneEach
  obtain ⟨-, -, rfl⟩ :=
    (parse_eq_ok_iff_of_captures reads distinct' wellFormed.hasSerial_scan matched).mp succeeds
  refine ⟨?_, _, rfl, Template.encodable_of_plain distinct' oneEach plain, fun name member => ?_⟩
  · have hasSerial := wellFormed.hasSerial_scan
    rw [← names] at hasSerial
    obtain ⟨text, found⟩ := Fields.exists_get?_of_mem_names hasSerial
    have inside := Fields.get?_eq_some_iff.mp found
    rw [Template.entries_capturedFields distinct' oneEach] at inside
    dsimp only [Template.capturedPair]
    rw [found]
    exact plain text (List.of_mem_zip inside).2
  · rw [Fields.names_erase, names, List.mem_filter] at member
    exact Template.isSurrogate_of_mem_name member.1

end Draft

/-- A generated document matches its template, and parsing it reconstructs the signed payload and
the serial exactly if every token had a field and was captured with its own text.  So it never does
if names were missing, and never with other data than the signed fields. -/
theorem signedPair_reproduced_iff {config : Config} {files : FileSystem} {options : Options}
    {document : Text} (generated : (generate config files options).outcome = .ok document) :
    ∃ draft key serial payload, Issues config files options draft key serial ∧
      draft.payload config.names = .ok payload ∧ key.serial payload = .ok serial ∧
      document = draft.document config.names serial ∧
      (draft.scan.names.Nodup →
        ∃ captured, Template.Captures draft.template document captured ∧
          ∀ files' options' verifying,
            Reads config files' options' draft.template document verifying →
            ∃ parsed, (parse config files' options').outcome = .ok parsed ∧
              (parsed.signedPair config.names = .ok (payload, serial) ↔
                draft.Complete config.names ∧
                  captured = draft.tokenTexts config.names serial) ∧
              (draft.missingNames config.names ≠ [] →
                parsed.signedPair config.names ≠ .ok (payload, serial)) ∧
              (parsed.signedPair config.names = .ok (payload, serial) →
                parsed.data = .ofTexts config.names draft.signedFields)) := by
  obtain ⟨draft, key, serial, issued, rfl⟩ := generate_outcome_eq_ok_iff.mp generated
  obtain ⟨payload, written, signs⟩ := Draft.serial_eq_ok_iff.mp issued.signed
  refine ⟨draft, key, serial, payload, issued, written, signs, rfl, fun distinct => ?_⟩
  obtain ⟨request, -, accepted, -⟩ := issued.exists_request
  have wellFormed := Draft.wellFormed_of_ofRequest accepted
  have distinct' := wellFormed.distinct_scan distinct
  obtain ⟨captured, matched⟩ :=
    Template.exists_captures distinct' (Draft.decomposes_document wellFormed serial)
  have decomposition := ((Template.captures_iff distinct').mp matched).decomposes
  refine ⟨captured, matched, fun files' options' verifying reads => ?_⟩
  obtain ⟨parsed, succeeds⟩ :=
    Draft.exists_parsed_of_captures reads wellFormed distinct written signs matched
  have reproduced : parsed.signedPair config.names = .ok (payload, serial) ↔
      draft.Complete config.names ∧ captured = draft.tokenTexts config.names serial := by
    rw [← Draft.capturedPair_eq_iff wellFormed distinct decomposition,
      ← Draft.signedPair_eq_ok_iff reads distinct' wellFormed.hasSerial_scan matched written]
    constructor
    · exact fun same => ⟨parsed, succeeds, same⟩
    · rintro ⟨parsed', succeeds', same⟩
      obtain rfl := Except.ok.inj (succeeds'.symm.trans succeeds)
      exact same
  refine ⟨parsed, succeeds, reproduced, ?_, ?_⟩
  · intro missing same
    exact missing (Draft.missingNames_eq_nil_iff.mpr (reproduced.mp same).1)
  · intro same
    obtain ⟨complete, rfl⟩ := reproduced.mp same
    have others := (Draft.capturedFields_tokenTexts wellFormed distinct complete serial).2
    obtain ⟨-, -, rfl⟩ := (parse_eq_ok_iff_of_captures reads distinct' wellFormed.hasSerial_scan
      matched).mp succeeds
    rw [others]

namespace Sample

/-- A template of two fields and the serial with dashes in between. -/
def dashed : Text :=
  "\x7b\x7ba\x7d\x7d-\x7b\x7bb\x7d\x7d-\x7b\x7bserial\x7d\x7d".text

/-- Data whose first field holds a dash itself. -/
def dashedData : Fields Value :=
  Fields.ofList [("a".text, .text "1-2".text), ("b".text, .text "3".text)]

def dashedDraft : Draft :=
  ⟨dashed, Template.scan dashed, true,
    Fields.ofList [("a".text, "1-2".text), ("b".text, "3".text)]⟩

theorem issues_dashedDraft : ∃ serial, Issues (config dashed) files
    (generateOptions (.map [(.text "a".text, .text "1-2".text),
      (.text "b".text, .text "3".text)])) dashedDraft (.ed25519 seed) serial := by
  have accepted : GenerateRequest.ofOptions
      (generateOptions (.map [(.text "a".text, .text "1-2".text),
        (.text "b".text, .text "3".text)])) =
      .ok ⟨some (.fields dashedData), ⟨some (.text privateKeyText), none⟩, none, none⟩ := rfl
  exact exists_issues rfl accepted rfl rfl (by decide) (by decide +kernel) (by decide +kernel)

end Sample

/-- A dash in a value moves the boundary of the first field, so that the signed pair is not
reconstructed. -/
theorem signedPair_reproduced_iff_dashed :
    ∃ document payload serial parsed,
      (generate (Sample.config Sample.dashed) Sample.files
        (Sample.generateOptions (.map [(.text "a".text, .text "1-2".text),
          (.text "b".text, .text "3".text)]))).outcome = .ok document ∧
      Sample.dashedDraft.payload (Sample.config Sample.dashed).names = .ok payload ∧
      PrivateKey.serial (.ed25519 Sample.seed) payload = .ok serial ∧
      (parse (Sample.config Sample.dashed) Sample.files
        (Sample.parseOptions document)).outcome = .ok parsed ∧
      parsed.signedPair (Sample.config Sample.dashed).names ≠ .ok (payload, serial) := by
  obtain ⟨serial, issued⟩ := Sample.issues_dashedDraft
  have generated := generate_outcome_eq_ok_iff.mpr ⟨_, _, _, issued, rfl⟩
  obtain ⟨draft, key, serial', payload, issued', written, signs, same, reproduced⟩ :=
    signedPair_reproduced_iff generated
  obtain ⟨rfl, rfl, rfl⟩ := issued.unique issued'
  have segments : Sample.dashedDraft.scan.segments =
      [.token ['a'] "\x7b\x7ba\x7d\x7d".text, .literal ['-'],
        .token ['b'] "\x7b\x7bb\x7d\x7d".text, .literal ['-'],
        .token "serial".text "\x7b\x7bserial\x7d\x7d".text] := by decide +kernel
  have distinct : Sample.dashedDraft.scan.names.Nodup := by
    rw [Scan.names, segments]
    decide
  obtain ⟨captured, matched, parses⟩ := reproduced distinct
  obtain ⟨parsed, succeeds, pair, -, -⟩ := parses _ _ _ (Sample.reads Sample.dashed _)
  refine ⟨_, payload, serial, parsed, generated, written, signs, succeeds, fun equal => ?_⟩
  obtain ⟨-, own⟩ := pair.mp equal
  have texts : Sample.dashedDraft.tokenTexts (Sample.config Sample.dashed).names serial =
      ["1-2".text, "3".text, serial] := by
    rw [Draft.tokenTexts_eq distinct, segments]
    rfl
  have best := (Template.captures_iff distinct).mp matched
  rw [own, texts] at best
  have document := best.decomposes.eq_fill
  have earlier : Grammar.Decomposes (Template.nodes Sample.dashed)
      (Sample.dashedDraft.document (Sample.config Sample.dashed).names serial)
      ["1".text, "2".text, ('3' : CodePoint) :: ('-' : CodePoint) :: serial] := by
    rw [document]
    change Grammar.Decomposes (Sample.dashedDraft.scan.segments.map _)
      (Segment.fill Sample.dashedDraft.scan.segments _) _
    rw [segments]
    exact .capture ['a'] true ['1'] (.literal ['-'] (.capture ['b'] true ['2']
      (.literal ['-'] (.capture "serial".text true
        (('3' : CodePoint) :: ('-' : CodePoint) :: serial) .nil))))
  rcases best.preferred _ earlier with impossible | preference
  · cases impossible
  · change Grammar.Prefers (Sample.dashedDraft.scan.segments.map _) _ _ at preference
    rw [segments] at preference
    cases preference with
    | shorter _ less => exact absurd less (by decide)
    | later _ _ same _ => exact absurd same (by decide)

end LicenseSeal
