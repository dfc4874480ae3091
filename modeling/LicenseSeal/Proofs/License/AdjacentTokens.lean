import LicenseSeal.Proofs.License.OutcomeClasses
import LicenseSeal.Proofs.License.PairReproduction
import LicenseSeal.Proofs.Signing.SerialVerification

/-!
# Tokens next to each other

Whatever a capture takes right before another one, the other one can take as well, so that a lazy
one takes nothing.  A serial in front of another token is therefore read as empty and never valid,
and a document whose template has a text or the serial in such a place does not give back what was
signed.
-/

namespace LicenseSeal

namespace Grammar

variable {name name' : Text} {isLazy : Bool} {document : Text} {captured : List Text}

namespace IsMostPreferred

/-- The text of a lazy capture can move to a capture right behind it. -/
theorem eq_nil_of_adjacent {nodes : List Node} {span : Text}
    (best : IsMostPreferred (.capture name true :: .capture name' isLazy :: nodes) document
      (span :: captured)) : span = [] := by
  obtain ⟨_, _, _, rfl, same, next⟩ := decomposes_capture_iff.mp best.decomposes
  obtain ⟨rfl, rfl⟩ := List.cons.inj same
  obtain ⟨span', rest, others, rfl, rfl, behind⟩ := decomposes_capture_iff.mp next
  have later : Decomposes (.capture name' isLazy :: nodes) (span ++ (span' ++ rest))
      ((span ++ span') :: others) := by
    rw [← List.append_assoc]
    exact .capture name' isLazy (span ++ span') behind
  have short := best.length_le (.capture name true [] later)
  exact List.eq_nil_of_length_eq_zero (Nat.le_zero.mp short)

theorem getElem?_of_adjacent {before after : List Node}
    (best : IsMostPreferred (before ++ .capture name true :: .capture name' isLazy :: after)
      document captured) :
    captured[(before.filterMap Node.name?).length]? = some [] := by
  induction before generalizing document captured with
  | nil =>
      obtain ⟨span, rest, others, rfl, rfl, -⟩ := decomposes_capture_iff.mp best.decomposes
      rw [best.eq_nil_of_adjacent]
      rfl
  | cons node before ih =>
      cases node with
      | literal text =>
          obtain ⟨rest, rfl, -⟩ := decomposes_literal_iff.mp best.decomposes
          rw [List.filterMap_cons_none rfl]
          apply ih
          exact best.of_literal
      | capture other isLazy' =>
          obtain ⟨span, rest, others, rfl, rfl, -⟩ := decomposes_capture_iff.mp best.decomposes
          have named : (Node.capture other isLazy').name? = some other := rfl
          rw [List.filterMap_cons_some named, List.length_cons, List.getElem?_cons_succ]
          apply ih
          exact best.of_capture

end IsMostPreferred

end Grammar

namespace Segment

variable {before after : List Segment} {name raw : Text}

theorem getElem?_filterMap_name? :
    ((before ++ .token name raw :: after).filterMap name?)[(before.filterMap name?).length]? =
      some name := by
  have named : (token name raw).name? = some name := rfl
  rw [List.filterMap_append, List.getElem?_append_right (Nat.le_refl _), Nat.sub_self,
    List.filterMap_cons_some named, List.getElem?_cons_zero]

theorem getElem?_filterMap_tokenText? (fields : Fields Text) :
    ((before ++ .token name raw :: after).filterMap (tokenText? fields))[
        (before.filterMap name?).length]? = some ((fields.get? name).getD raw) := by
  have text : tokenText? fields (.token name raw) = some ((fields.get? name).getD raw) := rfl
  rw [List.filterMap_append, ← length_filterMap_tokenText? fields before,
    List.getElem?_append_right (Nat.le_refl _), Nat.sub_self, List.filterMap_cons_some text,
    List.getElem?_cons_zero]

end Segment

/-- Two tokens of a template, the first one right before the second one, behind some segments. -/
def Template.Adjacent (template : Text) (before : List Segment) (first second : Text) : Prop :=
  ∃ raw raw' after,
    (scan template).segments = before ++ .token first raw :: .token second raw' :: after

namespace Template

variable {template document first second : Text} {captured : List Text} {before : List Segment}

theorem Adjacent.getElem?_captured (adjacent : Adjacent template before first second)
    (best : Grammar.IsMostPreferred (nodes template) document captured) :
    captured[(before.filterMap Segment.name?).length]? = some [] := by
  obtain ⟨raw, raw', after, split⟩ := adjacent
  rw [nodes, split, List.map_append] at best
  rw [← Grammar.filterMap_name?_ofSegment before]
  exact best.getElem?_of_adjacent

theorem Adjacent.getElem?_names (adjacent : Adjacent template before first second) :
    (scan template).names[(before.filterMap Segment.name?).length]? = some first := by
  obtain ⟨raw, raw', after, split⟩ := adjacent
  rw [Scan.names, split]
  exact Segment.getElem?_filterMap_name?

theorem Adjacent.get?_capturedFields (adjacent : Adjacent template before first second)
    (distinct : (scan template).names.Nodup)
    (best : Grammar.IsMostPreferred (nodes template) document captured) :
    (capturedFields template captured).get? first = some [] := by
  rw [Fields.get?_eq_some_iff, entries_capturedFields distinct (length_captured best.decomposes)]
  have both : ((scan template).names.zip captured)[(before.filterMap Segment.name?).length]? =
      some (first, []) := by
    rw [List.getElem?_zip_eq_some]
    exact ⟨adjacent.getElem?_names, adjacent.getElem?_captured best⟩
  exact List.mem_of_getElem? both

end Template

/-- A serial in front of another token is read as empty, and no key accepts it. -/
theorem invalid_of_adjacent {config : Config} {files : FileSystem} {options : Options}
    {template document second : Text} {key : PublicKey} {before : List Segment}
    {captured : List Text} {parsed : ParsedLicense}
    (reads : Reads config files options template document key)
    (adjacent : Template.Adjacent template before config.names.serial second)
    (distinct : (Template.scan template).names.Nodup)
    (matched : Template.Captures template document captured)
    (parses : (parse config files options).outcome = .ok parsed) :
    parsed.serial = [] ∧ parsed.valid = false := by
  have best := (Template.captures_iff distinct).mp matched
  have hasSerial := List.mem_of_getElem? adjacent.getElem?_names
  have serial : (Template.capturedPair config.names template captured).2 = [] := by
    rw [Template.capturedPair, adjacent.get?_capturedFields distinct best, Option.getD_some]
  obtain ⟨payload, -, rfl⟩ :=
    (parse_eq_ok_iff_of_captures reads distinct hasSerial matched).mp parses
  rw [serial]
  exact ⟨rfl, PublicKey.verifies_nil key payload⟩

namespace Draft

variable {names : FieldNames} {draft : Draft} {first second : Text} {before : List Segment}

/-- The draft puts the serial or a text that is not empty in place of a token. -/
def Provides (names : FieldNames) (draft : Draft) (token : Text) : Prop :=
  token = names.serial ∨ ∃ value, draft.coerced.get? token = some value ∧ value ≠ []

theorem Provides.get?_put_ne (provides : draft.Provides names first) {serial : Text}
    (nonempty : serial ≠ []) :
    ∃ text, (draft.coerced.put names.serial serial).get? first = some text ∧ text ≠ [] := by
  rw [Fields.get?_put]
  by_cases same : names.serial = first
  · exact ⟨serial, if_pos same, nonempty⟩
  · rcases provides with isSerial | given
    · exact (same isSerial.symm).elim
    · rw [if_neg same]
      exact given

theorem tokenTexts_ne_of_adjacent (wellFormed : draft.WellFormed names)
    (distinct : draft.scan.names.Nodup)
    (adjacent : Template.Adjacent draft.template before first second)
    (provides : draft.Provides names first) {serial document : Text} (nonempty : serial ≠ [])
    {captured : List Text}
    (best : Grammar.IsMostPreferred (Template.nodes draft.template) document captured) :
    captured ≠ draft.tokenTexts names serial := by
  rintro rfl
  have empty := adjacent.getElem?_captured best
  obtain ⟨raw, raw', after, split⟩ := adjacent
  rw [tokenTexts_eq distinct, wellFormed.scan_eq, split,
    Segment.getElem?_filterMap_tokenText?] at empty
  obtain ⟨text, put, filled⟩ := provides.get?_put_ne nonempty
  rw [put, Option.getD_some] at empty
  exact filled (Option.some.inj empty)

end Draft

/-- If the first of two adjacent tokens stands for the serial or for a text that is not empty,
parsing does not give back the pair that was signed. -/
theorem signedPair_ne_of_adjacent {config : Config} {files files' : FileSystem}
    {options options' : Options} {draft : Draft} {key : PrivateKey} {serial first second : Text}
    {verifying : PublicKey} {before : List Segment} {parsed : ParsedLicense}
    {payload : Bytes} (issued : Issues config files options draft key serial)
    (written : draft.payload config.names = .ok payload) (signs : key.serial payload = .ok serial)
    (adjacent : Template.Adjacent draft.template before first second)
    (provides : draft.Provides config.names first)
    (reads : Reads config files' options' draft.template (draft.document config.names serial)
      verifying)
    (parses : (parse config files' options').outcome = .ok parsed) :
    parsed.signedPair config.names ≠ .ok (payload, serial) := by
  obtain ⟨request, -, accepted, -⟩ := issued.exists_request
  have wellFormed := Draft.wellFormed_of_ofRequest accepted
  by_cases distinct : draft.scan.names.Nodup
  · have distinct' := wellFormed.distinct_scan distinct
    obtain ⟨captured, matched⟩ :=
      Template.exists_captures distinct' (Draft.decomposes_document wellFormed serial)
    have best := (Template.captures_iff distinct').mp matched
    intro same
    have own := (Draft.capturedPair_eq_iff wellFormed distinct best.decomposes).mp
      ((Draft.signedPair_eq_ok_iff reads distinct' wellFormed.hasSerial_scan matched written).mp
        ⟨parsed, parses, same⟩)
    have nonempty := PrivateKey.ne_nil_of_serial signs
    exact Draft.tokenTexts_ne_of_adjacent wellFormed distinct adjacent provides nonempty best own.2
  · rw [wellFormed.scan_eq] at distinct
    obtain ⟨error, fails⟩ := failsAs_template reads (.inl distinct)
    rw [parses] at fails
    cases fails

/-- The first of two adjacent tokens is captured as the empty text from every document.  So a serial
in front of another token is never valid, and a generated document whose template has the serial or
a text that is not empty in such a place never gives back the payload and the serial that were
signed. -/
theorem adjacent_tokens :
    (∀ template before first second, Template.Adjacent template before first second →
      ∀ grammar document captured, Template.grammar template = .ok grammar →
        grammar.captures? document = some captured →
        captured[(before.filterMap Segment.name?).length]? = some []) ∧
    (∀ config files options template document key before second,
      Reads config files options template document key →
      Template.Adjacent template before config.names.serial second →
      ∀ grammar captured, Template.grammar template = .ok grammar →
        grammar.captures? document = some captured →
        (∀ parsed, (parse config files options).outcome = .ok parsed →
          parsed.serial = [] ∧ parsed.valid = false) ∧
        (((Template.capturedFields template captured).erase config.names.serial).Encodable →
          ∃ parsed, (parse config files options).outcome = .ok parsed)) ∧
    ∀ config files options document, (generate config files options).outcome = .ok document →
      ∃ draft key serial payload, Issues config files options draft key serial ∧
        draft.payload config.names = .ok payload ∧ key.serial payload = .ok serial ∧
        document = draft.document config.names serial ∧
        ∀ before first second, Template.Adjacent draft.template before first second →
          draft.Provides config.names first →
          ∀ files' options' verifying,
            Reads config files' options' draft.template document verifying →
            ∀ parsed, (parse config files' options').outcome = .ok parsed →
              parsed.signedPair config.names ≠ .ok (payload, serial) := by
  refine ⟨?_, ?_, ?_⟩
  · intro template before first second adjacent grammar document captured compiled matched
    have distinct := (Template.grammar_eq_ok_iff.mp compiled).1
    apply adjacent.getElem?_captured
    exact (Template.captures_iff distinct).mp ⟨grammar, compiled, matched⟩
  · intro config files options template document key before second reads adjacent grammar captured
      compiled matched
    have distinct := (Template.grammar_eq_ok_iff.mp compiled).1
    have captures : Template.Captures template document captured := ⟨grammar, compiled, matched⟩
    have hasSerial := List.mem_of_getElem? adjacent.getElem?_names
    constructor
    · exact fun parsed parses => invalid_of_adjacent reads adjacent distinct captures parses
    · intro encodable
      rcases parse_cases_of_captures reads distinct hasSerial captures with
        ⟨-, parses⟩ | ⟨unencodable, -⟩
      · exact parses
      · exact (unencodable encodable).elim
  · intro config files options document generated
    obtain ⟨draft, key, serial, issued, rfl⟩ := generate_outcome_eq_ok_iff.mp generated
    obtain ⟨payload, written, signs⟩ := Draft.serial_eq_ok_iff.mp issued.signed
    refine ⟨draft, key, serial, payload, issued, written, signs, rfl, ?_⟩
    intro before first second adjacent provides files' options' verifying reads parsed parses
    exact signedPair_ne_of_adjacent issued written signs adjacent provides reads parses

namespace Sample

/-- A template of three tokens without text in between. -/
def chained : Text :=
  "\x7b\x7ba\x7d\x7d\x7b\x7bserial\x7d\x7d\x7b\x7bb\x7d\x7d".text

def chainedData : Value :=
  .map [(.text "a".text, .text "x".text), (.text "b".text, .text "y".text)]

def chainedDraft : Draft :=
  ⟨chained, Template.scan chained, true,
    Fields.ofList [("a".text, "x".text), ("b".text, "y".text)]⟩

theorem segments_chained : (Template.scan chained).segments =
    [.token "a".text "\x7b\x7ba\x7d\x7d".text,
      .token "serial".text "\x7b\x7bserial\x7d\x7d".text,
      .token "b".text "\x7b\x7bb\x7d\x7d".text] := by
  decide +kernel

theorem issues_chainedDraft : ∃ serial,
    Issues (config chained) files (generateOptions chainedData) chainedDraft (.ed25519 seed)
      serial := by
  have accepted : GenerateRequest.ofOptions (generateOptions chainedData) =
      .ok ⟨some (.fields (Fields.ofList [("a".text, .text "x".text),
        ("b".text, .text "y".text)])), ⟨some (.text privateKeyText), none⟩, none, none⟩ := rfl
  exact exists_issues rfl accepted rfl rfl (by decide) (by decide +kernel) (by decide +kernel)

end Sample

/-- Everything of a document is captured by the last of three adjacent tokens. -/
theorem adjacent_tokens_chained :
    (∃ captured, Template.Captures Sample.chained "xy".text captured ∧
      captured[0]? = some [] ∧ captured[1]? = some []) ∧
    (∃ parsed, (parse (Sample.config Sample.chained) Sample.files
        (Sample.parseOptions "xy".text)).outcome = .ok parsed ∧ parsed.serial = [] ∧
      parsed.valid = false) ∧
    ∃ document payload serial parsed,
      (generate (Sample.config Sample.chained) Sample.files
        (Sample.generateOptions Sample.chainedData)).outcome = .ok document ∧
      Sample.chainedDraft.payload (Sample.config Sample.chained).names = .ok payload ∧
      PrivateKey.serial (.ed25519 Sample.seed) payload = .ok serial ∧
      (parse (Sample.config Sample.chained) Sample.files
        (Sample.parseOptions document)).outcome = .ok parsed ∧
      parsed.signedPair (Sample.config Sample.chained).names ≠ .ok (payload, serial) := by
  obtain ⟨captures, reading, reproduction⟩ := adjacent_tokens
  have first : Template.Adjacent Sample.chained [] "a".text "serial".text :=
    ⟨_, _, _, Sample.segments_chained⟩
  have second : Template.Adjacent Sample.chained
      [.token "a".text "\x7b\x7ba\x7d\x7d".text] "serial".text "b".text :=
    ⟨_, _, [], Sample.segments_chained⟩
  have distinct : (Template.scan Sample.chained).names.Nodup := by
    rw [Scan.names, Sample.segments_chained]
    decide
  have compiled := Template.grammar_eq_compiled distinct
  have matched : (Template.compiled Sample.chained).captures? "xy".text =
      some ["".text, "".text, "xy".text] := by
    rw [Grammar.captures?_eq_search]
    decide +kernel
  obtain ⟨serial, issued⟩ := Sample.issues_chainedDraft
  have generated := generate_outcome_eq_ok_iff.mpr ⟨_, _, _, issued, rfl⟩
  obtain ⟨draft, key, serial', payload, issued', written, signs, -, differs⟩ :=
    reproduction _ _ _ _ generated
  obtain ⟨rfl, rfl, rfl⟩ := issued.unique issued'
  refine ⟨⟨_, ⟨_, compiled, matched⟩, ?_, ?_⟩, ?_, ?_⟩
  · exact captures _ _ _ _ first _ _ _ compiled matched
  · exact captures _ _ _ _ second _ _ _ compiled matched
  · obtain ⟨invalid, parses⟩ :=
      reading _ _ _ _ _ _ _ _ (Sample.reads _ _) second _ _ compiled matched
    have decomposition := ((Template.captures_iff distinct).mp ⟨_, compiled, matched⟩).decomposes
    obtain ⟨parsed, succeeds⟩ := parses (Template.encodable_captured distinct decomposition
      fun _ => String.isSurrogate_of_mem_text)
    exact ⟨parsed, succeeds, invalid parsed succeeds⟩
  · have reads := Sample.reads Sample.chained
      (Sample.chainedDraft.document (Sample.config Sample.chained).names serial)
    have wellFormed : Sample.chainedDraft.WellFormed (Sample.config Sample.chained).names := by
      obtain ⟨request, -, accepted, -⟩ := issued.exists_request
      exact Draft.wellFormed_of_ofRequest accepted
    obtain ⟨captured, found⟩ := Template.exists_captures distinct
      (Draft.decomposes_document wellFormed serial)
    have decomposition := ((Template.captures_iff distinct).mp found).decomposes
    obtain ⟨parsed, parses⟩ := Draft.exists_parsed_of_captures reads wellFormed distinct written
      signs found
    refine ⟨_, payload, serial, parsed, generated, written, signs, parses, ?_⟩
    apply differs _ _ _ first _ _ _ _ reads _ parses
    exact .inr ⟨"x".text, rfl, by decide⟩

end LicenseSeal
