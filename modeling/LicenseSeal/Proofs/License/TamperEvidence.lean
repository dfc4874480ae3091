import LicenseSeal.Proofs.License.TemplateReading

/-!
# Evidence of tampering

For one template the reconstructed payload and the serial determine the document that they were read
from, so that no edit keeps both.  Any text in place of a token still gives a document of the
template.
-/

namespace LicenseSeal

variable {config : Config} {template : Text}

/-- Different documents of one template never give the same payload with the same serial, and
whatever stands in place of the tokens of a rendered document, parsing gives a license whose
validity is the signature's answer on that pair.  Only a surrogate keeps the texts of a document
from having a payload. -/
theorem tamper_evidence
    (distinct : (Template.scan template).names.Nodup)
    (hasSerial : config.names.serial ∈ (Template.scan template).names) :
    (∀ document document' captured captured', document ≠ document' →
      Template.Captures template document captured →
      Template.Captures template document' captured' →
      ∀ files options key files' options' key',
        Reads config files options template document key →
        Reads config files' options' template document' key' →
        ∀ parsed parsed', (parse config files options).outcome = .ok parsed →
          (parse config files' options').outcome = .ok parsed' →
          ∃ payload serial payload' serial',
            parsed.signedPair config.names = .ok (payload, serial) ∧
            parsed'.signedPair config.names = .ok (payload', serial') ∧
            parsed.valid = key.verifies payload serial ∧
            parsed'.valid = key'.verifies payload' serial' ∧
            (payload, serial) ≠ (payload', serial')) ∧
    (∀ fields texts, texts.length = (Template.scan template).names.length →
      Template.render template fields = Segment.fill (Template.scan template).segments
        ((Template.scan template).segments.filterMap (Segment.tokenText? fields)) ∧
      ∃ captured, Template.Captures template
        (Segment.fill (Template.scan template).segments texts) captured) ∧
    (∀ document captured files options key, Template.Captures template document captured →
      Reads config files options template document key →
      (((Template.capturedFields template captured).erase config.names.serial).Encodable →
        ∃ parsed payload serial, (parse config files options).outcome = .ok parsed ∧
          parsed.signedPair config.names = .ok (payload, serial) ∧
          parsed.valid = key.verifies payload serial) ∧
      ∀ failure, (parse config files options).outcome = .error failure →
        ∃ error, failure = .unencodable error) := by
  refine ⟨?_, ?_, ?_⟩
  · intro document document' captured captured' different matched matched' files options key
      files' options' key' reads reads' parsed parsed' succeeds succeeds'
    have decomposition := ((Template.captures_iff distinct).mp matched).decomposes
    have decomposition' := ((Template.captures_iff distinct).mp matched').decomposes
    obtain ⟨payload, serial, pair, written, sameSerial, valid⟩ :=
      exists_pair_of_captures reads distinct hasSerial matched succeeds
    obtain ⟨payload', serial', pair', written', sameSerial', valid'⟩ :=
      exists_pair_of_captures reads' distinct hasSerial matched' succeeds'
    refine ⟨payload, serial, payload', serial', pair, pair', valid, valid', fun same => ?_⟩
    obtain ⟨rfl, rfl⟩ := Prod.mk.inj same
    have samePair : Template.capturedPair config.names template captured =
        Template.capturedPair config.names template captured' :=
      Prod.ext (Signed.text_eq_of_bytes_eq written written') (sameSerial.symm.trans sameSerial')
    have sameCaptured := Template.captured_eq_of_capturedPair_eq distinct hasSerial
      (Template.length_captured decomposition) (Template.length_captured decomposition') samePair
    subst sameCaptured
    exact different (decomposition.document_eq decomposition')
  · intro fields texts oneEach
    exact ⟨Segment.flatMap_rendered_eq_fill fields _,
      Template.exists_captures distinct (Grammar.decomposes_fill oneEach)⟩
  · intro document captured files options key matched reads
    rcases parse_cases_of_captures reads distinct hasSerial matched with
      ⟨-, parsed, succeeds⟩ | ⟨unencodable, error, fails⟩
    · obtain ⟨payload, serial, pair, -, -, valid⟩ :=
        exists_pair_of_captures reads distinct hasSerial matched succeeds
      refine ⟨fun _ => ⟨parsed, payload, serial, succeeds, pair, valid⟩, fun failure fails => ?_⟩
      rw [succeeds] at fails
      cases fails
    · refine ⟨fun encodable => (unencodable encodable).elim, fun failure fails' => ⟨error, ?_⟩⟩
      rw [fails] at fails'
      exact (Except.error.inj fails').symm

/-- A template of a text and its serial with a bar in between. -/
def Sample.barred : Text := "\x7b\x7bstring\x7d\x7d|\x7b\x7bserial\x7d\x7d".text

theorem Sample.hasSerial_barred :
    (Sample.config barred).names.serial ∈ (Template.scan barred).names := by
  have named : (Template.scan barred).names = ["string".text, "serial".text] := by decide +kernel
  rw [named]
  decide

/-- Two documents whose texts meet at different places give different pairs. -/
theorem tamper_evidence_shifted_boundary :
    ∃ parsed parsed',
      (parse (Sample.config Sample.barred) Sample.files
        (Sample.parseOptions "ab|c".text)).outcome = .ok parsed ∧
      (parse (Sample.config Sample.barred) Sample.files
        (Sample.parseOptions "a|b|c".text)).outcome = .ok parsed' ∧
      parsed.signedPair (Sample.config Sample.barred).names ≠
        parsed'.signedPair (Sample.config Sample.barred).names := by
  have named : (Template.scan Sample.barred).names = ["string".text, "serial".text] := by
    decide +kernel
  have compiled : Template.grammar Sample.barred = .ok ⟨["string".text, "serial".text],
      [.capture "string".text true, .literal "|".text, .capture "serial".text true]⟩ := by
    decide +kernel
  have matched : Template.Captures Sample.barred "ab|c".text ["ab".text, "c".text] :=
    ⟨_, compiled, by rw [Grammar.captures?_eq_search]; decide +kernel⟩
  have matched' : Template.Captures Sample.barred "a|b|c".text ["a".text, "b|c".text] :=
    ⟨_, compiled, by rw [Grammar.captures?_eq_search]; decide +kernel⟩
  have distinct : (Template.scan Sample.barred).names.Nodup := by
    rw [named]
    decide
  obtain ⟨differ, -, outcomes⟩ := tamper_evidence distinct Sample.hasSerial_barred
  have parses {document : Text} {captured : List Text}
      (plain : ∀ c ∈ document, c.isSurrogate = false)
      (matched : Template.Captures Sample.barred document captured) :=
    (outcomes _ _ _ _ _ matched (Sample.reads Sample.barred document)).1
      (Template.encodable_captured distinct
        ((Template.captures_iff distinct).mp matched).decomposes plain)
  obtain ⟨parsed, -, -, succeeds, -⟩ := parses (fun _ => String.isSurrogate_of_mem_text) matched
  obtain ⟨parsed', -, -, succeeds', -⟩ := parses (fun _ => String.isSurrogate_of_mem_text) matched'
  obtain ⟨payload, serial, payload', serial', pair, pair', -, -, different⟩ :=
    differ _ _ _ _ (by decide) matched matched' _ _ _ _ _ _ (Sample.reads Sample.barred _)
      (Sample.reads Sample.barred _) _ _ succeeds succeeds'
  refine ⟨parsed, parsed', succeeds, succeeds', fun same => ?_⟩
  rw [pair, pair'] at same
  exact different (Except.ok.inj same)

end LicenseSeal
