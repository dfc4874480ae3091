import LicenseSeal.Proofs.License.RoundTrip
import LicenseSeal.Proofs.License.Runs

/-!
# Serials of one signature

A signature is accepted under more than one text: the bits that padding leaves over in the last
digit are not looked at, and neither is padding behind whole groups.  Of these texts, the one with
nothing left over is the one that signing writes.
-/

namespace LicenseSeal

/-- Parsing gives a license whose serial is checked with a key against a payload. -/
structure Checks (config : Config) (files : FileSystem) (options : Options) (key : PublicKey)
    (payload : Bytes) (parsed : ParsedLicense) : Prop where
  exists_request : ∃ request, ParseRequest.ofOptions options = .ok request ∧
    request.publicKey files = .ok key
  succeeds : (parse config files options).outcome = .ok parsed
  payload_eq : parsed.data.payload config.names = .ok payload

section Serials

variable {config : Config} {files : FileSystem} {options : Options} {key : PublicKey}
  {payload : Bytes} {parsed : ParsedLicense}

theorem Checks.valid_eq (checks : Checks config files options key payload parsed) :
    parsed.valid = key.verifies payload parsed.serial := by
  obtain ⟨⟨request, accepted, loaded⟩, succeeds, written⟩ := checks
  obtain ⟨request', key', document, extractor, license, accepted', prepared, -, verified⟩ :=
    parse_outcome_eq_ok_iff.mp succeeds
  obtain rfl := Except.ok.inj (accepted.symm.trans accepted')
  have loaded' := (ParseRequest.prepare_eq_ok_iff.mp prepared).2.1
  obtain rfl := Except.ok.inj (loaded.symm.trans loaded')
  obtain ⟨payload', written', rfl⟩ := ExtractedLicense.verified_eq_ok_iff.mp verified
  obtain rfl := Except.ok.inj (written.symm.trans written')
  rfl

theorem Base64.encodeWith_eq_encode_iff {bytes : Bytes} {leftover marks : Nat}
    (leaves : Leaves bytes leftover marks) :
    encodeWith leftover marks bytes = encode bytes ↔ leftover = 0 ∧ marks = 0 := by
  rw [← encodeWith_zero]
  constructor
  · intro same
    exact encodeWith_inj leaves (leaves_zero bytes) same
  · rintro ⟨rfl, rfl⟩
    rfl

/-- A text that decodes to nothing but an accepted signature verifies exactly if it is one of the
texts of this signature. -/
theorem PublicKey.verifies_iff_of_accepts {signature : Bytes} {serial : Text}
    (accepted : key.accepts payload signature = true)
    (noOther : ∀ other, Base64.decode? serial = some other → other = signature) :
    key.verifies payload serial = true ↔
      ∃ leftover marks, Base64.Leaves signature leftover marks ∧
        serial = Base64.encodeWith leftover marks signature := by
  rw [verifies_iff_exists_encodeWith]
  constructor
  · rintro ⟨other, leftover, marks, accepted', leaves, rfl⟩
    have decoded := Base64.decode?_encodeWith leaves fun _ => ne_nil_of_accepts accepted'
    obtain rfl := noOther other decoded
    exact ⟨leftover, marks, leaves, rfl⟩
  · rintro ⟨leftover, marks, leaves, rfl⟩
    exact ⟨signature, leftover, marks, accepted, leaves, rfl⟩

/-- The serials that verify for a payload are the texts of the accepted signatures with any number
in the bits that are left over and any padding behind whole groups.  Two of them that decode to the
same signature are the same exactly if they agree in these, and signing writes the one with nothing
left over.  When the serial of a valid license is altered and decodes to no other signature, the
license stays valid exactly if the altered serial is another text of the signature. -/
theorem accepted_serials (config : Config) (key : PublicKey) (payload : Bytes) :
    (∀ serial, key.verifies payload serial = true ↔
      ∃ signature leftover marks, key.accepts payload signature = true ∧
        Base64.Leaves signature leftover marks ∧
        serial = Base64.encodeWith leftover marks signature) ∧
    (∀ signature leftover marks leftover' marks', Base64.Leaves signature leftover marks →
      Base64.Leaves signature leftover' marks' →
      (Base64.encodeWith leftover marks signature = Base64.encodeWith leftover' marks' signature ↔
        leftover = leftover' ∧ marks = marks') ∧
      (Base64.encodeWith leftover marks signature = Base64.encode signature ↔
        leftover = 0 ∧ marks = 0)) ∧
    (∀ (signing : PrivateKey) serial, signing.serial payload = .ok serial →
      ∃ signature, signing.sign? payload = some signature ∧ serial = Base64.encode signature) ∧
    (∀ files options parsed, Checks config files options key payload parsed →
      parsed.valid = true →
      ∃ signature, Base64.decode? parsed.serial = some signature ∧
        ∀ files' options' parsed', Checks config files' options' key payload parsed' →
          (∀ other, Base64.decode? parsed'.serial = some other → other = signature) →
          (parsed'.valid = true ↔
            ∃ leftover marks, Base64.Leaves signature leftover marks ∧
              parsed'.serial = Base64.encodeWith leftover marks signature)) := by
  refine ⟨fun serial => PublicKey.verifies_iff_exists_encodeWith, ?_, ?_, ?_⟩
  · intro signature leftover marks leftover' marks' leaves leaves'
    refine ⟨?_, Base64.encodeWith_eq_encode_iff leaves⟩
    constructor
    · intro same
      exact Base64.encodeWith_inj leaves leaves' same
    · rintro ⟨rfl, rfl⟩
      rfl
  · intro signing serial signed
    rw [PrivateKey.serial] at signed
    split at signed
    · next signature signs => exact ⟨signature, signs, (Except.ok.inj signed).symm⟩
    · cases signed
  · intro files options parsed checks valid
    rw [checks.valid_eq] at valid
    obtain ⟨signature, leftover, marks, accepted, leaves, written⟩ :=
      PublicKey.verifies_iff_exists_encodeWith.mp valid
    refine ⟨signature, ?_, ?_⟩
    · rw [written]
      exact Base64.decode?_encodeWith leaves fun _ => PublicKey.ne_nil_of_accepts accepted
    · intro files' options' parsed' checks' noOther
      rw [checks'.valid_eq]
      exact PublicKey.verifies_iff_of_accepts accepted noOther

end Serials

namespace Sample

/-- The signature of the payload of two fields. -/
def angledSignature : Bytes := Ed25519.sign seed angledPayload

/-- Two fields with a serial. -/
def twoFields (serial : Text) : ExtractedLicense :=
  ⟨serial, .fields (Fields.ofList [("a".text, .text "x>y".text), ("b".text, .text "true".text)])⟩

def twoFieldsExtractor (serial : Text) : Extractor :=
  .ofForm .function fun _ => .extracted (twoFields serial)

theorem payload_twoFields (template serial : Text) :
    (twoFields serial).data.payload (config template).names = .ok angledPayload := by
  change LicenseData.payload {} (twoFields []).data = .ok angledPayload
  decide +kernel

theorem leaves_angled (leftover : Nat) (less : leftover < 16) :
    Base64.Leaves angledSignature leftover 0 := by
  have verified : Ed25519.verify point angledPayload angledSignature = true := accepts_angled
  rw [Ed25519.verify] at verified
  split at verified
  · next wellSized =>
      have length := of_decide_eq_true (Bool.and_eq_true_iff.mp wellSized).1
      constructor
      · rw [length]
        exact less
      · intro impossible
        exact (impossible rfl).elim
  · cases verified

def parsedTwoFields (serial : Text) : ParsedLicense :=
  ⟨PublicKey.verifies (.ed25519 point) angledPayload serial, serial, (twoFields serial).data⟩

theorem checks_twoFields (template serial : Text) :
    Checks (config template) files (extractingOptions publicKeyText (twoFieldsExtractor serial))
      (.ed25519 point) angledPayload (parsedTwoFields serial) := by
  have accepted := ofOptions_extractingOptions publicKeyText (twoFieldsExtractor serial)
  have prepared := prepare_extracting (config template) (twoFieldsExtractor serial)
  constructor
  · exact ⟨_, accepted, (ParseRequest.prepare_eq_ok_iff.mp prepared).2.1⟩
  · exact parse_outcome_eq_ok_iff.mpr ⟨_, _, _, _, _, accepted, prepared, rfl,
      ExtractedLicense.verified_eq_ok_iff.mpr ⟨_, payload_twoFields template serial, rfl⟩⟩
  · exact payload_twoFields template serial

end Sample

/-- Two serials of one signature, which differ in the last digit, make one license valid. -/
theorem accepted_serials_two_digits :
    ∃ parsed parsed',
      Checks (Sample.config []) Sample.files (Sample.extractingOptions Sample.publicKeyText
        (Sample.twoFieldsExtractor (Base64.encode Sample.angledSignature)))
        (.ed25519 Sample.point) Sample.angledPayload parsed ∧
      Checks (Sample.config []) Sample.files (Sample.extractingOptions Sample.publicKeyText
        (Sample.twoFieldsExtractor (Base64.encodeWith 1 0 Sample.angledSignature)))
        (.ed25519 Sample.point) Sample.angledPayload parsed' ∧
      parsed.valid = true ∧ parsed'.valid = true ∧ parsed.serial ≠ parsed'.serial := by
  obtain ⟨verifies, texts, -, alters⟩ :=
    accepted_serials (Sample.config []) (.ed25519 Sample.point) Sample.angledPayload
  have checks := Sample.checks_twoFields [] (Base64.encode Sample.angledSignature)
  have checks' := Sample.checks_twoFields [] (Base64.encodeWith 1 0 Sample.angledSignature)
  have leaves := Sample.leaves_angled 0 (by decide)
  have leaves' := Sample.leaves_angled 1 (by decide)
  have valid : (Sample.parsedTwoFields (Base64.encode Sample.angledSignature)).valid = true := by
    rw [checks.valid_eq, verifies]
    exact ⟨_, 0, 0, Sample.accepts_angled, leaves, (Base64.encodeWith_zero _).symm⟩
  obtain ⟨signature, decoded, altered⟩ := alters _ _ _ checks valid
  obtain rfl := Option.some.inj ((Base64.decode?_encode _).symm.trans decoded)
  refine ⟨_, _, checks, checks', valid, ?_, ?_⟩
  · refine (altered _ _ _ checks' fun other same => ?_).mpr ⟨1, 0, leaves', rfl⟩
    have decoded' := Base64.decode?_encodeWith leaves' fun impossible => (impossible rfl).elim
    exact (Option.some.inj (decoded'.symm.trans same)).symm
  · intro same
    obtain ⟨impossible, -⟩ := (texts _ 1 0 0 0 leaves' leaves).2.mp same.symm
    cases impossible

/-- Not every serial that verifies is the text that signing writes for its bytes. -/
theorem exists_accepted_serial_not_standard :
    PublicKey.verifies (.ed25519 Sample.point) Sample.angledPayload
        (Base64.encode Sample.angledSignature) = true ∧
      PublicKey.verifies (.ed25519 Sample.point) Sample.angledPayload
        (Base64.encodeWith 1 0 Sample.angledSignature) = true ∧
      Base64.decode? (Base64.encodeWith 1 0 Sample.angledSignature) =
        Base64.decode? (Base64.encode Sample.angledSignature) ∧
      Base64.encodeWith 1 0 Sample.angledSignature ≠ Base64.encode Sample.angledSignature := by
  have leaves := Sample.leaves_angled 1 (by decide)
  refine ⟨PublicKey.verifies_encode Sample.accepts_angled, ?_, ?_, ?_⟩
  · exact PublicKey.verifies_iff_exists_encodeWith.mpr
      ⟨_, 1, 0, Sample.accepts_angled, leaves, rfl⟩
  · rw [Base64.decode?_encode]
    exact Base64.decode?_encodeWith leaves fun impossible => (impossible rfl).elim
  · intro same
    obtain ⟨impossible, -⟩ := (Base64.encodeWith_eq_encode_iff leaves).mp same
    cases impossible

end LicenseSeal
