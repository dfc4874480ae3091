import LicenseSeal.Proofs.CommandLine.CommandResults
import LicenseSeal.Proofs.License.TemplateReading

/-!
# Failures that are not reported

Nearly every failure of a command is to be reported as an error.  Those that are not are a
configuration that is there and cannot be read, a scalar of it with a tag that its text does not
fit, an encoding that gives no text, an output whose path cannot be followed, and what a value's own
code raises.
-/

namespace LicenseSeal

/-! ### Files and encodings -/

theorem FileSystem.exists_read_of_isFile {files : FileSystem} {path : Path}
    (isFile : files.isFile path = true) : ∃ content, files.read path = .ok content := by
  simp only [FileSystem.isFile, pathExists, isDirectory, Bool.and_eq_true, Bool.not_eq_true',
    Bool.and_eq_false_iff, decide_eq_false_iff_not] at isFile
  obtain ⟨⟨usable, found⟩, notDirectory⟩ := isFile
  rw [read, Option.isNone_iff_eq_none.mp usable]
  cases ends : files.lookUp path with
  | error problem =>
      rw [ends] at found
      cases found
  | ok entry =>
      cases entry with
      | file content => exact ⟨content, rfl⟩
      | directory =>
          rw [ends, usable] at notDirectory
          rcases notDirectory with impossible | impossible
          · cases impossible
          · exact (impossible rfl).elim

namespace Encoding

theorem meaning_utf8 : meaning "utf-8".text = .ok (.text .utf8) :=
  eq_ok_of_toOption (by decide +kernel)

theorem named_utf8 (use : Use) : named "utf-8".text use = .ok .utf8 := by
  rw [named, meaning_utf8]

theorem named_error_of_meaning {name : Text} {meant : Meaning} {use : Use} {error : NameError}
    (means : meaning name = .ok meant) (fails : named name use = .error error) :
    error = .noText name use ∨ error = .refused name use := by
  rw [named, means] at fails
  cases meant with
  | text encoding => cases fails
  | transformation => exact .inl (Except.error.inj fails).symm
  | refusal => exact .inr (Except.error.inj fails).symm

end Encoding

namespace FileSystem

variable {files : FileSystem} {path : Path} {name : Text} {error : TextFileError}

theorem readText_error (fails : files.readText path name = .error error) :
    (∃ cause, error = .file cause ∧ files.read path = .error cause) ∨
      (∃ cause, error = .noEncoding cause ∧ Encoding.named name .decode = .error cause) ∨
      (∃ cause, error = .undecodable cause) ∨ ∃ message, error = .bare message := by
  rw [readText] at fails
  split at fails
  · next cause unread => exact .inl ⟨cause, (Except.error.inj fails).symm, unread⟩
  · obtain ⟨cause, undecoded, rfl⟩ := mapError_eq_error_iff.mp fails
    cases cause with
    | noEncoding cause => exact .inr (.inl ⟨cause, rfl, Encoding.named_of_decodeAs undecoded⟩)
    | malformed cause => exact .inr (.inr (.inl ⟨cause, rfl⟩))
    | bare message => exact .inr (.inr (.inr ⟨message, rfl⟩))

theorem readText_error_of_isFile (isFile : files.isFile path = true)
    (fails : files.readText path name = .error error) :
    (∃ cause, error = .noEncoding cause ∧ Encoding.named name .decode = .error cause) ∨
      (∃ cause, error = .undecodable cause) ∨ ∃ message, error = .bare message := by
  rcases readText_error fails with ⟨cause, -, unread⟩ | other
  · obtain ⟨content, read⟩ := exists_read_of_isFile isFile
    rw [read] at unread
    cases unread
  · exact other

theorem readLines_error (fails : files.readLines path = .error error) :
    files.readText path "utf-8".text = .error error := by
  rw [readLines] at fails
  cases ends : files.readText path "utf-8".text with
  | error cause =>
      rw [ends] at fails
      exact fails
  | ok text =>
      rw [ends] at fails
      cases fails

end FileSystem

/-! ### Configurations -/

namespace Config

variable {files : FileSystem} {path : Path} {error : ConfigError}

/-- A failure to load a configuration that is not put down to what was given. -/
def Unreported (error : ConfigError) : Prop :=
  (∃ problem written target, error = .textFile (.file (.refused problem written target))) ∨
    (∃ cause : Yaml.ReadError, error = .badScalar cause ∧ cause.isImproper = false) ∨
    ∃ exception : Raised, error = .uncoercible (.raised exception) ∧ exception.isImproper = false

theorem readEntries_error (fails : readEntries files path = .error error) :
    error.isImproper = true ∨ Unreported error := by
  rw [readEntries] at fails
  split at fails
  · obtain rfl := Except.error.inj fails
    exact .inl rfl
  · next cause _ unread =>
      obtain rfl := Except.error.inj fails
      rcases FileSystem.readText_error (FileSystem.readLines_error unread) with
        ⟨refusal, rfl, -⟩ | ⟨cause, rfl, unnamed⟩ | ⟨cause, rfl⟩ | ⟨message, rfl⟩
      · cases refusal with
        | refused problem written target => exact .inr (.inl ⟨problem, written, target, rfl⟩)
        | unusable fault => exact .inl rfl
      · rw [Encoding.named_utf8] at unnamed
        cases unnamed
      · exact .inl rfl
      · exact .inl rfl
  · split at fails
    · obtain rfl := Except.error.inj fails
      exact .inl rfl
    · next cause _ _ =>
        obtain rfl := Except.error.inj fails
        cases improper : cause.isImproper with
        | true => exact .inl improper
        | false => exact .inr (.inr (.inl ⟨cause, rfl, improper⟩))
    · cases fails
    · obtain rfl := Except.error.inj fails
      exact .inl rfl

theorem encodingName_error {entries : List (Scalar × Value)}
    (fails : encodingName entries = .error error) : error.isImproper = true ∨ Unreported error := by
  rw [encodingName] at fails
  split at fails
  · cases fails
  · obtain ⟨cause, -, rfl⟩ := mapError_eq_error_iff.mp fails
    cases cause with
    | longInteger => exact .inl rfl
    | raised exception =>
        cases improper : exception.isImproper with
        | true => exact .inl improper
        | false => exact .inr (.inr (.inr ⟨exception, rfl, improper⟩))

theorem readTemplate_error {entries : List (Scalar × Value)}
    (fails : readTemplate files entries path = .error error) :
    error.isImproper = true ∨ Unreported error := by
  rw [readTemplate] at fails
  split at fails
  · obtain rfl := Except.error.inj fails
    exact .inl rfl
  · split at fails
    · obtain rfl := Except.error.inj fails
      exact .inl rfl
    · rcases bind_eq_error_iff.mp fails with uncoercible | ⟨name, -, fails⟩
      · exact encodingName_error uncoercible
      · left
        split at fails
        · cases fails
        · obtain rfl := Except.error.inj fails
          rfl
        · obtain rfl := Except.error.inj fails
          rfl
        · next cause _ =>
            split at fails
            · obtain rfl := Except.error.inj fails
              rfl
            · next known =>
                obtain rfl := Except.error.inj fails
                simpa [ConfigError.isImproper, TextFileError.isImproper] using known

theorem withTemplate_error {entries : List (Scalar × Value)}
    (fails : withTemplate files path entries = .error error) :
    error.isImproper = true ∨ Unreported error := by
  rw [withTemplate] at fails
  split at fails
  · cases fails
  · cases fails
  · split at fails
    · obtain rfl := Except.error.inj fails
      exact .inl rfl
    · split at fails
      · rcases bind_eq_error_iff.mp fails with unread | ⟨template, -, impossible⟩
        · exact readTemplate_error unread
        · cases impossible
      · obtain rfl := Except.error.inj fails
        exact .inl rfl

theorem checked_error {entries : List (Scalar × Value)}
    (fails : checked path entries = .error error) : error.isImproper = true := by
  rw [checked] at fails
  split at fails
  · obtain rfl := Except.error.inj fails
    rfl
  · split at fails
    · cases fails
    · next cause _ =>
        split at fails
        · obtain rfl := Except.error.inj fails
          rfl
        · next known =>
            obtain rfl := Except.error.inj fails
            simpa [ConfigError.isImproper, TextFileError.isImproper] using known

theorem loadGiven_error {environment : Option Text} {given : Option Path}
    (fails : loadGiven files environment given = .error error) :
    error.isImproper = true ∨ Unreported error := by
  have load_error {path : Path} (fails : load files path = .error error) :
      error.isImproper = true ∨ Unreported error := by
    simp only [load, bind_eq_error_iff] at fails
    rcases fails with unread | ⟨entries, -, untemplated | ⟨entries', -, unchecked⟩⟩
    · exact readEntries_error unread
    · exact withTemplate_error untemplated
    · exact .inl (checked_error unchecked)
  cases given with
  | some path => exact load_error fails
  | none =>
      rw [loadGiven, loadDefault] at fails
      split at fails
      · cases fails
      · exact load_error fails

theorem exists_meaning_of_loadGiven {environment : Option Text} {given : Option Path}
    {config : Config} (loaded : loadGiven files environment given = .ok config) :
    ∃ meant, Encoding.meaning config.encoding = .ok meant := by
  have load_ok {path : Path} (loaded : load files path = .ok config) :
      ∃ meant, Encoding.meaning config.encoding = .ok meant := by
    simp only [load, bind_eq_ok_iff] at loaded
    obtain ⟨entries, -, entries', -, checks⟩ := loaded
    rw [checked] at checks
    split at checks
    · cases checks
    · split at checks
      · next meant means =>
          obtain rfl := Except.ok.inj checks
          exact ⟨meant, means⟩
      · split at checks <;> cases checks
  cases given with
  | some path => exact load_ok loaded
  | none =>
      rw [loadGiven, loadDefault] at loaded
      split at loaded
      · obtain rfl := Except.ok.inj loaded
        exact ⟨_, Encoding.meaning_utf8⟩
      · exact load_ok loaded

end Config

/-! ### Requests without an extractor of the caller -/

namespace LicenseData

/-- The data is a text or fields of texts, as it is in a document that a template matches. -/
def HasTexts (data : LicenseData) : Prop :=
  (∃ content, data = .text content) ∨ ∃ fields : Fields Text, data = .fields (fields.map Value.text)

theorem HasTexts.exists_signed {data : LicenseData} (texts : data.HasTexts) (names : FieldNames) :
    ∃ signed, data.signed names = .ok signed := by
  rcases texts with ⟨content, rfl⟩ | ⟨fields, rfl⟩
  · exact ⟨_, rfl⟩
  · rw [signed, Fields.coerced_erase (Fields.coerced_map_text fields)]
    exact ⟨_, rfl⟩

/-- Texts have a payload unless one of them holds a surrogate. -/
theorem HasTexts.exists_unencodable {data : LicenseData} (texts : data.HasTexts)
    {names : FieldNames} {error : PayloadError} (unpayable : data.payload names = .error error) :
    ∃ cause, error = .unencodable cause := by
  obtain ⟨signed, signs⟩ := texts.exists_signed names
  rw [payload, signs] at unpayable
  obtain ⟨cause, -, rfl⟩ := mapError_eq_error_iff.mp unpayable
  exact ⟨cause, rfl⟩

end LicenseData

namespace TemplateExtractor

theorem license_extract_toExtractor (extractor : TemplateExtractor) (document : Text) :
    (extractor.toExtractor.extract document).license =
      (extractor.extract document).mapError .license := by
  rw [extract_toExtractor]
  cases extractor.extract document with
  | ok license => rfl
  | error error => rfl

theorem isCorruption_of_extract {extractor : TemplateExtractor} {document : Text}
    {error : LicenseError} (fails : extractor.extract document = .error error) :
    error.family = .corrupted := by
  rw [extract, ofCaptures.eq_def] at fails
  split at fails
  · obtain rfl := Except.error.inj fails
    rfl
  · dsimp only at fails
    split at fails
    · cases fails
    · obtain rfl := Except.error.inj fails
      rfl

theorem hasTexts_of_extract {extractor : TemplateExtractor} {document : Text}
    {license : ExtractedLicense} (succeeds : extractor.extract document = .ok license) :
    license.data.HasTexts := by
  rw [extract, ofCaptures.eq_def] at succeeds
  split at succeeds
  · cases succeeds
  · dsimp only at succeeds
    split at succeeds
    · obtain rfl := Except.ok.inj succeeds
      rw [licenseOf]
      dsimp only
      split
      · exact .inl ⟨_, rfl⟩
      · exact .inr ⟨_, rfl⟩
    · cases succeeds

end TemplateExtractor

namespace ParseRequest

variable {config : Config} {files : FileSystem} {request : ParseRequest} {key : PublicKey}
  {document : Text} {extractor : Extractor} {failure : Failure}

theorem exists_template_extractor (noExtractor : request.extractor = none)
    (prepared : request.prepare config files = .ok (key, document, extractor)) :
    ∃ reading : TemplateExtractor, extractor = reading.toExtractor := by
  obtain ⟨-, -, -, resolves⟩ := prepare_eq_ok_iff.mp prepared
  rw [resolveExtractor, noExtractor] at resolves
  dsimp only at resolves
  split at resolves
  · next reading _ => exact ⟨reading, (Except.ok.inj resolves).symm⟩
  · cases resolves

/-- A template parses nothing because of the options, the key, the template or the document, or in
one of the ways that are listed for the request. -/
theorem failure_of_templateRun (noExtractor : request.extractor = none)
    (fails : (request.run config files).outcome = .error failure) :
    failure.IsTyped [.input, .key, .corrupted, .template] ∨
      request.Untyped config files failure := by
  cases prepared : request.prepare config files with
  | error failure' =>
      rw [run_of_unprepared prepared] at fails
      obtain rfl := Except.error.inj fails
      exact failure_of_prepare prepared
  | ok found =>
      obtain ⟨key, document, extractor⟩ := found
      refine (failure_of_run fails).imp_left ?_
      rintro ⟨error, rfl⟩
      rw [outcome_run prepared] at fails
      obtain ⟨reading, rfl⟩ := exists_template_extractor noExtractor prepared
      rw [TemplateExtractor.license_extract_toExtractor] at fails
      rcases bind_eq_error_iff.mp fails with unextracted | ⟨license, -, unverified⟩
      · obtain ⟨error', extracted, same⟩ := mapError_eq_error_iff.mp unextracted
        cases same
        refine ⟨error, rfl, ?_⟩
        rw [TemplateExtractor.isCorruption_of_extract extracted]
        decide
      · obtain ⟨cause, -, impossible⟩ := mapError_eq_error_iff.mp unverified
        cases cause <;> cases impossible

theorem hasTexts_of_extracted {license : ExtractedLicense} (noExtractor : request.extractor = none)
    (prepared : request.prepare config files = .ok (key, document, extractor))
    (extracted : (extractor.extract document).license = .ok license) : license.data.HasTexts := by
  obtain ⟨reading, rfl⟩ := exists_template_extractor noExtractor prepared
  rw [TemplateExtractor.license_extract_toExtractor, mapError_eq_ok_iff] at extracted
  exact TemplateExtractor.hasTexts_of_extract extracted

theorem hasTexts_of_run {parsed : ParsedLicense} (noExtractor : request.extractor = none)
    (succeeds : (request.run config files).outcome = .ok parsed) : parsed.data.HasTexts := by
  cases prepared : request.prepare config files with
  | error failure =>
      rw [run_of_unprepared prepared] at succeeds
      cases succeeds
  | ok found =>
      obtain ⟨key, document, extractor⟩ := found
      rw [outcome_run prepared] at succeeds
      obtain ⟨license, extracted, verified⟩ := bind_eq_ok_iff.mp succeeds
      obtain ⟨payload, -, rfl⟩ :=
        ExtractedLicense.verified_eq_ok_iff.mp (mapError_eq_ok_iff.mp verified)
      exact hasTexts_of_extracted noExtractor prepared extracted

end ParseRequest

/-! ### Corrupted documents -/

theorem Failure.IsTyped.family_mem {families : List ErrorFamily} {error : LicenseError}
    (typed : (Failure.license error).IsTyped families) : error.family ∈ families := by
  obtain ⟨error', same, member⟩ := typed
  obtain rfl := Failure.license.inj same
  exact member

theorem Encoding.isSurrogate_of_named {name : Text} {use : Use} {encoding : Encoding}
    (stands : named name use = .ok encoding) : ∀ c ∈ name, c.isSurrogate = false := by
  rw [named, meaning] at stands
  cases encodes : Utf8.encode name with
  | error error =>
      rw [encodes] at stands
      cases stands
  | ok bytes => exact (Utf8.encode_eq_ok_iff.mp encodes).1

theorem Encoding.exists_named_of_malformed {codecs : Codecs} {name : Text} {bytes : Bytes}
    {error : DecodeError} (malformed : decodeAs codecs name bytes = .error (.malformed error)) :
    ∃ encoding, named name .decode = .ok encoding := by
  rw [decodeAs] at malformed
  split at malformed
  · cases malformed
  · cases malformed
  · split at malformed
    · cases malformed
    · split at malformed
      · cases malformed
      · next encoding stands => exact ⟨encoding, stands⟩

/-- What is said of a corrupted document can be printed. -/
def Corruption.IsPlain (problem : Corruption) : Prop :=
  ∀ c ∈ problem.message, c.isSurrogate = false

theorem Corruption.isPlain_undecodable {encoding : Text}
    (plain : ∀ c ∈ encoding, c.isSurrogate = false) : (undecodable encoding).IsPlain := by
  intro c member
  rcases List.mem_append.mp member with fixed | named
  · exact String.isSurrogate_of_mem_text fixed
  · exact plain c named

theorem Text.isSurrogate_of_mem_ofNat {number : Nat} {c : CodePoint}
    (member : c ∈ Text.ofNat number) : c.isSurrogate = false := by
  obtain ⟨digit, -, rfl⟩ := List.mem_map.mp member
  rfl

theorem Corruption.isPlain_tokenCount (expected actual : Nat) :
    (tokenCount expected actual).IsPlain := by
  intro c member
  simp only [message, List.mem_append] at member
  rcases member with ((fixed | number) | fixed) | number
  · exact String.isSurrogate_of_mem_text fixed
  · exact Text.isSurrogate_of_mem_ofNat number
  · exact String.isSurrogate_of_mem_text fixed
  · exact Text.isSurrogate_of_mem_ofNat number

theorem TemplateExtractor.exists_corruption_of_extract {extractor : TemplateExtractor}
    {document : Text} {error : LicenseError} (fails : extractor.extract document = .error error) :
    ∃ problem, error = .corrupted problem ∧ problem.IsPlain := by
  rw [extract, ofCaptures.eq_def] at fails
  split at fails
  · obtain rfl := Except.error.inj fails
    exact ⟨_, rfl, fun c member => String.isSurrogate_of_mem_text member⟩
  · dsimp only at fails
    split at fails
    · cases fails
    · obtain rfl := Except.error.inj fails
      exact ⟨_, rfl, Corruption.isPlain_tokenCount _ _⟩

namespace ParseRequest

variable {config : Config} {files : FileSystem} {request : ParseRequest} {error : LicenseError}

theorem Untyped.ne_license {failure : Failure} (untyped : request.Untyped config files failure)
    (error : LicenseError) : failure ≠ .license error := by
  intro same
  cases untyped with
  | @payload _ _ _ _ cause _ _ _ => cases cause <;> cases same
  | _ => cases same

theorem exists_corruption_of_document (corruption : error.family = .corrupted)
    (fails : request.document.read config.encoding files = .error (.license error)) :
    ∃ problem, error = .corrupted problem ∧ problem.IsPlain := by
  rw [DocumentOptions.read] at fails
  split at fails
  · cases fails
  · rw [DocumentOptions.readFile] at fails
    split at fails
    · cases fails
    · cases fails
      cases corruption
    · split at fails
      · cases fails
      · next malformed =>
          obtain ⟨encoding, stands⟩ := Encoding.exists_named_of_malformed malformed
          cases fails
          exact ⟨_, rfl, Corruption.isPlain_undecodable (Encoding.isSurrogate_of_named stands)⟩
      · cases fails
      · cases fails
  · cases fails
    cases corruption

theorem exists_corruption_of_prepare (corruption : error.family = .corrupted)
    (fails : request.prepare config files = .error (.license error)) :
    ∃ problem, error = .corrupted problem ∧ problem.IsPlain := by
  have otherwise {families : List ErrorFamily} (typed : (Failure.license error).IsTyped families)
      (absent : ErrorFamily.corrupted ∉ families) :
      ∃ problem, error = .corrupted problem ∧ problem.IsPlain :=
    absurd (corruption ▸ typed.family_mem) absent
  simp only [prepare, bind_eq_error_iff, mapError_eq_error_iff] at fails
  rcases fails with fails | ⟨_, -, fails | ⟨key, -, fails | ⟨document, -, fails | fails⟩⟩⟩
  · exact otherwise (isTyped_of_check fails) (by decide)
  · rcases @failure_of_publicKey config _ _ _ fails with typed | untyped
    · exact otherwise typed (by decide)
    · exact absurd rfl (untyped.ne_license error)
  · exact exists_corruption_of_document corruption fails
  · obtain ⟨error, unresolved, same⟩ := fails
    obtain rfl := Failure.license.inj same
    exact otherwise (isTyped_of_unresolved unresolved) (by decide)
  · obtain ⟨extractor, -, impossible⟩ := fails
    cases impossible

/-- A template that parses nothing because the document is corrupted says so in a text that can be
printed. -/
theorem exists_corruption_of_templateRun (noExtractor : request.extractor = none)
    (corruption : error.family = .corrupted)
    (fails : (request.run config files).outcome = .error (.license error)) :
    ∃ problem, error = .corrupted problem ∧ problem.IsPlain := by
  cases prepared : request.prepare config files with
  | error failure =>
      rw [run_of_unprepared prepared] at fails
      obtain rfl := Except.error.inj fails
      exact exists_corruption_of_prepare corruption prepared
  | ok found =>
      obtain ⟨key, document, extractor⟩ := found
      rw [outcome_run prepared] at fails
      obtain ⟨reading, rfl⟩ := exists_template_extractor noExtractor prepared
      rw [TemplateExtractor.license_extract_toExtractor] at fails
      rcases bind_eq_error_iff.mp fails with unextracted | ⟨license, -, unverified⟩
      · obtain ⟨error', extracted, same⟩ := mapError_eq_error_iff.mp unextracted
        obtain rfl := Failure.license.inj same
        exact TemplateExtractor.exists_corruption_of_extract extracted
      · obtain ⟨cause, -, impossible⟩ := mapError_eq_error_iff.mp unverified
        cases cause <;> cases impossible

end ParseRequest

namespace CommandLine

open Run

/-- The failures that a command does not report: a configuration that is there and cannot be read, a
scalar of it with a tag that its text does not fit, an encoding that gives no text, a path that is
too long to be followed, and an exception of a value's own code that does not call the value
improper. -/
inductive Escapes : Failure → Prop where
  | unreadableConfig (problem : FileProblem) (written : Text) (target : Option Text) :
      Escapes (.config (.textFile (.file (.refused problem written target))))
  | badScalar {error : Yaml.ReadError} : error.isImproper = false →
      Escapes (.config (.badScalar error))
  | noText (name : Text) (use : Encoding.Use) :
      Escapes (.textFile (.noEncoding (.noText name use)))
  | unfollowed (path : Text) : Escapes (.textFile (.file (.refused .nameTooLong path none)))
  | raised {exception : Raised} : exception.isImproper = false →
      Escapes (.uncoercible (.raised exception))
  | raisedConfig {exception : Raised} : exception.isImproper = false →
      Escapes (.config (.uncoercible (.raised exception)))

variable {files : FileSystem} {config : Config} {failure : Failure} {environment : Option Text}

theorem Escapes.not_reported (escapes : Escapes failure) : isReported failure = false := by
  cases escapes with
  | badScalar improper => exact improper
  | raised improper => exact improper
  | raisedConfig improper => exact improper
  | _ => rfl

theorem Escapes.not_improper (escapes : Escapes failure) : failure.isImproper = false := by
  cases escapes with
  | badScalar improper => exact improper
  | raised improper => exact improper
  | raisedConfig improper => exact improper
  | _ => rfl

theorem Escapes.ne_license (escapes : Escapes failure) (error : LicenseError) :
    failure ≠ .license error := by
  rintro rfl
  cases escapes

theorem isReported_of_isTyped (typed : failure.IsTyped [.input, .template, .key]) :
    isReported failure = true := by
  obtain ⟨error, rfl, member⟩ := typed
  rw [isReported]
  simp only [List.mem_cons, List.not_mem_nil, or_false] at member
  rcases member with same | same | same <;> rw [same]

theorem reported_or_escapes_of_noEncoding {error : Encoding.NameError} {use : Encoding.Use}
    (known : ∃ meant, Encoding.meaning config.encoding = .ok meant)
    (unnamed : Encoding.named config.encoding use = .error error) :
    isReported (.textFile (.noEncoding error)) = true ∨
      Escapes (.textFile (.noEncoding error)) := by
  obtain ⟨meant, means⟩ := known
  rcases Encoding.named_error_of_meaning means unnamed with rfl | rfl
  · exact .inr (.noText _ _)
  · exact .inl rfl

theorem reported_or_escapes_of_config {path : Option Path}
    (fails : (Config.loadGiven files environment path).mapError Failure.config = .error failure) :
    isReported failure = true ∨ Escapes failure := by
  obtain ⟨error, unloaded, rfl⟩ := mapError_eq_error_iff.mp fails
  rcases Config.loadGiven_error unloaded with improper | ⟨problem, written, target, rfl⟩ |
    ⟨cause, rfl, improper⟩ | ⟨exception, rfl, improper⟩
  · exact .inl improper
  · exact .inr (.unreadableConfig problem written target)
  · exact .inr (.badScalar improper)
  · exact .inr (.raisedConfig improper)

theorem reported_or_escapes_of_text {path : Path}
    (known : ∃ meant, Encoding.meaning config.encoding = .ok meant)
    (isFile : files.isFile path = true)
    (fails : (files.readText path config.encoding).mapError Failure.textFile = .error failure) :
    isReported failure = true ∨ Escapes failure := by
  obtain ⟨error, unread, rfl⟩ := mapError_eq_error_iff.mp fails
  rcases FileSystem.readText_error_of_isFile isFile unread with ⟨cause, rfl, unnamed⟩ |
    ⟨cause, rfl⟩ | ⟨message, rfl⟩
  · exact reported_or_escapes_of_noEncoding known unnamed
  · exact .inl rfl
  · exact .inl rfl

theorem reported_or_escapes_of_template {template : Option Path}
    (known : ∃ meant, Encoding.meaning config.encoding = .ok meant)
    (isFile : ∀ path, template = some path → files.isFile path = true)
    (fails : templateOf files config template = .error failure) :
    isReported failure = true ∨ Escapes failure := by
  cases template with
  | none => cases fails
  | some path =>
      rcases bind_eq_error_iff.mp fails with fails | ⟨text, -, impossible⟩
      · exact reported_or_escapes_of_text known (isFile path rfl) fails
      · cases impossible

theorem reported_of_loadData {path : Path} {error : DataError} (isFile : files.isFile path = true)
    (fails : loadData files path = .error error) : isReported (.data error) = true := by
  rw [loadData] at fails
  split at fails
  · next cause unread =>
      obtain rfl := Except.error.inj fails
      rcases FileSystem.readText_error_of_isFile isFile (FileSystem.readLines_error unread) with
        ⟨cause', rfl, unnamed⟩ | ⟨cause', rfl⟩ | ⟨message, rfl⟩
      · rw [Encoding.named_utf8] at unnamed
        cases unnamed
      · rfl
      · rfl
  · split at fails
    · obtain rfl := Except.error.inj fails
      rfl
    · obtain rfl := Except.error.inj fails
      rfl
    · split at fails
      · cases fails
      · obtain rfl := Except.error.inj fails
        rfl

/-! ### Results of commands -/

/-- The files that a command reads its data and its template from are there. -/
def GenerateCommand.FilesThere (files : FileSystem) (command : GenerateCommand) : Prop :=
  (∀ path, command.dataFile = some path → files.isFile path = true) ∧
    ∀ path, command.template = some path → files.isFile path = true

theorem reported_or_escapes_of_untyped {request : GenerateRequest}
    (untyped : request.Untyped config files failure) :
    isReported failure = true ∨ Escapes failure := by
  cases untyped with
  | @value fields entry error _ _ _ =>
      cases error with
      | longInteger => exact .inl rfl
      | raised exception =>
          cases improper : exception.isImproper with
          | true => exact .inl improper
          | false => exact .inr (.raised improper)
  | _ => exact .inl rfl

theorem GenerateCommand.reported_or_escapes {command : GenerateCommand}
    (there : command.FilesThere files)
    (fails : command.result environment files = .error failure) :
    isReported failure = true ∨ Escapes failure := by
  rcases bind_eq_error_iff.mp fails with unfollowed | ⟨taken, -, fails⟩
  · rw [outputTaken] at unfollowed
    split at unfollowed
    · cases unfollowed
    · obtain ⟨error, tooLong, rfl⟩ := mapError_eq_error_iff.mp unfollowed
      obtain ⟨path, rfl⟩ := FileSystem.eq_refused_of_pathTaken tooLong
      exact .inr (.unfollowed path)
  simp only [produced, bind_eq_error_iff, mapError_eq_ok_iff] at fails
  rcases fails with unloaded |
    ⟨config, loaded, noData | ⟨data, -, noTemplate | ⟨template, -, rest⟩⟩⟩
  · exact reported_or_escapes_of_config unloaded
  · left
    rw [dataOf] at noData
    split at noData
    · cases noData
    · next path given =>
        rcases bind_eq_error_iff.mp noData with unread | ⟨fields, -, impossible⟩
        · obtain ⟨error, unloaded, rfl⟩ := mapError_eq_error_iff.mp unread
          exact reported_of_loadData (there.1 path given) unloaded
        · cases impossible
  · exact reported_or_escapes_of_template (Config.exists_meaning_of_loadGiven loaded) there.2
      noTemplate
  · rcases rest with ungenerated | ⟨document, -, impossible⟩
    · rcases GenerateRequest.failure_of_run ungenerated with typed | untyped
      · exact .inl (isReported_of_isTyped typed)
      · exact reported_or_escapes_of_untyped untyped
    · cases impossible

theorem reported_or_escapes_of_unparsed {request : ParseRequest}
    (noExtractor : request.extractor = none)
    (known : ∃ meant, Encoding.meaning config.encoding = .ok meant)
    (untyped : request.Untyped config files failure) :
    isReported failure = true ∨ Escapes failure := by
  cases untyped with
  | path _ _ => exact .inl rfl
  | key _ _ => exact .inl rfl
  | encoding _ unnamed => exact reported_or_escapes_of_noEncoding known unnamed
  | tables _ _ _ => exact .inl rfl
  | @raised key document extractor exception prepared escapes =>
      -- A template raises nothing.
      obtain ⟨reading, rfl⟩ := ParseRequest.exists_template_extractor noExtractor prepared
      rw [TemplateExtractor.extract_toExtractor] at escapes
      cases ends : reading.extract document <;> simp [ends] at escapes
  | payload prepared extracted unpayable =>
      have texts := ParseRequest.hasTexts_of_extracted noExtractor prepared extracted
      obtain ⟨cause, rfl⟩ := texts.exists_unencodable unpayable
      exact .inl rfl

theorem ParseCommand.corrupted_or_reported_or_escapes {command : ParseCommand}
    (there : ∀ path, command.template = some path → files.isFile path = true)
    (fails : command.result environment files = .error failure) :
    (∃ error : LicenseError, failure = .license error ∧ error.isCorruption = true) ∨
      isReported failure = true ∨ Escapes failure := by
  simp only [result, bind_eq_error_iff, mapError_eq_ok_iff] at fails
  rcases fails with unloaded | ⟨config, loaded, noTemplate | ⟨template, -, unparsed⟩⟩
  · exact .inr (reported_or_escapes_of_config unloaded)
  · exact .inr (reported_or_escapes_of_template (Config.exists_meaning_of_loadGiven loaded) there
      noTemplate)
  · rcases ParseRequest.failure_of_templateRun rfl unparsed with ⟨error, rfl, member⟩ | untyped
    · by_cases corrupted : error.family = .corrupted
      · exact .inl ⟨error, rfl, decide_eq_true corrupted⟩
      · refine .inr (.inl (isReported_of_isTyped ⟨error, rfl, ?_⟩))
        simp only [List.mem_cons, List.not_mem_nil, or_false] at member ⊢
        tauto
    · exact .inr (reported_or_escapes_of_unparsed rfl
        (Config.exists_meaning_of_loadGiven loaded) untyped)

theorem InspectCommand.reported_or_escapes {command : InspectCommand}
    (there : files.isFile command.template = true)
    (fails : command.result environment files = .error failure) :
    isReported failure = true ∨ Escapes failure := by
  simp only [result, bind_eq_error_iff] at fails
  rcases fails with unloaded | ⟨config, loaded, noTemplate | ⟨template, -, impossible⟩⟩
  · exact reported_or_escapes_of_config unloaded
  · exact reported_or_escapes_of_text
      (Config.exists_meaning_of_loadGiven (mapError_eq_ok_iff.mp loaded)) there noTemplate
  · cases impossible

/-- A command that inspects has nothing to do with licenses. -/
theorem InspectCommand.isReported_eq_isImproper {command : InspectCommand}
    (fails : command.result environment files = .error failure) :
    isReported failure = failure.isImproper := by
  simp only [result, bind_eq_error_iff, mapError_eq_error_iff] at fails
  rcases fails with ⟨error, -, rfl⟩ | ⟨config, -, ⟨error, -, rfl⟩ | ⟨template, -, impossible⟩⟩
  · rfl
  · rfl
  · cases impossible

end CommandLine

end LicenseSeal
