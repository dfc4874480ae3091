import LicenseSeal.Proofs.License.Outcome

/-!
# Runs of generating and parsing

A call as a whole: its events and how it ends.  Each way of ending is one statement, from which the
events of any call can be told.
-/

namespace LicenseSeal

section Results

variable {α β ε ε' : Type} {first : Except ε α} {second : α → Except ε β}

theorem bind_eq_ok_iff {result : β} :
    (first >>= second) = .ok result ↔
      ∃ between, first = .ok between ∧ second between = .ok result := by
  cases first with
  | error error => simp [bind, Except.bind]
  | ok between => simp [bind, Except.bind]

theorem bind_eq_error_iff {error : ε} :
    (first >>= second) = .error error ↔
      first = .error error ∨ ∃ between, first = .ok between ∧ second between = .error error := by
  cases first with
  | error error => simp [bind, Except.bind]
  | ok between => simp [bind, Except.bind]

theorem mapError_eq_error_iff {image : ε → ε'} {error : ε'} :
    first.mapError image = .error error ↔ ∃ cause, first = .error cause ∧ image cause = error := by
  cases first with
  | error cause => simp
  | ok result => simp

end Results

namespace Traced

variable {α β : Type} {first : Traced α} {second : α → Traced β}

theorem bind_of_ok {result : α} (succeeds : first.outcome = .ok result) :
    (first >>= second) =
      ⟨first.events ++ (second result).events, (second result).outcome⟩ := by
  change first.andThen second = _
  simp only [andThen, succeeds]

theorem bind_of_error {failure : Failure} (fails : first.outcome = .error failure) :
    (first >>= second) = ⟨first.events, .error failure⟩ := by
  change first.andThen second = _
  simp only [andThen, fails]

@[simp] theorem events_of (outcome : Except Failure α) : (of outcome).events = [] :=
  rfl

@[simp] theorem events_ofLicense (outcome : Except LicenseError α) :
    (ofLicense outcome).events = [] :=
  rfl

theorem ofLicense_bind_of_ok {accepted : α} {outcome : Except LicenseError α}
    (succeeds : outcome = .ok accepted) : (ofLicense outcome >>= second) = second accepted := by
  rw [bind_of_ok (congrArg (Except.mapError Failure.license) succeeds), events_ofLicense,
    List.nil_append]

theorem ofLicense_bind_of_error {error : LicenseError} {outcome : Except LicenseError α}
    (fails : outcome = .error error) :
    (ofLicense outcome >>= second) = ⟨[], .error (.license error)⟩ :=
  bind_of_error (congrArg (Except.mapError Failure.license) fails)

theorem of_bind_of_ok {accepted : α} {outcome : Except Failure α}
    (succeeds : outcome = .ok accepted) : (of outcome >>= second) = second accepted := by
  rw [bind_of_ok succeeds, events_of, List.nil_append]

theorem of_bind_of_error {failure : Failure} {outcome : Except Failure α}
    (fails : outcome = .error failure) : (of outcome >>= second) = ⟨[], .error failure⟩ :=
  bind_of_error fails

theorem report_bind (events : List Event) (second : Unit → Traced β) :
    (report events >>= second) = ⟨events ++ (second ()).events, (second ()).outcome⟩ :=
  rfl

end Traced

/-- The outline of a call, made before the data is coerced. -/
def Options.outline (config : Config) (options : Options) : Except LicenseError Outline := do
  let request ← GenerateRequest.ofOptions options
  Outline.ofRequest config request

section Generating

variable {config : Config} {files : FileSystem} {options : Options} {request : GenerateRequest}
  {outline : Outline} {draft : Draft}

/-- The serial that a request gives a draft: the key is loaded and signs. -/
def GenerateRequest.serialOf (config : Config) (files : FileSystem) (request : GenerateRequest)
    (draft : Draft) : Except Failure Text := do
  let key ← request.privateKey files
  draft.serial config.names key

theorem GenerateRequest.serialOf_eq_ok_iff {serial : Text} :
    request.serialOf config files draft = .ok serial ↔
      ∃ key, request.privateKey files = .ok key ∧ draft.serial config.names key = .ok serial :=
  bind_eq_ok_iff

theorem GenerateRequest.run_of_refused {error : LicenseError}
    (refused : Outline.ofRequest config request = .error error) :
    request.run config files = ⟨[], .error (.license error)⟩ :=
  Traced.ofLicense_bind_of_error refused

theorem GenerateRequest.run_of_uncoercible {error : Uncoercible}
    (outlined : Outline.ofRequest config request = .ok outline)
    (uncoercible : outline.draft = .error error) :
    request.run config files = ⟨outline.events, .error (.uncoercible error)⟩ := by
  rw [run, Traced.ofLicense_bind_of_ok outlined, Traced.report_bind,
    Traced.of_bind_of_error (congrArg (Except.mapError Failure.uncoercible) uncoercible),
    List.append_nil]

theorem GenerateRequest.run_of_unsigned {failure : Failure}
    (outlined : Outline.ofRequest config request = .ok outline)
    (drafted : outline.draft = .ok draft)
    (unsigned : request.serialOf config files draft = .error failure) :
    request.run config files =
      ⟨outline.events ++ draft.events config.names, .error failure⟩ := by
  rw [run, Traced.ofLicense_bind_of_ok outlined, Traced.report_bind,
    Traced.of_bind_of_ok (mapError_eq_ok_iff.mpr drafted), Traced.report_bind]
  rcases bind_eq_error_iff.mp unsigned with unread | ⟨key, loaded, unsigned⟩
  · rw [Traced.of_bind_of_error unread, List.append_nil]
  · rw [Traced.of_bind_of_ok loaded, Traced.of_bind_of_error unsigned, List.append_nil]

theorem GenerateRequest.run_of_signed {serial : Text}
    (outlined : Outline.ofRequest config request = .ok outline)
    (drafted : outline.draft = .ok draft)
    (signed : request.serialOf config files draft = .ok serial) :
    request.run config files =
      ⟨outline.events ++ (draft.events config.names ++
          [.generateDone draft.signedFields.size (draft.document config.names serial).length]),
        .ok (draft.document config.names serial)⟩ := by
  obtain ⟨key, loaded, signs⟩ := serialOf_eq_ok_iff.mp signed
  rw [run, Traced.ofLicense_bind_of_ok outlined, Traced.report_bind,
    Traced.of_bind_of_ok (mapError_eq_ok_iff.mpr drafted), Traced.report_bind,
    Traced.of_bind_of_ok loaded, Traced.of_bind_of_ok signs, Traced.report_bind]
  rfl

theorem GenerateRequest.run_congr {files' : FileSystem} {request' : GenerateRequest}
    (sameOutline : Outline.ofRequest config request = Outline.ofRequest config request')
    (sameKey : request.privateKey files = request'.privateKey files') :
    request.run config files = request'.run config files' := by
  rw [run, run, sameOutline, sameKey]

theorem generate_of_refused {error : LicenseError}
    (refused : GenerateRequest.ofOptions options = .error error) :
    generate config files options = ⟨[], .error (.license error)⟩ :=
  Traced.ofLicense_bind_of_error refused

theorem generate_of_accepted (accepted : GenerateRequest.ofOptions options = .ok request) :
    generate config files options = request.run config files :=
  Traced.ofLicense_bind_of_ok accepted

theorem Options.outline_eq_ok_iff :
    options.outline config = .ok outline ↔
      ∃ request, GenerateRequest.ofOptions options = .ok request ∧
        Outline.ofRequest config request = .ok outline :=
  bind_eq_ok_iff

theorem generate_of_unoutlined {error : LicenseError}
    (unoutlined : options.outline config = .error error) :
    generate config files options = ⟨[], .error (.license error)⟩ := by
  rcases bind_eq_error_iff.mp unoutlined with refused | ⟨request, accepted, refused⟩
  · exact generate_of_refused refused
  · rw [generate_of_accepted accepted, GenerateRequest.run_of_refused refused]

end Generating

section Parsing

variable {config : Config} {files : FileSystem} {options : Options} {request : ParseRequest}
  {key : PublicKey} {document : Text} {extractor : Extractor}

/-- What is reported of an extraction: that it finds the document corrupted. -/
def Extraction.reported (strategy : Text) : Extraction → List Event
  | .refused error => if error.isCorruption then [.parseCorrupted strategy error.name] else []
  | _ => []

theorem Extractor.traced_eq (extractor : Extractor) (document : Text) :
    extractor.traced document =
      ⟨(extractor.extract document).reported extractor.strategy,
        (extractor.extract document).license⟩ := by
  rw [traced]
  cases extractor.extract document with
  | refused error =>
      rw [Extraction.reported]
      simp only
      split <;> rfl
  | extracted license => rfl
  | value given => rfl
  | unreadable exception => rfl
  | failed kind message => rfl
  | interrupted exception => rfl

theorem Extraction.reported_eq_nil {extraction : Extraction} {license : ExtractedLicense}
    (found : extraction.license = .ok license) (strategy : Text) :
    extraction.reported strategy = [] := by
  cases extraction with
  | refused error => cases found
  | extracted license' => rfl
  | value given => rfl
  | unreadable exception => rfl
  | failed kind message => rfl
  | interrupted exception => rfl

/-- The key and the document of a request, which do not depend on how it reads the document. -/
def ParseRequest.material (config : Config) (files : FileSystem) (request : ParseRequest) :
    Except Failure (PublicKey × Text) := do
  request.check
  let key ← request.publicKey files
  let document ← request.document.read config.encoding files
  return (key, document)

/-- The extractor is resolved last. -/
theorem ParseRequest.prepare_eq :
    request.prepare config files =
      request.material config files >>= fun found =>
        ((request.resolveExtractor config).mapError .license).map fun extractor =>
          (found.1, found.2, extractor) := by
  rw [prepare, material]
  cases request.check with
  | error failure => rfl
  | ok _ =>
      cases request.publicKey files with
      | error failure => rfl
      | ok key =>
          cases request.document.read config.encoding files with
          | error failure => rfl
          | ok document =>
              cases request.resolveExtractor config <;> rfl

theorem ParseRequest.prepare_of_missing {failure : Failure}
    (missing : request.material config files = .error failure) :
    request.prepare config files = .error failure := by
  rw [prepare_eq, missing]
  rfl

theorem ParseRequest.prepare_of_found
    (found : request.material config files = .ok (key, document)) :
    request.prepare config files =
      ((request.resolveExtractor config).mapError .license).map fun extractor =>
        (key, document, extractor) := by
  rw [prepare_eq, found]
  rfl

theorem ParseRequest.material_congr {config' : Config} {request' : ParseRequest}
    (sameEncoding : config.encoding = config'.encoding)
    (sameDocument : request.document = request'.document) (sameKey : request.key = request'.key) :
    request.material config files = request'.material config' files := by
  rw [material, material, check, check, publicKey, publicKey, sameEncoding, sameDocument, sameKey]

theorem ParseRequest.run_congr {config' : Config} {files' : FileSystem} {request' : ParseRequest}
    (sameNames : config.names = config'.names)
    (samePrepared : request.prepare config files = request'.prepare config' files') :
    request.run config files = request'.run config' files' := by
  rw [run, run, samePrepared, sameNames]

theorem ParseRequest.prepare_eq_ok_iff :
    request.prepare config files = .ok (key, document, extractor) ↔
      request.check = .ok () ∧ request.publicKey files = .ok key ∧
        request.document.read config.encoding files = .ok document ∧
        request.resolveExtractor config = .ok extractor := by
  simp only [prepare, bind_eq_ok_iff, mapError_eq_ok_iff, pure, Except.pure, Except.ok.injEq,
    Prod.mk.injEq]
  constructor
  · rintro ⟨⟨⟩, checked, key', loaded, document', read, extractor', resolved, rfl, rfl, rfl⟩
    exact ⟨checked, loaded, read, resolved⟩
  · rintro ⟨checked, loaded, read, resolved⟩
    exact ⟨(), checked, key, loaded, document, read, extractor, resolved, rfl, rfl, rfl⟩

theorem ParseRequest.run_of_unprepared {failure : Failure}
    (unprepared : request.prepare config files = .error failure) :
    request.run config files = ⟨[], .error failure⟩ :=
  Traced.of_bind_of_error unprepared

/-- Without a license to verify, parsing ends as the extraction does. -/
theorem ParseRequest.run_of_unextracted {failure : Failure}
    (prepared : request.prepare config files = .ok (key, document, extractor))
    (unextracted : (extractor.extract document).license = .error failure) :
    request.run config files =
      ⟨.parseStart extractor.strategy ::
          (extractor.extract document).reported extractor.strategy,
        .error failure⟩ := by
  rw [run, Traced.of_bind_of_ok prepared]
  simp only [Traced.report_bind]
  rw [Extractor.traced_eq, Traced.bind_of_error unextracted]
  rfl

theorem ParseRequest.run_of_unpayable {license : ExtractedLicense} {error : PayloadError}
    (prepared : request.prepare config files = .ok (key, document, extractor))
    (extracted : (extractor.extract document).license = .ok license)
    (unpayable : license.verified config.names key = .error error) :
    request.run config files =
      ⟨[.parseStart extractor.strategy], .error (.ofPayload error)⟩ := by
  rw [run, Traced.of_bind_of_ok prepared]
  simp only [Traced.report_bind]
  rw [Extractor.traced_eq, Traced.bind_of_ok extracted, Extraction.reported_eq_nil extracted,
    Traced.of_bind_of_error (congrArg (Except.mapError Failure.ofPayload) unpayable)]
  rfl

theorem ParseRequest.run_of_verified {license : ExtractedLicense} {parsed : ParsedLicense}
    (prepared : request.prepare config files = .ok (key, document, extractor))
    (extracted : (extractor.extract document).license = .ok license)
    (verified : license.verified config.names key = .ok parsed) :
    request.run config files =
      ⟨[.parseStart extractor.strategy,
          .parseDone extractor.strategy parsed.valid parsed.data.fieldCount], .ok parsed⟩ := by
  rw [run, Traced.of_bind_of_ok prepared]
  simp only [Traced.report_bind]
  rw [Extractor.traced_eq, Traced.bind_of_ok extracted, Extraction.reported_eq_nil extracted,
    Traced.of_bind_of_ok (mapError_eq_ok_iff.mpr verified)]
  rfl

/-- How a prepared request ends depends on what is extracted and on the key. -/
theorem ParseRequest.outcome_run
    (prepared : request.prepare config files = .ok (key, document, extractor)) :
    (request.run config files).outcome =
      (extractor.extract document).license >>= fun license =>
        (license.verified config.names key).mapError .ofPayload := by
  cases extracted : (extractor.extract document).license with
  | error failure =>
      rw [run_of_unextracted prepared extracted]
      rfl
  | ok license =>
      change _ = (license.verified config.names key).mapError Failure.ofPayload
      cases verified : license.verified config.names key with
      | error error =>
          rw [run_of_unpayable prepared extracted verified]
          rfl
      | ok parsed =>
          rw [run_of_verified prepared extracted verified]
          rfl

theorem parse_of_refused {error : LicenseError}
    (refused : ParseRequest.ofOptions options = .error error) :
    parse config files options = ⟨[], .error (.license error)⟩ :=
  Traced.ofLicense_bind_of_error refused

theorem parse_of_accepted (accepted : ParseRequest.ofOptions options = .ok request) :
    parse config files options = request.run config files :=
  Traced.ofLicense_bind_of_ok accepted

/-- Parsing succeeds exactly if a license is extracted from what the request prepares and its data
has a payload, and gives this license as it is verified. -/
theorem parse_outcome_eq_ok_iff {parsed : ParsedLicense} :
    (parse config files options).outcome = .ok parsed ↔
      ∃ request key document extractor license, ParseRequest.ofOptions options = .ok request ∧
        request.prepare config files = .ok (key, document, extractor) ∧
        (extractor.extract document).license = .ok license ∧
        license.verified config.names key = .ok parsed := by
  constructor
  · intro succeeds
    cases accepted : ParseRequest.ofOptions options with
    | error error =>
        rw [parse_of_refused accepted] at succeeds
        cases succeeds
    | ok request =>
        rw [parse_of_accepted accepted] at succeeds
        cases prepared : request.prepare config files with
        | error failure =>
            rw [ParseRequest.run_of_unprepared prepared] at succeeds
            cases succeeds
        | ok found =>
            obtain ⟨key, document, extractor⟩ := found
            rw [ParseRequest.outcome_run prepared, bind_eq_ok_iff] at succeeds
            obtain ⟨license, extracted, verified⟩ := succeeds
            exact ⟨request, key, document, extractor, license, rfl, prepared, extracted,
              mapError_eq_ok_iff.mp verified⟩
  · rintro ⟨request, key, document, extractor, license, accepted, prepared, extracted, verified⟩
    rw [parse_of_accepted accepted, ParseRequest.run_of_verified prepared extracted verified]

end Parsing

namespace Sample

/-- Options with an empty document, the content of a key and an extractor. -/
def extractingOptions (key : Text) (extractor : Extractor) : Options :=
  Fields.ofList [("document".text, .value (.text [])), ("public_key".text, .value (.text key)),
    ("extractor".text, .extractor extractor)]

theorem ofOptions_extractingOptions (key : Text) (extractor : Extractor) :
    ParseRequest.ofOptions (extractingOptions key extractor) =
      .ok ⟨⟨some [], none⟩, ⟨some (.text key), none⟩, none, some (.extractor extractor)⟩ :=
  rfl

theorem prepare_extracting (config : Config) (extractor : Extractor) :
    ParseRequest.prepare config files
        ⟨⟨some [], none⟩, ⟨some (.text publicKeyText), none⟩, none, some (.extractor extractor)⟩ =
      .ok (.ed25519 point, [], extractor) := by
  have visible : publicKeyText.all Text.isBlank = false := by decide +kernel
  have found := KeyOptions.read_text visible "public_key".text encode_publicKeyText files
  exact ParseRequest.prepare_eq_ok_iff.mpr
    ⟨ParseRequest.check_eq_ok (KeyOptions.check_text visible _) rfl,
      ParseRequest.publicKey_eq_ok found (load_publicKeyText _), rfl, rfl⟩

end Sample

end LicenseSeal
