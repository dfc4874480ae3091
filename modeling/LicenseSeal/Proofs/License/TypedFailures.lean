import LicenseSeal.Proofs.License.Drafts
import LicenseSeal.Proofs.License.Runs

/-!
# How generating and parsing fail

Nearly every failure is an error of licensing of a known family.  What escapes this is listed here,
for a request to generate and for one to parse: a path that cannot be used, a value without a text,
a surrogate in what has to be encoded, an RSA key without room for a digest, an encoding that is
none, tables of the system that fail, and what the code of a caller's extractor raises.
-/

namespace LicenseSeal

/-- A failure that is an error of licensing of one of some families. -/
def Failure.IsTyped (families : List ErrorFamily) (failure : Failure) : Prop :=
  ∃ error : LicenseError, failure = .license error ∧ error.family ∈ families

/-- The failures of generating that are no errors of licensing. -/
inductive GenerateRequest.Untyped (config : Config) (files : FileSystem)
    (request : GenerateRequest) : Failure → Prop where
  /-- The path of the key cannot be used. -/
  | path {path : Path} {fault : PathFault} :
      request.key.path = some path → path.fault? = some fault →
      Untyped config files request (.textFile (.file (.unusable fault)))
  /-- A value of the data has no text, also one that the template does not name. -/
  | value {fields : Fields Value} {entry : Text × Value} {error : Uncoercible} :
      Outline.fieldsOf config.names request = .ok fields → entry ∈ fields.entries →
      entry.2.coerced = .error error → Untyped config files request (.uncoercible error)
  /-- The key's text holds a surrogate. -/
  | key {text : Text} {error : Encoding.EncodeError} :
      request.key.content = some (.text text) → Encoding.Utf8.encode text = .error error →
      Untyped config files request (.unencodable error)
  /-- The password holds a surrogate. -/
  | password {password : Text} {error : Encoding.EncodeError} :
      request.password = some password → Encoding.Utf8.encode password = .error error →
      Untyped config files request (.unencodable error)
  /-- What is signed holds a surrogate. -/
  | payload {draft : Draft} {error : Encoding.EncodeError} :
      Draft.ofRequest config request = .ok draft → draft.payload config.names = .error error →
      Untyped config files request (.unencodable error)
  /-- The key has no room for a padded digest. -/
  | smallKey {small : Rsa.PrivateKey} :
      request.privateKey files = .ok (.rsa small) → Rsa.size small.modulus < 62 →
      Untyped config files request (.serial .smallKey)

/-- The failures of parsing that are no errors of licensing. -/
inductive ParseRequest.Untyped (config : Config) (files : FileSystem) (request : ParseRequest) :
    Failure → Prop where
  /-- The path of the key or of the document cannot be used. -/
  | path {path : Path} {fault : PathFault} :
      request.key.path = some path ∨ request.document.path = some path →
      path.fault? = some fault →
      Untyped config files request (.textFile (.file (.unusable fault)))
  /-- The key's text holds a surrogate. -/
  | key {text : Text} {error : Encoding.EncodeError} :
      request.key.content = some (.text text) → Encoding.Utf8.encode text = .error error →
      Untyped config files request (.unencodable error)
  /-- The document is in a file, and the configured encoding decodes nothing into text. -/
  | encoding {path : Path} {error : Encoding.NameError} :
      request.document.path = some path → Encoding.named config.encoding .decode = .error error →
      Untyped config files request (.textFile (.noEncoding error))
  /-- The document is in a file, and the system's tables fail on its bytes. -/
  | tables {path : Path} {bytes : Bytes} {message : Text} :
      request.document.path = some path → files.read path = .ok bytes →
      Encoding.decodeAs files.codecs config.encoding bytes = .error (.bare message) →
      Untyped config files request (.textFile (.bare message))
  /-- The code of the extractor, or of the mapping it gives, raises an exception that is passed
  on. -/
  | raised {key : PublicKey} {document : Text} {extractor : Extractor} {exception : Raised} :
      request.prepare config files = .ok (key, document, extractor) →
      (extractor.extract document = .unreadable exception ∧ exception.kind ≠ .validation ∨
        extractor.extract document = .interrupted exception) →
      Untyped config files request (.raised exception)
  /-- The data that is extracted has no payload. -/
  | payload {key : PublicKey} {document : Text} {extractor : Extractor}
      {license : ExtractedLicense} {error : PayloadError} :
      request.prepare config files = .ok (key, document, extractor) →
      (extractor.extract document).license = .ok license →
      license.data.payload config.names = .error error →
      Untyped config files request (.ofPayload error)

theorem Failure.IsTyped.mono {families families' : List ErrorFamily} {failure : Failure}
    (typed : failure.IsTyped families) (more : ∀ family ∈ families, family ∈ families') :
    failure.IsTyped families' := by
  obtain ⟨error, same, member⟩ := typed
  exact ⟨error, same, more _ member⟩

theorem Failure.isTyped_of_refused {α : Type} {families : List ErrorFamily}
    {error error' : LicenseError} (refused : (.error error : Except LicenseError α) = .error error')
    (member : error.family ∈ families) : (Failure.license error').IsTyped families := by
  obtain rfl := Except.error.inj refused
  exact ⟨error, rfl, member⟩

theorem Failure.isTyped_of_fails {α : Type} {families : List ErrorFamily} {failure : Failure}
    {error : LicenseError} (fails : (.error (.license error) : Except Failure α) = .error failure)
    (member : error.family ∈ families) : failure.IsTyped families := by
  obtain rfl := Except.error.inj fails
  exact ⟨error, rfl, member⟩

theorem FileSystem.fault?_of_read {files : FileSystem} {path : Path} {fault : PathFault}
    (fails : files.read path = .error (.unusable fault)) : path.fault? = some fault := by
  rw [read] at fails
  split at fails
  · next unusable =>
      cases fails
      exact unusable
  · split at fails <;> cases fails

namespace KeyOptions

variable {files : FileSystem} {field : Text} {options : KeyOptions} {failure : Failure}

/-- The failures of reading a key that are no errors of licensing. -/
inductive Untyped (options : KeyOptions) : Failure → Prop where
  | path {path : Path} {fault : PathFault} :
      options.path = some path → path.fault? = some fault →
      Untyped options (.textFile (.file (.unusable fault)))
  | text {text : Text} {error : Encoding.EncodeError} :
      options.content = some (.text text) → Encoding.Utf8.encode text = .error error →
      Untyped options (.unencodable error)

theorem isTyped_of_check (fails : options.check field = .error failure) :
    failure.IsTyped [.input] := by
  rw [check] at fails
  split at fails
  · exact Failure.isTyped_of_fails fails List.mem_cons_self
  · cases fails

theorem failure_of_readFile {path : Path} (given : options.path = some path)
    (fails : readFile files path = .error failure) :
    failure.IsTyped [.key] ∨ options.Untyped failure := by
  rw [readFile] at fails
  split at fails
  · cases fails
  · next unusable =>
      right
      obtain rfl := Except.error.inj fails
      exact .path given (FileSystem.fault?_of_read unusable)
  · left
    exact Failure.isTyped_of_fails fails List.mem_cons_self

theorem failure_of_read (fails : options.read files field = .error failure) :
    failure.IsTyped [.input, .key] ∨ options.Untyped failure := by
  rcases bind_eq_error_iff.mp fails with fails | ⟨_, -, fails⟩
  · left
    exact (isTyped_of_check fails).mono (by decide)
  · split at fails
    · next content given =>
        right
        rcases bind_eq_error_iff.mp fails with undone | ⟨_, -, impossible⟩
        · obtain ⟨error, unencoded, rfl⟩ := mapError_eq_error_iff.mp undone
          cases content with
          | text text => exact .text given unencoded
          | bytes bytes => cases unencoded
        · cases impossible
    · next path _ given =>
        exact (failure_of_readFile given fails).imp_left fun typed => typed.mono (by decide)
    · left
      exact Failure.isTyped_of_fails fails List.mem_cons_self

end KeyOptions

/-! ### Generating -/

/-- Only an RSA key whose modulus has no room for a padded digest signs nothing. -/
theorem PrivateKey.small_of_serial_eq_error {key : PrivateKey} {payload : Bytes}
    {error : SerialError} (unsigned : key.serial payload = .error error) :
    ∃ small : Rsa.PrivateKey, key = .rsa small ∧ Rsa.size small.modulus < 62 := by
  rw [serial] at unsigned
  split at unsigned
  · cases unsigned
  · next none =>
      cases key with
      | ed25519 seed => cases none
      | rsa small =>
          refine ⟨small, rfl, ?_⟩
          have noPadding := Option.map_eq_none_iff.mp none
          rw [Rsa.paddedDigest?] at noPadding
          split at noPadding
          · next less =>
              rw [List.length_append, Sha256.length_digest] at less
              exact less
          · cases noPadding

section Generating

variable {config : Config} {files : FileSystem} {options : Options} {request : GenerateRequest}
  {failure : Failure}

theorem GenerateRequest.isTyped_of_refused {error : LicenseError}
    (refused : ofOptions options = .error error) :
    (Failure.license error).IsTyped [.input] := by
  obtain ⟨cause, -, rfl⟩ := mapError_eq_error_iff.mp refused
  exact ⟨_, rfl, List.mem_cons_self⟩

theorem Outline.isTyped_of_refused {error : LicenseError}
    (refused : ofRequest config request = .error error) :
    (Failure.license error).IsTyped [.input, .template] := by
  rcases bind_eq_error_iff.mp refused with refused | ⟨fields, -, refused⟩
  · rw [fieldsOf] at refused
    split at refused
    · exact Failure.isTyped_of_refused refused List.mem_cons_self
    · split at refused
      · exact Failure.isTyped_of_refused refused List.mem_cons_self
      · split at refused
        · exact Failure.isTyped_of_refused refused List.mem_cons_self
        · simp only at refused
          split at refused
          · exact Failure.isTyped_of_refused refused List.mem_cons_self
          · cases refused
  · simp only at refused
    split at refused
    · cases refused
    · exact Failure.isTyped_of_refused refused (List.mem_cons_of_mem _ List.mem_cons_self)

theorem GenerateRequest.untyped_of_undrafted {outline : Outline} {error : Uncoercible}
    (outlined : Outline.ofRequest config request = .ok outline)
    (undrafted : outline.draft = .error error) :
    request.Untyped config files (.uncoercible error) := by
  obtain ⟨fields, read, -, rfl⟩ := Outline.ofRequest_eq_ok_iff.mp outlined
  obtain ⟨entry, member, uncoercible⟩ :=
    Fields.exists_uncoercible_of_coerced (Outline.draft_eq_error_iff.mp undrafted)
  exact .value read member uncoercible

theorem GenerateRequest.failure_of_privateKey
    (fails : request.privateKey files = .error failure) :
    failure.IsTyped [.input, .key] ∨ request.Untyped config files failure := by
  rcases bind_eq_error_iff.mp fails with unread | ⟨found, -, fails⟩
  · refine (KeyOptions.failure_of_read unread).imp_right fun untyped => ?_
    cases untyped with
    | path given fault => exact .path given fault
    | text given unencoded => exact .key given unencoded
  · rcases bind_eq_error_iff.mp fails with undone | ⟨password, -, unloaded⟩
    · right
      obtain ⟨error, unencoded, rfl⟩ := mapError_eq_error_iff.mp undone
      cases given : request.password with
      | none =>
          rw [given] at unencoded
          cases unencoded
      | some password =>
          rw [given] at unencoded
          cases encodes : Encoding.Utf8.encode password with
          | error error' =>
              rw [Option.mapM_some, encodes] at unencoded
              obtain rfl := Except.error.inj unencoded
              exact .password given encodes
          | ok bytes =>
              rw [Option.mapM_some, encodes] at unencoded
              cases unencoded
    · left
      obtain ⟨error, -, rfl⟩ := mapError_eq_error_iff.mp unloaded
      exact ⟨_, rfl, List.mem_cons_of_mem _ List.mem_cons_self⟩

theorem GenerateRequest.untyped_of_serial {draft : Draft} {key : PrivateKey}
    (drafted : Draft.ofRequest config request = .ok draft)
    (loaded : request.privateKey files = .ok key)
    (unsigned : draft.serial config.names key = .error failure) :
    request.Untyped config files failure := by
  rcases bind_eq_error_iff.mp unsigned with undone | ⟨payload, -, undone⟩
  · obtain ⟨error, unencoded, rfl⟩ := mapError_eq_error_iff.mp undone
    exact .payload drafted unencoded
  · obtain ⟨error, noSerial, rfl⟩ := mapError_eq_error_iff.mp undone
    obtain ⟨small, rfl, less⟩ := PrivateKey.small_of_serial_eq_error noSerial
    cases error
    exact .smallKey loaded less

theorem GenerateRequest.failure_of_run
    (fails : (request.run config files).outcome = .error failure) :
    failure.IsTyped [.input, .template, .key] ∨ request.Untyped config files failure := by
  cases outlined : Outline.ofRequest config request with
  | error error =>
      rw [run_of_refused outlined] at fails
      obtain rfl := Except.error.inj fails
      exact .inl ((Outline.isTyped_of_refused outlined).mono (by decide))
  | ok outline =>
      cases drafted : outline.draft with
      | error error =>
          rw [run_of_uncoercible outlined drafted] at fails
          obtain rfl := Except.error.inj fails
          exact .inr (untyped_of_undrafted outlined drafted)
      | ok draft =>
          cases signed : request.serialOf config files draft with
          | ok serial =>
              rw [run_of_signed outlined drafted signed] at fails
              cases fails
          | error failure' =>
              rw [run_of_unsigned outlined drafted signed] at fails
              obtain rfl := Except.error.inj fails
              rcases bind_eq_error_iff.mp signed with unloaded | ⟨key, loaded, unsigned⟩
              · exact (failure_of_privateKey unloaded).imp_left fun typed =>
                  typed.mono (by decide)
              · have accepted := Draft.ofRequest_eq_ok_iff_outline.mpr ⟨outline, outlined, drafted⟩
                exact .inr (untyped_of_serial accepted loaded unsigned)

end Generating

/-! ### Parsing -/

section Parsing

variable {config : Config} {files : FileSystem} {options : Options} {request : ParseRequest}
  {failure : Failure}

theorem Encoding.named_of_decodeAs {codecs : Codecs} {name : Text} {bytes : Bytes}
    {error : NameError} (fails : decodeAs codecs name bytes = .error (.noEncoding error)) :
    named name .decode = .error error := by
  rw [decodeAs] at fails
  split at fails
  · next unnamed =>
      cases fails
      exact unnamed
  · next unnamed =>
      cases fails
      exact unnamed
  · split at fails
    · cases fails
    · split at fails
      · next unnamed =>
          cases fails
          exact unnamed
      · obtain ⟨cause, -, impossible⟩ := mapError_eq_error_iff.mp fails
        cases cause <;> cases impossible

theorem ParseRequest.failure_of_document
    (fails : request.document.read config.encoding files = .error failure) :
    failure.IsTyped [.input, .corrupted] ∨ request.Untyped config files failure := by
  rw [DocumentOptions.read] at fails
  split at fails
  · cases fails
  · next path _ given =>
      rw [DocumentOptions.readFile] at fails
      split at fails
      · next unusable =>
          right
          obtain rfl := Except.error.inj fails
          exact .path (.inr given) (FileSystem.fault?_of_read unusable)
      · left
        exact Failure.isTyped_of_fails fails List.mem_cons_self
      · next bytes read =>
          split at fails
          · cases fails
          · left
            exact Failure.isTyped_of_fails fails (List.mem_cons_of_mem _ List.mem_cons_self)
          · next undecoded =>
              right
              obtain rfl := Except.error.inj fails
              exact .tables given read undecoded
          · next unnamed =>
              right
              obtain rfl := Except.error.inj fails
              exact .encoding given (Encoding.named_of_decodeAs unnamed)
  · left
    exact Failure.isTyped_of_fails fails List.mem_cons_self

theorem ParseRequest.isTyped_of_check (fails : request.check = .error failure) :
    failure.IsTyped [.input] := by
  rcases bind_eq_error_iff.mp fails with fails | ⟨_, -, fails⟩
  · exact KeyOptions.isTyped_of_check fails
  · split at fails
    · exact Failure.isTyped_of_fails fails List.mem_cons_self
    · cases fails

theorem ParseRequest.failure_of_publicKey (fails : request.publicKey files = .error failure) :
    failure.IsTyped [.input, .key] ∨ request.Untyped config files failure := by
  rcases bind_eq_error_iff.mp fails with unread | ⟨found, -, unloaded⟩
  · refine (KeyOptions.failure_of_read unread).imp_right fun untyped => ?_
    cases untyped with
    | path given fault => exact .path (.inl given) fault
    | text given unencoded => exact .key given unencoded
  · left
    obtain ⟨error, -, rfl⟩ := mapError_eq_error_iff.mp unloaded
    exact ⟨_, rfl, List.mem_cons_of_mem _ List.mem_cons_self⟩

theorem ParseRequest.isTyped_of_unresolved {error : LicenseError}
    (unresolved : request.resolveExtractor config = .error error) :
    (Failure.license error).IsTyped [.input, .template] := by
  rw [resolveExtractor] at unresolved
  split at unresolved
  · cases unresolved
  · exact Failure.isTyped_of_refused unresolved List.mem_cons_self
  · split at unresolved
    · cases unresolved
    · exact Failure.isTyped_of_refused unresolved (List.mem_cons_of_mem _ List.mem_cons_self)

theorem ParseRequest.failure_of_prepare (fails : request.prepare config files = .error failure) :
    failure.IsTyped [.input, .key, .corrupted, .template] ∨
      request.Untyped config files failure := by
  simp only [prepare, bind_eq_error_iff, mapError_eq_error_iff] at fails
  rcases fails with fails | ⟨_, -, fails | ⟨key, -, fails | ⟨document, -, fails | fails⟩⟩⟩
  · exact .inl ((isTyped_of_check fails).mono (by decide))
  · exact (failure_of_publicKey fails).imp_left fun typed => typed.mono (by decide)
  · exact (failure_of_document fails).imp_left fun typed => typed.mono (by decide)
  · obtain ⟨error, unresolved, rfl⟩ := fails
    exact .inl ((isTyped_of_unresolved unresolved).mono (by decide))
  · obtain ⟨extractor, -, impossible⟩ := fails
    cases impossible

/-- An extraction that gives no license ends in an error of licensing or in an exception of the
caller's code. -/
theorem Extraction.failure_of_license {extraction : Extraction}
    (fails : extraction.license = .error failure) :
    (∃ error, failure = .license error) ∨ ∃ exception, failure = .raised exception ∧
      (extraction = .unreadable exception ∧ exception.kind ≠ .validation ∨
        extraction = .interrupted exception) := by
  cases extraction with
  | extracted license => cases fails
  | value given =>
      obtain ⟨problem, -, rfl⟩ := mapError_eq_error_iff.mp fails
      exact .inl ⟨_, rfl⟩
  | unreadable exception =>
      rw [license] at fails
      split at fails
      · exact .inl ⟨_, (Except.error.inj fails).symm⟩
      · next invalid => exact .inr ⟨exception, (Except.error.inj fails).symm, .inl ⟨rfl, invalid⟩⟩
  | refused error => exact .inl ⟨error, (Except.error.inj fails).symm⟩
  | failed kind message => exact .inl ⟨_, (Except.error.inj fails).symm⟩
  | interrupted exception => exact .inr ⟨exception, (Except.error.inj fails).symm, .inr rfl⟩

theorem ExtractedLicense.verified_eq_error_iff {names : FieldNames} {key : PublicKey}
    {license : ExtractedLicense} {error : PayloadError} :
    license.verified names key = .error error ↔ license.data.payload names = .error error := by
  rw [verified]
  cases license.data.payload names <;> simp [bind, Except.bind, pure, Except.pure]

theorem ParseRequest.failure_of_run (fails : (request.run config files).outcome = .error failure) :
    (∃ error, failure = .license error) ∨ request.Untyped config files failure := by
  cases prepared : request.prepare config files with
  | error failure' =>
      rw [run_of_unprepared prepared] at fails
      obtain rfl := Except.error.inj fails
      refine (failure_of_prepare prepared).imp_left fun typed => ?_
      obtain ⟨error, same, -⟩ := typed
      exact ⟨error, same⟩
  | ok found =>
      obtain ⟨key, document, extractor⟩ := found
      rw [outcome_run prepared] at fails
      rcases bind_eq_error_iff.mp fails with unextracted | ⟨license, extracted, unverified⟩
      · refine (Extraction.failure_of_license unextracted).imp_right fun raised => ?_
        obtain ⟨exception, rfl, escapes⟩ := raised
        exact .raised prepared escapes
      · right
        obtain ⟨error, unpayable, rfl⟩ := mapError_eq_error_iff.mp unverified
        exact .payload prepared extracted (ExtractedLicense.verified_eq_error_iff.mp unpayable)

end Parsing

end LicenseSeal
