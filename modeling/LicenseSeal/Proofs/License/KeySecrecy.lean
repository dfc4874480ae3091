import LicenseSeal.Proofs.Encoding.Utf8RoundTrip
import LicenseSeal.Proofs.License.Drafts
import LicenseSeal.Proofs.License.OptionAgreement
import LicenseSeal.Proofs.License.Runs
import LicenseSeal.Proofs.License.TamperEvidence
import LicenseSeal.Proofs.License.TypedFailures

/-!
# Secrecy of keys

What a call reports does not depend on the key that it is given by content, nor on the password.  Of
two generating calls that differ in these only, the events are the same up to the last one, which is
there exactly if the call succeeds and which depends on the length of the serial only.  How such a
call fails does not depend on them either, unless one of them holds a surrogate, which the failure
then tells.  Two parsing calls that differ in the public key only end alike but for the validity.
-/

namespace LicenseSeal

/-! ### Content without a key -/

section Unreadable

variable {content : Bytes} (noDash : 0x2D ∉ content)

include noDash

theorem PrivateKey.read_of_no_dash (password : Option Bytes) :
    PrivateKey.read content password = .error .invalid := by
  have noCut := Pem.cut?_eq_none noDash
  have noBlocks : Pem.blocks? content = some [] := by
    rw [Pem.blocks?]
    cases content.length with
    | zero => rfl
    | succ fuel =>
        rw [Pem.cuts, noCut]
        rfl
  have noKey : Key.privateBlock? content = none := by
    rw [Key.privateBlock?, noBlocks]
    rfl
  rw [PrivateKey.read, noKey]

theorem PublicKey.read_of_no_dash : PublicKey.read content = .error .invalid := by
  have noBlock : Pem.firstBlock? content = none := by
    rw [Pem.firstBlock?, Pem.cut?_eq_none noDash]
    rfl
  rw [PublicKey.read, PrivateKey.read_of_no_dash noDash, noBlock]
  split <;> rfl

end Unreadable

namespace KeyContent

variable {content : KeyContent}

theorem not_mem_dash_of_isBlank {bytes : Bytes} (blank : content.isBlank = true)
    (encodes : content.bytesOf = .ok bytes) : 0x2D ∉ bytes := by
  intro member
  cases content with
  | text content =>
      obtain ⟨-, rfl⟩ := Encoding.Utf8.encode_eq_ok_iff.mp encodes
      obtain ⟨c, present, byte⟩ := List.mem_flatMap.mp member
      have dash : c = .char '-' := by
        have code := Encoding.Utf8.toNat_eq_of_mem_encodeChar byte (by decide)
        rw [← CodePoint.ofNat_toNat c, code]
        rfl
      subst dash
      have impossible := List.all_eq_true.mp blank _ present
      exact absurd impossible (by decide)
  | bytes content =>
      obtain rfl := Except.ok.inj encodes
      have impossible := List.all_eq_true.mp blank _ member
      exact absurd impossible (by decide)

/-- Content that is a public key. -/
def Loads (content : KeyContent) (key : PublicKey) : Prop :=
  ∃ bytes, content.bytesOf = .ok bytes ∧
    PublicKey.load bytes "inline public_key".text = .ok key

/-- A key that loads is not blank: blanks begin no block. -/
theorem Loads.isBlank_eq_false {key : PublicKey} (loads : content.Loads key) :
    content.isBlank = false := by
  obtain ⟨bytes, encodes, loaded⟩ := loads
  apply eq_false_of_ne_true
  intro blank
  rw [PublicKey.load, PublicKey.read_of_no_dash (not_mem_dash_of_isBlank blank encodes)] at loaded
  cases loaded

/-- The private key that is loaded from content that a call gives. -/
def privateKey (content : KeyContent) (password : Option Text) : Except Failure PrivateKey := do
  let bytes ← content.bytesOf.mapError .unencodable
  let secret ← (password.mapM Encoding.Utf8.encode).mapError .unencodable
  (PrivateKey.load bytes secret "inline private_key".text).mapError fun error =>
    .license (.key error)

/-- Content and password that have bytes but are no private key. -/
def Unreadable (content : KeyContent) (password : Option Text) : Prop :=
  ∃ bytes secret, content.bytesOf = .ok bytes ∧
    password.mapM Encoding.Utf8.encode = .ok secret ∧
    PrivateKey.read bytes secret = .error .invalid

/-- Content and password of which the first one that has no bytes fails with an error. -/
inductive Unencodable (content : KeyContent) (password : Option Text) :
    Encoding.EncodeError → Prop where
  | content {error : Encoding.EncodeError} : content.bytesOf = .error error →
      Unencodable content password error
  | password {bytes : Bytes} {error : Encoding.EncodeError} : content.bytesOf = .ok bytes →
      password.mapM Encoding.Utf8.encode = .error error → Unencodable content password error

end KeyContent

namespace KeyOptions

variable {content : KeyContent} (visible : content.isBlank = false) (field : Text)

include visible

theorem problem?_some (path : Option Path) :
    problem? field ⟨some content, path⟩ = path.map fun _ => .keyTwice field := by
  cases path with
  | none => simp only [problem?, visible, Bool.false_eq_true, if_false, Option.map_none]
  | some path => rfl

theorem read_some (files : FileSystem) :
    KeyOptions.read files field ⟨some content, none⟩ =
      (content.bytesOf.mapError .unencodable).map fun bytes =>
        ⟨bytes, "inline ".text ++ field⟩ := by
  have checked : check field ⟨some content, none⟩ = .ok () := by
    rw [check, problem?_some visible]
    rfl
  rw [KeyOptions.read, checked]
  simp only [bind, Except.bind]
  cases content.bytesOf <;> rfl

end KeyOptions

/-! ### Generating -/

/-- The options give a private key by content, and a readable password or none. -/
structure Options.InlinePrivateKey (options : Options) (content : KeyContent)
    (password : Option Text) : Prop where
  given : options.key "private_key".text = .ok (some content)
  visible : content.isBlank = false
  unlocks : options.text "private_key_password".text = .ok password

/-- A call reports some events, and, if it succeeds, one more about its document.  The length of the
document is that of the document without the serials, and that of each serial in it. -/
structure ReportsWith (opening : List Event) (count base times : Nat) (config : Config)
    (files : FileSystem) (options : Options) : Prop where
  failed : ∀ failure, (generate config files options).outcome = .error failure →
    (generate config files options).events = opening
  succeeded : ∀ document, (generate config files options).outcome = .ok document →
    (generate config files options).events = opening ++ [.generateDone count document.length] ∧
      ∃ draft key serial, Issues config files options draft key serial ∧
        document.length = base + times * serial.length

theorem Segment.length_flatMap_rendered_put (fields : Fields Text) (name text : Text)
    (segments : List Segment) :
    (segments.flatMap (rendered (fields.put name text))).length =
      (segments.flatMap (rendered (fields.put name []))).length +
        (segments.filterMap name?).count name * text.length := by
  induction segments with
  | nil => simp
  | cons segment segments ih =>
      simp only [List.flatMap_cons, List.length_append, ih]
      cases segment with
      | literal literal =>
          simp only [rendered, List.filterMap_cons, name?]
          omega
      | token other raw =>
          simp only [rendered, List.filterMap_cons, name?, Fields.get?_put]
          by_cases same : name = other
          · subst same
            simp only [if_true, Option.getD_some, List.length_nil, List.count_cons_self,
              Nat.add_mul]
            omega
          · have uncounted : ¬ (other == name) = true := by simpa using Ne.symm same
            simp only [if_neg same, List.count_cons, uncounted, Bool.false_eq_true, if_false,
              Nat.add_zero]
            omega

theorem Outline.not_mem_events (outline : Outline) (count length : Nat) :
    .generateDone count length ∉ outline.events := by
  simp only [events, List.mem_append]
  rintro (member | member)
  · split at member <;> simp at member
  · simp at member

theorem Draft.not_mem_events (names : FieldNames) (draft : Draft) (count length : Nat) :
    .generateDone count length ∉ draft.events names := by
  simp only [events, List.mem_append]
  rintro (member | member) <;> split at member <;> simp at member

section Generating

variable {config : Config} {files : FileSystem} {options options' : Options}
  {content content' : KeyContent} {password password' : Option Text} {outline : Outline}
  {draft : Draft}

theorem Options.outline_eq_of_agree (config : Config)
    (agree : AgreeBut GenerateRequest.secretNames options options')
    (inline : options.InlinePrivateKey content password)
    (inline' : options'.InlinePrivateKey content' password') :
    options.outline config = options'.outline config := by
  rcases GenerateRequest.ofOptions_of_agree agree inline.given inline'.given inline.unlocks
    inline'.unlocks with ⟨error, refused, refused'⟩ | ⟨data, path, template, accepted, accepted'⟩
  · rw [Options.outline, Options.outline, refused, refused']
  · rw [Options.outline, Options.outline, accepted, accepted']
    change Outline.ofRequest config _ = Outline.ofRequest config _
    simp only [Outline.ofRequest, Outline.fieldsOf, KeyOptions.problem?_some inline.visible,
      KeyOptions.problem?_some inline'.visible]

theorem GenerateRequest.privateKey_of_inline {request : GenerateRequest}
    (inline : options.InlinePrivateKey content password)
    (accepted : ofOptions options = .ok request)
    (outlined : Outline.ofRequest config request = .ok outline) :
    request.privateKey files = content.privateKey password := by
  rcases ofOptions_of_agree rfl inline.given inline.given inline.unlocks inline.unlocks with
    ⟨error, refused, -⟩ | ⟨data, path, template, read, -⟩
  · rw [accepted] at refused
    cases refused
  · obtain rfl := Except.ok.inj (read.symm.trans accepted)
    obtain ⟨fields, fieldsRead, -⟩ := Outline.ofRequest_eq_ok_iff.mp outlined
    obtain ⟨-, -, -, unproblematic, -⟩ := Outline.fieldsOf_eq_ok_iff.mp fieldsRead
    rw [KeyOptions.problem?_some inline.visible, Option.map_eq_none_iff] at unproblematic
    subst unproblematic
    rw [privateKey, KeyOptions.read_some inline.visible, KeyContent.privateKey]
    cases content.bytesOf <;> rfl

theorem Draft.reportsWith (outlined : options.outline config = .ok outline)
    (drafted : outline.draft = .ok draft) :
    ReportsWith (outline.events ++ draft.events config.names) draft.signedFields.size
      (draft.document config.names []).length
      ((Template.scan draft.template).names.count config.names.serial) config files options := by
  obtain ⟨request, accepted, outlined⟩ := Options.outline_eq_ok_iff.mp outlined
  constructor
  · intro failure fails
    rw [generate_of_accepted accepted] at fails ⊢
    cases signed : request.serialOf config files draft with
    | error failure' => rw [GenerateRequest.run_of_unsigned outlined drafted signed]
    | ok serial =>
        rw [GenerateRequest.run_of_signed outlined drafted signed] at fails
        cases fails
  · intro document succeeds
    rw [generate_of_accepted accepted] at succeeds ⊢
    cases signed : request.serialOf config files draft with
    | error failure =>
        rw [GenerateRequest.run_of_unsigned outlined drafted signed] at succeeds
        cases succeeds
    | ok serial =>
        rw [GenerateRequest.run_of_signed outlined drafted signed] at succeeds ⊢
        obtain rfl := Except.ok.inj succeeds
        obtain ⟨key, loaded, signs⟩ := GenerateRequest.serialOf_eq_ok_iff.mp signed
        have drafted := Draft.ofRequest_eq_ok_iff_outline.mpr ⟨outline, outlined, drafted⟩
        refine ⟨(List.append_assoc _ _ _).symm, draft, key, serial,
          ⟨⟨request, accepted, drafted, loaded⟩, signs⟩, ?_⟩
        exact Segment.length_flatMap_rendered_put _ _ _ _

theorem reportsWith_of_fails {events : List Event} {failure : Failure}
    (fails : generate config files options = ⟨events, .error failure⟩) :
    ReportsWith events 0 0 0 config files options := by
  constructor
  · intro _ _
    rw [fails]
  · intro document succeeds
    rw [fails] at succeeds
    cases succeeds

theorem generate_of_uncoercible {error : Uncoercible}
    (outlined : options.outline config = .ok outline) (undrafted : outline.draft = .error error) :
    generate config files options = ⟨outline.events, .error (.uncoercible error)⟩ := by
  obtain ⟨request, accepted, outlined⟩ := Options.outline_eq_ok_iff.mp outlined
  rw [generate_of_accepted accepted, GenerateRequest.run_of_uncoercible outlined undrafted]

/-- One list of events opens the reports of all calls that differ in the key and the password
only. -/
theorem exists_reportsWith (inline : options.InlinePrivateKey content password) :
    ∃ opening count base times, (∀ count length, .generateDone count length ∉ opening) ∧
      ∀ options' content' password',
        Options.AgreeBut GenerateRequest.secretNames options options' →
        options'.InlinePrivateKey content' password' →
        ReportsWith opening count base times config files options' := by
  cases outlined : options.outline config with
  | error error =>
      refine ⟨[], 0, 0, 0, fun _ _ => List.not_mem_nil, ?_⟩
      intro options' content' password' agree inline'
      have sameOutline := Options.outline_eq_of_agree config agree inline inline'
      exact reportsWith_of_fails (generate_of_unoutlined (sameOutline.symm.trans outlined))
  | ok outline =>
      cases drafted : outline.draft with
      | error error =>
          refine ⟨outline.events, 0, 0, 0, outline.not_mem_events, ?_⟩
          intro options' content' password' agree inline'
          have sameOutline := Options.outline_eq_of_agree config agree inline inline'
          exact reportsWith_of_fails
            (generate_of_uncoercible (sameOutline.symm.trans outlined) drafted)
      | ok draft =>
          refine ⟨outline.events ++ draft.events config.names, draft.signedFields.size,
            (draft.document config.names []).length,
            (Template.scan draft.template).names.count config.names.serial, ?_, ?_⟩
          · intro count length member
            rcases List.mem_append.mp member with member | member
            · exact outline.not_mem_events _ _ member
            · exact draft.not_mem_events _ _ _ member
          · intro options' content' password' agree inline'
            have sameOutline := Options.outline_eq_of_agree config agree inline inline'
            exact Draft.reportsWith (sameOutline.symm.trans outlined) drafted

theorem generate_of_unloaded {failure : Failure}
    (inline : options.InlinePrivateKey content password)
    (outlined : options.outline config = .ok outline) (drafted : outline.draft = .ok draft)
    (unloaded : content.privateKey password = .error failure) :
    generate config files options =
      ⟨outline.events ++ draft.events config.names, .error failure⟩ := by
  obtain ⟨request, accepted, outlined⟩ := Options.outline_eq_ok_iff.mp outlined
  rw [generate_of_accepted accepted]
  apply GenerateRequest.run_of_unsigned outlined drafted
  rw [GenerateRequest.serialOf, GenerateRequest.privateKey_of_inline inline accepted outlined,
    unloaded]
  rfl

theorem generate_of_unreadable (inline : options.InlinePrivateKey content password)
    (unreadable : content.Unreadable password) (outlined : options.outline config = .ok outline)
    (drafted : outline.draft = .ok draft) :
    generate config files options =
      ⟨outline.events ++ draft.events config.names,
        .error (.license (.key ⟨.invalid .signing, "inline private_key".text⟩))⟩ := by
  obtain ⟨bytes, secret, encodes, unlocks, invalid⟩ := unreadable
  apply generate_of_unloaded inline outlined drafted
  simp only [KeyContent.privateKey, encodes, unlocks, mapError_ok, mapError_error, bind,
    Except.bind, PrivateKey.load, invalid]
  rfl

theorem generate_of_unencodable {error : Encoding.EncodeError}
    (inline : options.InlinePrivateKey content password)
    (unencodable : content.Unencodable password error)
    (outlined : options.outline config = .ok outline) (drafted : outline.draft = .ok draft) :
    generate config files options =
      ⟨outline.events ++ draft.events config.names, .error (.unencodable error)⟩ := by
  apply generate_of_unloaded inline outlined drafted
  cases unencodable with
  | content fails =>
      rw [KeyContent.privateKey, fails]
      rfl
  | password encodes fails =>
      rw [KeyContent.privateKey, encodes, fails]
      rfl

end Generating

/-! ### Parsing -/

/-- The options give a public key by content that loads. -/
structure Options.InlinePublicKey (options : Options) (content : KeyContent) (key : PublicKey) :
    Prop where
  given : options.key "public_key".text = .ok (some content)
  loads : content.Loads key

/-- Two runs that differ in the validity of the license at most. -/
inductive SameButValidity : Traced ParsedLicense → Traced ParsedLicense → Prop where
  | failed (events : List Event) (failure : Failure) :
      SameButValidity ⟨events, .error failure⟩ ⟨events, .error failure⟩
  | parsed (opening : List Event) (strategy : Text) (count : Nat) (serial : Text)
      (data : LicenseData) (valid valid' : Bool) :
      SameButValidity
        ⟨opening ++ [.parseDone strategy valid count], .ok ⟨valid, serial, data⟩⟩
        ⟨opening ++ [.parseDone strategy valid' count], .ok ⟨valid', serial, data⟩⟩

section Parsing

variable {config : Config} {files : FileSystem} {options options' : Options}
  {content content' : KeyContent} {key key' : PublicKey}

theorem ParseRequest.exists_material_eq (config : Config) (files : FileSystem)
    (document : DocumentOptions) (path : Option Path) (template : Option Text)
    (extractor : Option OptionValue)
    (loads : content.Loads key) (loads' : content'.Loads key') :
    ∃ found : Except Failure Text,
      material config files ⟨document, ⟨some content, path⟩, template, extractor⟩ =
        found.map (fun text => (key, text)) ∧
      material config files ⟨document, ⟨some content', path⟩, template, extractor⟩ =
        found.map fun text => (key', text) := by
  have visible := loads.isBlank_eq_false
  have visible' := loads'.isBlank_eq_false
  simp only [material, check, KeyOptions.check, KeyOptions.problem?_some visible,
    KeyOptions.problem?_some visible']
  cases path with
  | some path => exact ⟨.error _, rfl, rfl⟩
  | none =>
      have publicKey_eq {content : KeyContent} {key : PublicKey}
          (visible : content.isBlank = false) (loads : content.Loads key) :
          publicKey files ⟨document, ⟨some content, none⟩, template, extractor⟩ = .ok key := by
        obtain ⟨bytes, encodes, loaded⟩ := loads
        have read := KeyOptions.read_some visible "public_key".text files
        rw [encodes] at read
        exact publicKey_eq_ok read loaded
      rw [publicKey_eq visible loads, publicKey_eq visible' loads']
      cases document.problem? with
      | some problem => exact ⟨.error _, rfl, rfl⟩
      | none =>
          refine ⟨document.read config.encoding files, ?_⟩
          cases document.read config.encoding files with
          | error failure => exact ⟨rfl, rfl⟩
          | ok text => exact ⟨rfl, rfl⟩

theorem ParseRequest.sameButValidity_of_extracted {request request' : ParseRequest} {text : Text}
    {extractor : Extractor} {license : ExtractedLicense}
    (prepared : request.prepare config files = .ok (key, text, extractor))
    (prepared' : request'.prepare config files = .ok (key', text, extractor))
    (extracted : (extractor.extract text).license = .ok license) :
    SameButValidity (request.run config files) (request'.run config files) := by
  cases paid : license.data.payload config.names with
  | error error =>
      rw [run_of_unpayable prepared extracted (ExtractedLicense.verified_eq_error_iff.mpr paid),
        run_of_unpayable prepared' extracted (ExtractedLicense.verified_eq_error_iff.mpr paid)]
      exact .failed _ _
  | ok payload =>
      have verified (key : PublicKey) : license.verified config.names key =
          .ok ⟨key.verifies payload license.serial, license.serial, license.data⟩ := by
        rw [ExtractedLicense.verified, paid]
        rfl
      rw [run_of_verified prepared extracted (verified key),
        run_of_verified prepared' extracted (verified key')]
      exact .parsed [.parseStart extractor.strategy] extractor.strategy
        license.data.fieldCount license.serial license.data _ _

theorem ParseRequest.sameButValidity_run (config : Config) (files : FileSystem)
    (document : DocumentOptions) (path : Option Path) (template : Option Text)
    (extractor : Option OptionValue)
    (loads : content.Loads key) (loads' : content'.Loads key') :
    SameButValidity (run config files ⟨document, ⟨some content, path⟩, template, extractor⟩)
      (run config files ⟨document, ⟨some content', path⟩, template, extractor⟩) := by
  obtain ⟨found, material, material'⟩ :=
    exists_material_eq config files document path template extractor loads loads'
  -- The extractor is resolved without the key.
  have sameResolved :
      resolveExtractor config ⟨document, ⟨some content, path⟩, template, extractor⟩ =
        resolveExtractor config ⟨document, ⟨some content', path⟩, template, extractor⟩ := rfl
  cases found with
  | error failure =>
      rw [run_of_unprepared (prepare_of_missing material),
        run_of_unprepared (prepare_of_missing material')]
      exact .failed _ _
  | ok text =>
      have prepared := prepare_of_found material
      have prepared' := prepare_of_found material'
      rw [sameResolved] at prepared
      cases resolved :
        resolveExtractor config ⟨document, ⟨some content', path⟩, template, extractor⟩ with
      | error error =>
          rw [resolved] at prepared prepared'
          rw [run_of_unprepared prepared, run_of_unprepared prepared']
          exact .failed _ _
      | ok resolved' =>
          rw [resolved] at prepared prepared'
          cases extracted : (resolved'.extract text).license with
          | error error =>
              rw [run_of_unextracted prepared extracted, run_of_unextracted prepared' extracted]
              exact .failed _ _
          | ok license =>
              exact sameButValidity_of_extracted prepared prepared' extracted

theorem parse_sameButValidity (agree : Options.AgreeBut ["public_key".text] options options')
    (inline : options.InlinePublicKey content key)
    (inline' : options'.InlinePublicKey content' key') :
    SameButValidity (parse config files options) (parse config files options') := by
  have reading : Options.AgreeBut ParseRequest.readingNames options options' :=
    agree.mono (by decide)
  have templates := agree.text_eq "template".text (by decide)
  have extractors := agree.given?_eq "extractor".text (by decide)
  rcases ParseRequest.ofOptions_of_agree reading (sameFault_of_ok inline.given inline'.given)
    (sameFault_of_eq templates) with ⟨error, refused, refused'⟩ |
      ⟨document, path, given, given', template, template', key, key', read, read', accepted,
        accepted'⟩
  · rw [parse_of_refused refused, parse_of_refused refused']
    exact .failed _ _
  · obtain rfl := Except.ok.inj (key.symm.trans inline.given)
    obtain rfl := Except.ok.inj (key'.symm.trans inline'.given)
    obtain rfl := Except.ok.inj (read.symm.trans (templates.trans read'))
    rw [extractors] at accepted
    rw [parse_of_accepted accepted, parse_of_accepted accepted']
    apply ParseRequest.sameButValidity_run
    · exact inline.loads
    · exact inline'.loads

end Parsing

/-- All generating calls that agree in everything but a private key that is given by content and
its password report the same events, and after them, exactly if they succeed, one more event that
depends on the serial through its length only.  If the content of two such calls is no key for their
passwords, their runs are the same, and a call that is otherwise acceptable ends with an error that
holds neither.  If the content or the password holds a surrogate, the call ends with a failure that
tells it.  Parsing calls that agree in everything but a public key that loads differ in the validity
of the license only. -/
theorem key_material_secrecy (config : Config) (files : FileSystem) :
    (∀ options content password, Options.InlinePrivateKey options content password →
      ∃ opening count base times, (∀ count length, .generateDone count length ∉ opening) ∧
        ∀ options' content' password',
          Options.AgreeBut GenerateRequest.secretNames options options' →
          options'.InlinePrivateKey content' password' →
          ReportsWith opening count base times config files options') ∧
    (∀ options options' content content' password password',
      Options.AgreeBut GenerateRequest.secretNames options options' →
      options.InlinePrivateKey content password → options'.InlinePrivateKey content' password' →
      content.Unreadable password → content'.Unreadable password' →
      generate config files options = generate config files options' ∧
        ∀ outline draft, options.outline config = .ok outline → outline.draft = .ok draft →
          (generate config files options).outcome =
            .error (.license (.key ⟨.invalid .signing, "inline private_key".text⟩))) ∧
    (∀ options content password error, Options.InlinePrivateKey options content password →
      content.Unencodable password error →
      ∀ outline draft, options.outline config = .ok outline → outline.draft = .ok draft →
        (generate config files options).outcome = .error (.unencodable error)) ∧
    (∀ options options' content content' key key',
      Options.AgreeBut ["public_key".text] options options' →
      options.InlinePublicKey content key → options'.InlinePublicKey content' key' →
      SameButValidity (parse config files options) (parse config files options')) := by
  refine ⟨?_, ?_, ?_, ?_⟩
  · intro options content password inline
    exact exists_reportsWith inline
  · intro options options' content content' password password' agree inline inline' unreadable
      unreadable'
    have sameOutline := Options.outline_eq_of_agree config agree inline inline'
    cases outlined : options.outline config with
    | error error =>
        rw [generate_of_unoutlined outlined,
          generate_of_unoutlined (sameOutline.symm.trans outlined)]
        refine ⟨rfl, ?_⟩
        intro outline draft impossible
        cases impossible
    | ok outline =>
        have outlined' := sameOutline.symm.trans outlined
        cases drafted : outline.draft with
        | error error =>
            rw [generate_of_uncoercible outlined drafted,
              generate_of_uncoercible outlined' drafted]
            refine ⟨rfl, ?_⟩
            rintro _ draft ⟨⟩ impossible
            rw [drafted] at impossible
            cases impossible
        | ok draft =>
            rw [generate_of_unreadable inline unreadable outlined drafted,
              generate_of_unreadable inline' unreadable' outlined' drafted]
            exact ⟨rfl, fun _ _ _ _ => rfl⟩
  · intro options content password error inline unencodable outline draft outlined drafted
    rw [generate_of_unencodable inline unencodable outlined drafted]
  · intro options options' content content' key key' agree inline inline'
    exact parse_sameButValidity agree inline inline'

namespace Sample

def secretOptions (key password : Text) : Options :=
  Fields.ofList [("data".text, .value (.text "x".text)),
    ("private_key".text, .value (.text key)),
    ("private_key_password".text, .value (.text password))]

theorem secretOptions_agree (key key' password password' : Text) :
    Options.AgreeBut GenerateRequest.secretNames (secretOptions key password)
      (secretOptions key' password') :=
  Fields.eq_of_entries_eq rfl

theorem inlinePrivateKey_secretOptions {key : Text} (visible : key.all Text.isBlank = false)
    (password : Text) :
    (secretOptions key password).InlinePrivateKey (.text key) (some password) :=
  ⟨rfl, visible, rfl⟩

theorem extractingOptions_agree (key key' : Text) (extractor : Extractor) :
    Options.AgreeBut ["public_key".text] (extractingOptions key extractor)
      (extractingOptions key' extractor) :=
  Fields.eq_of_entries_eq rfl

theorem inlinePublicKey_extracting {content : Text} {bytes : Bytes} {key : PublicKey}
    (extractor : Extractor) (encodes : Encoding.Utf8.encode content = .ok bytes)
    (loads : PublicKey.load bytes "inline public_key".text = .ok key) :
    (extractingOptions content extractor).InlinePublicKey (.text content) key :=
  ⟨rfl, bytes, encodes, loads⟩

/-- A key pair's public half whose point is zero. -/
def zeroKeyText : Text :=
  ("-----BEGIN PUBLIC KEY-----\n" ++
    "MCowBQYDK2VwAyEAAAAAAAAAAAAAAAAAAAAAAAAAAAAAAAAAAAAAAAAAAAA=\n" ++
    "-----END PUBLIC KEY-----\n").text

theorem encode_zeroKeyText :
    Encoding.Utf8.encode zeroKeyText = .ok (Encoding.Utf8.bytesOf zeroKeyText) :=
  Encoding.Utf8.encode_of_plain fun _ => String.isSurrogate_of_mem_text

theorem load_zeroKeyText (source : Text) :
    PublicKey.load (Encoding.Utf8.bytesOf zeroKeyText) source =
      .ok (.ed25519 (List.replicate 32 0)) := by
  have read : (PublicKey.read (Encoding.Utf8.bytesOf zeroKeyText)).toOption =
      some (.ed25519 (List.replicate 32 0)) := by decide +kernel
  rw [PublicKey.load, eq_ok_of_toOption read]
  rfl

theorem draft_secretOptions (key : Text) (visible : key.all Text.isBlank = false)
    (password : Text) :
    ∃ outline draft, (secretOptions key password).outline (config barred) = .ok outline ∧
      outline.draft = .ok draft := by
  have accepted : GenerateRequest.ofOptions (secretOptions key password) =
      .ok ⟨some (.text "x".text), ⟨some (.text key), none⟩, some password, none⟩ := rfl
  refine ⟨_, _, Options.outline_eq_ok_iff.mpr ⟨_, accepted, Outline.ofRequest_eq_ok_iff.mpr
    ⟨_, Outline.fieldsOf_eq_ok_iff.mpr ⟨_, rfl, rfl, ?_, ?_, rfl⟩, hasSerial_barred, rfl⟩⟩, rfl⟩
  · exact KeyOptions.problem?_text visible _
  · decide

theorem unreadable_text {key : Text} {bytes secret : Bytes} {password : Text}
    (encodes : Encoding.Utf8.encode key = .ok bytes) (noDash : 0x2D ∉ bytes)
    (unlocks : Encoding.Utf8.encode password = .ok secret) :
    (KeyContent.text key).Unreadable (some password) := by
  refine ⟨bytes, some secret, encodes, ?_, PrivateKey.read_of_no_dash noDash _⟩
  rw [Option.mapM_some, unlocks]
  rfl

/-- A key that is a surrogate alone. -/
def surrogateKey : Text := [CodePoint.ofNat 0xD800]

/-- The failure to encode it. -/
def surrogateError : Encoding.EncodeError :=
  ⟨"utf-8", 0, 1, CodePoint.ofNat 0xD800, "surrogates not allowed"⟩

theorem encode_surrogateKey : Encoding.Utf8.encode surrogateKey = .error surrogateError := by
  rfl

end Sample

/-- A key with a password that it does not need and two contents that are no keys open the reports
alike, the latter two fail alike, a surrogate is told, and one extracted license is parsed alike
with two keys. -/
theorem key_material_secrecy_samples :
    (∃ opening count base times,
      ReportsWith opening count base times (Sample.config Sample.barred) Sample.files
        (Sample.secretOptions Sample.privateKeyText "p".text) ∧
      ReportsWith opening count base times (Sample.config Sample.barred) Sample.files
        (Sample.secretOptions "k".text "q".text)) ∧
    (generate (Sample.config Sample.barred) Sample.files
        (Sample.secretOptions "k".text "q".text)).outcome =
      .error (.license (.key ⟨.invalid .signing, "inline private_key".text⟩)) ∧
    generate (Sample.config Sample.barred) Sample.files
        (Sample.secretOptions "k".text "q".text) =
      generate (Sample.config Sample.barred) Sample.files
        (Sample.secretOptions "l".text []) ∧
    (generate (Sample.config Sample.barred) Sample.files
        (Sample.secretOptions Sample.surrogateKey [])).outcome =
      .error (.unencodable Sample.surrogateError) ∧
    ∀ extractor, SameButValidity
      (parse (Sample.config Sample.barred) Sample.files
        (Sample.extractingOptions Sample.publicKeyText extractor))
      (parse (Sample.config Sample.barred) Sample.files
        (Sample.extractingOptions Sample.zeroKeyText extractor)) := by
  obtain ⟨reports, fails, tells, parses⟩ :=
    key_material_secrecy (Sample.config Sample.barred) Sample.files
  have inline : (Sample.secretOptions "k".text "q".text).InlinePrivateKey (.text "k".text)
      (some "q".text) := Sample.inlinePrivateKey_secretOptions (by decide) _
  have inline' : (Sample.secretOptions "l".text []).InlinePrivateKey (.text "l".text)
      (some []) := Sample.inlinePrivateKey_secretOptions (by decide) _
  have visible : Sample.privateKeyText.all Text.isBlank = false := by decide +kernel
  obtain ⟨outline, draft, outlined, drafted⟩ :=
    Sample.draft_secretOptions "k".text (by decide) "q".text
  obtain ⟨outline', draft', outlined', drafted'⟩ :=
    Sample.draft_secretOptions Sample.surrogateKey (by decide) []
  have failure := fails _ _ _ _ _ _ (Sample.secretOptions_agree _ _ _ _) inline inline'
    (Sample.unreadable_text rfl (by decide) rfl) (Sample.unreadable_text rfl (by decide) rfl)
  obtain ⟨opening, count, base, times, -, reports⟩ :=
    reports _ _ _ (Sample.inlinePrivateKey_secretOptions visible "p".text)
  refine ⟨⟨opening, count, base, times, ?_, ?_⟩, failure.2 _ _ outlined drafted, failure.1, ?_, ?_⟩
  · exact reports _ _ _ (Sample.secretOptions_agree _ _ _ _)
      (Sample.inlinePrivateKey_secretOptions visible _)
  · exact reports _ _ _ (Sample.secretOptions_agree _ _ _ _) inline
  · exact tells _ _ _ _ (Sample.inlinePrivateKey_secretOptions (by decide) _)
      (.content Sample.encode_surrogateKey) _ _ outlined' drafted'
  · intro extractor
    exact parses _ _ _ _ _ _ (Sample.extractingOptions_agree _ _ extractor)
      (Sample.inlinePublicKey_extracting extractor Sample.encode_publicKeyText
        (Sample.load_publicKeyText _))
      (Sample.inlinePublicKey_extracting extractor Sample.encode_zeroKeyText
        (Sample.load_zeroKeyText _))

/-- Two contents that are no keys can fail differently: one with an error of licensing, and the
other with one that shows the surrogate it holds. -/
theorem exists_told_key :
    (generate (Sample.config Sample.barred) Sample.files
        (Sample.secretOptions "k".text [])).outcome =
      .error (.license (.key ⟨.invalid .signing, "inline private_key".text⟩)) ∧
    (generate (Sample.config Sample.barred) Sample.files
        (Sample.secretOptions Sample.surrogateKey [])).outcome =
      .error (.unencodable Sample.surrogateError) := by
  obtain ⟨outline, draft, outlined, drafted⟩ :=
    Sample.draft_secretOptions "k".text (by decide) []
  obtain ⟨outline', draft', outlined', drafted'⟩ :=
    Sample.draft_secretOptions Sample.surrogateKey (by decide) []
  rw [generate_of_unreadable (Sample.inlinePrivateKey_secretOptions (by decide) _)
      (Sample.unreadable_text rfl (by decide) rfl) outlined drafted,
    generate_of_unencodable (Sample.inlinePrivateKey_secretOptions (by decide) _)
      (.content Sample.encode_surrogateKey) outlined' drafted']
  exact ⟨rfl, rfl⟩

end LicenseSeal
