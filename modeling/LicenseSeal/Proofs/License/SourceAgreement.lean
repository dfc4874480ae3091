import LicenseSeal.Proofs.Encoding.TextsReadBack
import LicenseSeal.Proofs.FileSystem.AtomicWriting
import LicenseSeal.Proofs.License.KeySecrecy

/-!
# Sources that agree

A key, a document or a template is given as it stands, or by where it can be found.  A call does the
same either way, as long as the same is found there: the bytes of the key, a document that was
written and is read back, the template of the configuration.
-/

namespace LicenseSeal

/-! ### Keys -/

/-- Two runs that are the same, or that end with the same problem of a key from another source. -/
inductive SameButSource {α : Type} : Traced α → Traced α → Prop where
  | same (run : Traced α) : SameButSource run run
  | unusable (events : List Event) (problem : KeyProblem) (source source' : Text) :
      SameButSource ⟨events, .error (.license (.key ⟨problem, source⟩))⟩
        ⟨events, .error (.license (.key ⟨problem, source'⟩))⟩

/-- The bytes of a key are the content of the file at a path. -/
def KeyContent.HeldAt (content : KeyContent) (files : FileSystem) (path : Path) : Prop :=
  ∃ bytes, content.bytesOf = .ok bytes ∧ files.read path = .ok bytes

/-- Two calls agree in all options but for a key that one of them gives by content and the other by
the path of a file with the same bytes. -/
structure Options.KeyInFile (files : FileSystem) (field : Text) (content : KeyContent) (path : Path)
    (inline filed : Options) : Prop where
  agree : AgreeBut [field, field ++ "_path".text] inline filed
  visible : content.isBlank = false
  inlineContent : inline.key field = .ok (some content)
  inlinePath : inline.path (field ++ "_path".text) = .ok none
  filedContent : filed.key field = .ok none
  filedPath : filed.path (field ++ "_path".text) = .ok (some path)
  held : content.HeldAt files path

namespace KeyOptions

theorem check_path (field : Text) (path : Path) : check field ⟨none, some path⟩ = .ok () :=
  rfl

theorem read_inline {content : KeyContent} {bytes : Bytes} (visible : content.isBlank = false)
    (encodes : content.bytesOf = .ok bytes) (field : Text) (files : FileSystem) :
    KeyOptions.read files field ⟨some content, none⟩ = .ok ⟨bytes, "inline ".text ++ field⟩ := by
  rw [read_some visible, encodes]
  rfl

theorem read_path {files : FileSystem} {path : Path} {bytes : Bytes}
    (held : files.read path = .ok bytes) (field : Text) :
    KeyOptions.read files field ⟨none, some path⟩ = .ok ⟨bytes, path.text⟩ := by
  rw [KeyOptions.read, check_path]
  change readFile files path = _
  rw [readFile, held]

end KeyOptions

/-- A fault in the content of a key is the same problem whatever the source. -/
theorem KeyFault.exists_problem (half : KeyHalf) (fault : KeyFault) :
    ∃ problem, ∀ source, fault.error half source = ⟨problem, source⟩ := by
  cases fault <;> exact ⟨_, fun _ => rfl⟩

section Keys

variable {config : Config} {files : FileSystem} {content : KeyContent} {path : Path}
  (visible : content.isBlank = false) (held : content.HeldAt files path)

include visible held

theorem GenerateRequest.privateKey_sources (data : Option LicenseData)
    (password template : Option Text) :
    privateKey files ⟨data, ⟨some content, none⟩, password, template⟩ =
      privateKey files ⟨data, ⟨none, some path⟩, password, template⟩ ∨
    ∃ problem source source',
      privateKey files ⟨data, ⟨some content, none⟩, password, template⟩ =
        .error (.license (.key ⟨problem, source⟩)) ∧
      privateKey files ⟨data, ⟨none, some path⟩, password, template⟩ =
        .error (.license (.key ⟨problem, source'⟩)) := by
  obtain ⟨bytes, encodes, holds⟩ := held
  have inline := KeyOptions.read_inline visible encodes "private_key".text files
  have filed := KeyOptions.read_path holds "private_key".text
  simp only [privateKey, inline, filed, PrivateKey.load, bind, Except.bind]
  cases (password.mapM Encoding.Utf8.encode).mapError Failure.unencodable with
  | error failure => exact .inl rfl
  | ok secret =>
      simp only
      cases PrivateKey.read bytes secret with
      | ok key => exact .inl rfl
      | error fault =>
          obtain ⟨problem, caused⟩ := KeyFault.exists_problem .signing fault
          simp only [mapError_error, caused]
          exact .inr ⟨problem, _, _, rfl, rfl⟩

omit held in
theorem Outline.ofRequest_sources (config : Config) (path : Path) (data : Option LicenseData)
    (password template : Option Text) :
    Outline.ofRequest config ⟨data, ⟨some content, none⟩, password, template⟩ =
      Outline.ofRequest config ⟨data, ⟨none, some path⟩, password, template⟩ := by
  have proper := KeyOptions.problem?_some visible "private_key".text none
  rw [ofRequest, ofRequest, fieldsOf, fieldsOf, proper]
  rfl

theorem GenerateRequest.run_sources (data : Option LicenseData)
    (password template : Option Text) :
    SameButSource (run config files ⟨data, ⟨some content, none⟩, password, template⟩)
      (run config files ⟨data, ⟨none, some path⟩, password, template⟩) := by
  have sameOutline := Outline.ofRequest_sources visible config path data password template
  rcases privateKey_sources visible held data password template with
    sameKey | ⟨problem, source, source', fails, fails'⟩
  · rw [run_congr sameOutline sameKey]
    exact .same _
  · cases outlined : Outline.ofRequest config ⟨data, ⟨none, some path⟩, password, template⟩ with
    | error error =>
        rw [run_of_refused (sameOutline.trans outlined), run_of_refused outlined]
        exact .same _
    | ok outline =>
        have outlined' := sameOutline.trans outlined
        cases drafted : outline.draft with
        | error error =>
            rw [run_of_uncoercible outlined' drafted, run_of_uncoercible outlined drafted]
            exact .same _
        | ok draft =>
            have unsigned : serialOf config files
                ⟨data, ⟨some content, none⟩, password, template⟩ draft =
                .error (.license (.key ⟨problem, source⟩)) := by
              rw [serialOf, fails]
              rfl
            have unsigned' : serialOf config files
                ⟨data, ⟨none, some path⟩, password, template⟩ draft =
                .error (.license (.key ⟨problem, source'⟩)) := by
              rw [serialOf, fails']
              rfl
            rw [run_of_unsigned outlined' drafted unsigned,
              run_of_unsigned outlined drafted unsigned']
            exact .unusable _ _ _ _

theorem ParseRequest.publicKey_sources (document : DocumentOptions) (template : Option Text)
    (extractor : Option OptionValue) :
    (∃ key, publicKey files ⟨document, ⟨some content, none⟩, template, extractor⟩ = .ok key ∧
      publicKey files ⟨document, ⟨none, some path⟩, template, extractor⟩ = .ok key) ∨
    ∃ problem source source',
      publicKey files ⟨document, ⟨some content, none⟩, template, extractor⟩ =
        .error (.license (.key ⟨problem, source⟩)) ∧
      publicKey files ⟨document, ⟨none, some path⟩, template, extractor⟩ =
        .error (.license (.key ⟨problem, source'⟩)) := by
  obtain ⟨bytes, encodes, holds⟩ := held
  have inline := KeyOptions.read_inline visible encodes "public_key".text files
  have filed := KeyOptions.read_path holds "public_key".text
  simp only [publicKey, inline, filed, PublicKey.load, bind, Except.bind]
  cases PublicKey.read bytes with
  | ok key => exact .inl ⟨key, rfl, rfl⟩
  | error fault =>
      obtain ⟨problem, caused⟩ := KeyFault.exists_problem .verifying fault
      simp only [mapError_error, caused]
      exact .inr ⟨problem, _, _, rfl, rfl⟩

theorem ParseRequest.run_sources (document : DocumentOptions) (template : Option Text)
    (extractor : Option OptionValue) :
    SameButSource (run config files ⟨document, ⟨some content, none⟩, template, extractor⟩)
      (run config files ⟨document, ⟨none, some path⟩, template, extractor⟩) := by
  have sameCheck : check ⟨document, ⟨some content, none⟩, template, extractor⟩ =
      check ⟨document, ⟨none, some path⟩, template, extractor⟩ := by
    have proper := KeyOptions.problem?_some visible "public_key".text none
    rw [check, check, KeyOptions.check, KeyOptions.check, proper]
    rfl
  rcases publicKey_sources visible held document template extractor with
    ⟨key, loads, loads'⟩ | ⟨problem, source, source', fails, fails'⟩
  · have samePrepared :
        prepare config files ⟨document, ⟨some content, none⟩, template, extractor⟩ =
          prepare config files ⟨document, ⟨none, some path⟩, template, extractor⟩ := by
      rw [prepare, prepare, sameCheck, loads, loads']
      rfl
    rw [run_congr rfl samePrepared]
    exact .same _
  · cases checked : check ⟨document, ⟨none, some path⟩, template, extractor⟩ with
    | error failure =>
        have stopped : prepare config files ⟨document, ⟨some content, none⟩, template, extractor⟩ =
            .error failure := by
          rw [prepare, sameCheck, checked]
          rfl
        have stopped' : prepare config files ⟨document, ⟨none, some path⟩, template, extractor⟩ =
            .error failure := by
          rw [prepare, checked]
          rfl
        rw [run_of_unprepared stopped, run_of_unprepared stopped']
        exact .same _
    | ok _ =>
        have stopped : prepare config files ⟨document, ⟨some content, none⟩, template, extractor⟩ =
            .error (.license (.key ⟨problem, source⟩)) := by
          rw [prepare, sameCheck, checked, fails]
          rfl
        have stopped' : prepare config files ⟨document, ⟨none, some path⟩, template, extractor⟩ =
            .error (.license (.key ⟨problem, source'⟩)) := by
          rw [prepare, checked, fails']
          rfl
        rw [run_of_unprepared stopped, run_of_unprepared stopped']
        exact .unusable _ _ _ _

end Keys

section KeyCalls

variable {config : Config} {files : FileSystem} {content : KeyContent} {path : Path}
  {inline filed : Options}

theorem generate_keySources
    (given : Options.KeyInFile files "private_key".text content path inline filed) :
    SameButSource (generate config files inline) (generate config files filed) := by
  have data := given.agree.data_eq "data".text (by decide)
  have unlocks := given.agree.text_eq "private_key_password".text (by decide)
  have template := given.agree.text_eq "template".text (by decide)
  have known := given.agree.checkKnown_eq GenerateRequest.optionNames (by decide)
  -- Both calls read the key, in one form or the other, so the first wrong option is another one.
  have faults := GenerateRequest.sameFault_ofOptions (sameFault_of_eq data)
    (sameFault_of_ok given.inlineContent given.filedContent)
    (sameFault_of_ok given.inlinePath given.filedPath) (sameFault_of_eq unlocks)
    (sameFault_of_eq template) known
  rcases faults with ⟨error, refused, refused'⟩ | ⟨request, request', accepted, accepted'⟩
  · rw [generate_of_refused refused, generate_of_refused refused']
    exact .same _
  · rw [generate_of_accepted accepted, generate_of_accepted accepted']
    obtain ⟨data₁, ⟨content₁, path₁⟩, password₁, template₁⟩ := request
    obtain ⟨data₂, ⟨content₂, path₂⟩, password₂, template₂⟩ := request'
    obtain ⟨readData, readContent, readPath, readPassword, readTemplate, -⟩ :=
      GenerateRequest.ofOptions_eq_ok_iff.mp accepted
    obtain ⟨readData', readContent', readPath', readPassword', readTemplate', -⟩ :=
      GenerateRequest.ofOptions_eq_ok_iff.mp accepted'
    obtain rfl := Except.ok.inj (readData.symm.trans (data.trans readData'))
    obtain rfl := Except.ok.inj (readPassword.symm.trans (unlocks.trans readPassword'))
    obtain rfl := Except.ok.inj (readTemplate.symm.trans (template.trans readTemplate'))
    obtain rfl := Except.ok.inj (readContent.symm.trans given.inlineContent)
    obtain rfl := Except.ok.inj (readPath.symm.trans given.inlinePath)
    obtain rfl := Except.ok.inj (readContent'.symm.trans given.filedContent)
    obtain rfl := Except.ok.inj (readPath'.symm.trans given.filedPath)
    exact GenerateRequest.run_sources given.visible given.held data₁ password₁ template₁

theorem parse_keySources
    (given : Options.KeyInFile files "public_key".text content path inline filed) :
    SameButSource (parse config files inline) (parse config files filed) := by
  have document := given.agree.text_eq "document".text (by decide)
  have documentPath := given.agree.path_eq "document_path".text (by decide)
  have template := given.agree.text_eq "template".text (by decide)
  have extractor := given.agree.given?_eq "extractor".text (by decide)
  have known := given.agree.checkKnown_eq ParseRequest.optionNames (by decide)
  have faults := ParseRequest.sameFault_ofOptions (sameFault_of_eq document)
    (sameFault_of_eq documentPath) (sameFault_of_ok given.inlineContent given.filedContent)
    (sameFault_of_ok given.inlinePath given.filedPath) (sameFault_of_eq template) known
  rcases faults with ⟨error, refused, refused'⟩ | ⟨request, request', accepted, accepted'⟩
  · rw [parse_of_refused refused, parse_of_refused refused']
    exact .same _
  · rw [parse_of_accepted accepted, parse_of_accepted accepted']
    obtain ⟨⟨document₁, documentPath₁⟩, ⟨content₁, path₁⟩, template₁, extractor₁⟩ := request
    obtain ⟨⟨document₂, documentPath₂⟩, ⟨content₂, path₂⟩, template₂, extractor₂⟩ := request'
    obtain ⟨readDocument, readDocumentPath, readContent, readPath, readTemplate, -,
      readExtractor⟩ := ParseRequest.ofOptions_eq_ok_iff.mp accepted
    obtain ⟨readDocument', readDocumentPath', readContent', readPath', readTemplate', -,
      readExtractor'⟩ := ParseRequest.ofOptions_eq_ok_iff.mp accepted'
    obtain rfl := Except.ok.inj (readDocument.symm.trans (document.trans readDocument'))
    obtain rfl :=
      Except.ok.inj (readDocumentPath.symm.trans (documentPath.trans readDocumentPath'))
    obtain rfl := Except.ok.inj (readTemplate.symm.trans (template.trans readTemplate'))
    obtain rfl := readExtractor.symm.trans (extractor.trans readExtractor')
    obtain rfl := Except.ok.inj (readContent.symm.trans given.inlineContent)
    obtain rfl := Except.ok.inj (readPath.symm.trans given.inlinePath)
    obtain rfl := Except.ok.inj (readContent'.symm.trans given.filedContent)
    obtain rfl := Except.ok.inj (readPath'.symm.trans given.filedPath)
    exact ParseRequest.run_sources given.visible given.held _ template₁ _

end KeyCalls

/-! ### Documents -/

/-- Two calls agree in all options but for a document that one of them gives by its text and the
other by the path of a file. -/
structure Options.DocumentInFile (text : Text) (path : Path) (inline filed : Options) : Prop where
  agree : AgreeBut ["document".text, "document_path".text] inline filed
  inlineText : inline.text "document".text = .ok (some text)
  inlinePath : inline.path "document_path".text = .ok none
  filedText : filed.text "document".text = .ok none
  filedPath : filed.path "document_path".text = .ok (some path)

theorem DocumentOptions.read_of_written {encoding text : Text} {path : Path}
    {files files' : FileSystem}
    (written : (FileSystem.writeText path text encoding).run.run files = (.ok (), files'))
    (readBack : Encoding.ReadBack files.codecs encoding text) :
    DocumentOptions.read encoding files' ⟨none, some path⟩ = .ok text := by
  obtain ⟨bytes, encodes, held⟩ := FileSystem.read_of_writeComputed written
  have sameCodecs := FileSystem.codecs_of_writeComputed written
  change readFile encoding files' path = _
  simp only [readFile, held, sameCodecs, readBack bytes encodes]

theorem KeyOptions.read_congr {files files' : FileSystem} {options : KeyOptions}
    (same : ∀ path, options.path = some path → files.read path = files'.read path)
    (field : Text) : options.read files field = options.read files' field := by
  rw [KeyOptions.read, KeyOptions.read]
  obtain ⟨content, path⟩ := options
  cases content with
  | some content => rfl
  | none =>
      cases path with
      | none => rfl
      | some path => simp only [readFile, same path rfl]

/-- A run does the same with the text of a document and with the path of the file that it is read
from. -/
theorem ParseRequest.run_documentSources {config : Config} {before after : FileSystem}
    {text : Text} {path : Path} {key : KeyOptions} (template : Option Text)
    (extractor : Option OptionValue)
    (read : DocumentOptions.read config.encoding after ⟨none, some path⟩ = .ok text)
    (sameKey : ∀ path, key.path = some path → before.read path = after.read path) :
    run config before ⟨⟨some text, none⟩, key, template, extractor⟩ =
      run config after ⟨⟨none, some path⟩, key, template, extractor⟩ := by
  have sameFound : publicKey before ⟨⟨some text, none⟩, key, template, extractor⟩ =
      publicKey after ⟨⟨none, some path⟩, key, template, extractor⟩ := by
    rw [publicKey, publicKey, KeyOptions.read_congr sameKey]
  refine run_congr rfl ?_
  rw [prepare, prepare, sameFound, read]
  rfl

/-- Parsing does the same with the text of a document and with the path of the file that it was
written to. -/
theorem parse_documentSources {config : Config} {files before after : FileSystem} {text : Text}
    {path : Path} {inline filed : Options} (given : Options.DocumentInFile text path inline filed)
    (written : (FileSystem.writeText path text config.encoding).run.run files = (.ok (), after))
    (readBack : Encoding.ReadBack files.codecs config.encoding text)
    (sameKey : ∀ keyPath, filed.path "public_key_path".text = .ok (some keyPath) →
      before.read keyPath = after.read keyPath) :
    parse config before inline = parse config after filed := by
  have key := given.agree.key_eq "public_key".text (by decide)
  have keyPath := given.agree.path_eq "public_key_path".text (by decide)
  have template := given.agree.text_eq "template".text (by decide)
  have extractor := given.agree.given?_eq "extractor".text (by decide)
  have known := given.agree.checkKnown_eq ParseRequest.optionNames (by decide)
  have faults := ParseRequest.sameFault_ofOptions
    (sameFault_of_ok given.inlineText given.filedText)
    (sameFault_of_ok given.inlinePath given.filedPath) (sameFault_of_eq key)
    (sameFault_of_eq keyPath) (sameFault_of_eq template) known
  rcases faults with ⟨error, refused, refused'⟩ | ⟨request, request', accepted, accepted'⟩
  · rw [parse_of_refused refused, parse_of_refused refused']
  · rw [parse_of_accepted accepted, parse_of_accepted accepted']
    obtain ⟨⟨document₁, documentPath₁⟩, ⟨content₁, path₁⟩, template₁, extractor₁⟩ := request
    obtain ⟨⟨document₂, documentPath₂⟩, ⟨content₂, path₂⟩, template₂, extractor₂⟩ := request'
    obtain ⟨readDocument, readDocumentPath, readContent, readPath, readTemplate, -,
      readExtractor⟩ := ParseRequest.ofOptions_eq_ok_iff.mp accepted
    obtain ⟨readDocument', readDocumentPath', readContent', readPath', readTemplate', -,
      readExtractor'⟩ := ParseRequest.ofOptions_eq_ok_iff.mp accepted'
    obtain rfl := Except.ok.inj (readContent.symm.trans (key.trans readContent'))
    obtain rfl := Except.ok.inj (readPath.symm.trans (keyPath.trans readPath'))
    obtain rfl := Except.ok.inj (readTemplate.symm.trans (template.trans readTemplate'))
    obtain rfl := readExtractor.symm.trans (extractor.trans readExtractor')
    obtain rfl := Except.ok.inj (readDocument.symm.trans given.inlineText)
    obtain rfl := Except.ok.inj (readDocumentPath.symm.trans given.inlinePath)
    obtain rfl := Except.ok.inj (readDocument'.symm.trans given.filedText)
    obtain rfl := Except.ok.inj (readDocumentPath'.symm.trans given.filedPath)
    refine ParseRequest.run_documentSources template₁ _
      (DocumentOptions.read_of_written written readBack) fun found same => ?_
    exact sameKey found (readPath'.trans (congrArg Except.ok same))

/-! ### Templates -/

/-- Two calls agree in all options but for the template: one of them gives that of the
configuration, the other none. -/
structure Options.DefaultTemplateGiven (config : Config) (explicit implicit : Options) : Prop where
  agree : AgreeBut ["template".text] explicit implicit
  explicitText : explicit.text "template".text = .ok (some config.defaultTemplate)
  implicitText : implicit.text "template".text = .ok none

section Templates

variable {config : Config} {files : FileSystem} {explicit implicit : Options}

/-- The outline is the same, and remembers where its template comes from. -/
theorem Outline.ofRequest_defaultTemplate (config : Config) (data : Option LicenseData)
    (key : KeyOptions) (password : Option Text) :
    Outline.ofRequest config ⟨data, key, password, some config.defaultTemplate⟩ =
      (Outline.ofRequest config ⟨data, key, password, none⟩).map fun outline =>
        { outline with isDefaultTemplate := false } := by
  have sameFields : fieldsOf config.names ⟨data, key, password, some config.defaultTemplate⟩ =
      fieldsOf config.names ⟨data, key, password, none⟩ := rfl
  rw [ofRequest, ofRequest, sameFields]
  cases fieldsOf config.names ⟨data, key, password, none⟩ with
  | error error => rfl
  | ok fields =>
      dsimp only [bind, Except.bind, Option.getD]
      split <;> rfl

/-- Where a template comes from does not keep its data from being coerced. -/
theorem Outline.draft_ofGiven (outline : Outline) (isDefault : Bool) :
    Outline.draft { outline with isDefaultTemplate := isDefault } =
      outline.draft.map fun draft => { draft with isDefaultTemplate := isDefault } := by
  rw [Outline.draft, Outline.draft]
  cases outline.fields.coerced <;> rfl

theorem GenerateRequest.outcome_run_defaultTemplate (data : Option LicenseData) (key : KeyOptions)
    (password : Option Text) :
    (run config files ⟨data, key, password, some config.defaultTemplate⟩).outcome =
      (run config files ⟨data, key, password, none⟩).outcome := by
  have sameOutline := Outline.ofRequest_defaultTemplate config data key password
  cases outlined : Outline.ofRequest config ⟨data, key, password, none⟩ with
  | error error =>
      rw [outlined] at sameOutline
      rw [run_of_refused sameOutline, run_of_refused outlined]
  | ok outline =>
      rw [outlined] at sameOutline
      have sameDraft := outline.draft_ofGiven false
      cases drafted : outline.draft with
      | error error =>
          rw [drafted] at sameDraft
          rw [run_of_uncoercible sameOutline sameDraft, run_of_uncoercible outlined drafted]
      | ok draft =>
          rw [drafted] at sameDraft
          cases signed : serialOf config files ⟨data, key, password, none⟩ draft with
          | error failure =>
              rw [run_of_unsigned sameOutline sameDraft signed,
                run_of_unsigned outlined drafted signed]
          | ok serial =>
              rw [run_of_signed sameOutline sameDraft signed,
                run_of_signed outlined drafted signed]
              rfl

theorem generate_defaultTemplate (given : Options.DefaultTemplateGiven config explicit implicit) :
    (generate config files explicit).outcome = (generate config files implicit).outcome := by
  have data := given.agree.data_eq "data".text (by decide)
  have key := given.agree.key_eq "private_key".text (by decide)
  have path := given.agree.path_eq "private_key_path".text (by decide)
  have unlocks := given.agree.text_eq "private_key_password".text (by decide)
  have known := given.agree.checkKnown_eq GenerateRequest.optionNames (by decide)
  have faults := GenerateRequest.sameFault_ofOptions (sameFault_of_eq data) (sameFault_of_eq key)
    (sameFault_of_eq path) (sameFault_of_eq unlocks)
    (sameFault_of_ok given.explicitText given.implicitText) known
  rcases faults with ⟨error, refused, refused'⟩ | ⟨request, request', accepted, accepted'⟩
  · rw [generate_of_refused refused, generate_of_refused refused']
  · rw [generate_of_accepted accepted, generate_of_accepted accepted']
    obtain ⟨data₁, ⟨content₁, path₁⟩, password₁, template₁⟩ := request
    obtain ⟨data₂, ⟨content₂, path₂⟩, password₂, template₂⟩ := request'
    obtain ⟨readData, readContent, readPath, readPassword, readTemplate, -⟩ :=
      GenerateRequest.ofOptions_eq_ok_iff.mp accepted
    obtain ⟨readData', readContent', readPath', readPassword', readTemplate', -⟩ :=
      GenerateRequest.ofOptions_eq_ok_iff.mp accepted'
    obtain rfl := Except.ok.inj (readData.symm.trans (data.trans readData'))
    obtain rfl := Except.ok.inj (readContent.symm.trans (key.trans readContent'))
    obtain rfl := Except.ok.inj (readPath.symm.trans (path.trans readPath'))
    obtain rfl := Except.ok.inj (readPassword.symm.trans (unlocks.trans readPassword'))
    obtain rfl := Except.ok.inj (readTemplate.symm.trans given.explicitText)
    obtain rfl := Except.ok.inj (readTemplate'.symm.trans given.implicitText)
    exact GenerateRequest.outcome_run_defaultTemplate data₁ _ password₁

theorem ParseRequest.run_defaultTemplate (document : DocumentOptions) (key : KeyOptions)
    (extractor : Option OptionValue) :
    run config files ⟨document, key, some config.defaultTemplate, extractor⟩ =
      run config files ⟨document, key, none, extractor⟩ :=
  run_congr rfl rfl

theorem parse_defaultTemplate (given : Options.DefaultTemplateGiven config explicit implicit) :
    parse config files explicit = parse config files implicit := by
  have document := given.agree.text_eq "document".text (by decide)
  have documentPath := given.agree.path_eq "document_path".text (by decide)
  have key := given.agree.key_eq "public_key".text (by decide)
  have keyPath := given.agree.path_eq "public_key_path".text (by decide)
  have extractor := given.agree.given?_eq "extractor".text (by decide)
  have known := given.agree.checkKnown_eq ParseRequest.optionNames (by decide)
  have faults := ParseRequest.sameFault_ofOptions (sameFault_of_eq document)
    (sameFault_of_eq documentPath) (sameFault_of_eq key) (sameFault_of_eq keyPath)
    (sameFault_of_ok given.explicitText given.implicitText) known
  rcases faults with ⟨error, refused, refused'⟩ | ⟨request, request', accepted, accepted'⟩
  · rw [parse_of_refused refused, parse_of_refused refused']
  · rw [parse_of_accepted accepted, parse_of_accepted accepted']
    obtain ⟨⟨document₁, documentPath₁⟩, ⟨content₁, path₁⟩, template₁, extractor₁⟩ := request
    obtain ⟨⟨document₂, documentPath₂⟩, ⟨content₂, path₂⟩, template₂, extractor₂⟩ := request'
    obtain ⟨readDocument, readDocumentPath, readContent, readPath, readTemplate, -,
      readExtractor⟩ := ParseRequest.ofOptions_eq_ok_iff.mp accepted
    obtain ⟨readDocument', readDocumentPath', readContent', readPath', readTemplate', -,
      readExtractor'⟩ := ParseRequest.ofOptions_eq_ok_iff.mp accepted'
    obtain rfl := Except.ok.inj (readDocument.symm.trans (document.trans readDocument'))
    obtain rfl :=
      Except.ok.inj (readDocumentPath.symm.trans (documentPath.trans readDocumentPath'))
    obtain rfl := Except.ok.inj (readContent.symm.trans (key.trans readContent'))
    obtain rfl := Except.ok.inj (readPath.symm.trans (keyPath.trans readPath'))
    obtain rfl := readExtractor.symm.trans (extractor.trans readExtractor')
    obtain rfl := Except.ok.inj (readTemplate.symm.trans given.explicitText)
    obtain rfl := Except.ok.inj (readTemplate'.symm.trans given.implicitText)
    exact ParseRequest.run_defaultTemplate _ _ _

end Templates

end LicenseSeal
