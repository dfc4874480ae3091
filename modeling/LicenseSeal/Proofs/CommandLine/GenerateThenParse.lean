import LicenseSeal.Proofs.CommandLine.ExitCodes
import LicenseSeal.Proofs.Json.PlainWriting
import LicenseSeal.Proofs.License.PairReproduction
import LicenseSeal.Proofs.License.SourceAgreement

/-!
# Generating into a file and parsing it

A command that generates into a file writes the document that the call would give, and a command
that parses this file shows what the call with the document would give.
-/

namespace LicenseSeal.CommandLine

open Run

theorem files_run {environment : Option Text} {files : FileSystem} {words : List Text}
    {invocation : Invocation} (read : Invocation.ofWords? files words = some invocation) :
    (run environment files words).files =
      ((invocation.command.run environment).perform (.initial files)).2.files := by
  rw [run, read]
  rfl

theorem Run.files_of_written {front : String} {change : FileSystem.Action TextFileError Unit}
    {next : Unit → Run Unit} (session : Session)
    (keeps : ∀ session, ((next ()).perform session).2.files = session.files) :
    ((written front change >>= next).perform session).2.files =
      (change.run.run session.files).2 := by
  have performed := perform_written front change session
  cases ended : session.files.outcome change with
  | ok result =>
      rw [ended] at performed
      rw [perform_bind_of_ok performed, keeps]
  | error error =>
      rw [ended] at performed
      rw [perform_bind_of_error performed]

theorem Run.files_print (text : Text) (session : Session) :
    ((print text).perform session).2.files = session.files := by
  rw [perform_print]
  cases Encoding.Utf8.systemError? 0 text.withoutStyling <;> rfl

/-! ### Generating -/

namespace GenerateCommand

variable {environment : Option Text} {files : FileSystem} {command : GenerateCommand}
  {config : Config} {document : Text} {out : Path}

theorem files_of_produced (proceeds : ¬ command.Refused files)
    (succeeds : command.result environment files = .ok (config, document))
    (given : command.out = some out) :
    ((command.run environment).perform (.initial files)).2.files =
      ((FileSystem.writeText out document config.encoding).run.run files).2 := by
  rw [Refused, not_or] at proceeds
  have follows := follows_document environment proceeds.2
  rw [succeeds] at follows
  obtain ⟨records, produced⟩ := follows (.initial files) rfl
  rw [run, if_neg proceeds.1, ← bind_assoc, perform_bind_of_ok produced]
  simp only [given]
  exact files_of_written _ fun session => files_print _ session

theorem exists_written_of_success {words : List Text} {verbose : Bool}
    (read : Invocation.ofWords? files words = some ⟨verbose, .generate command⟩)
    (given : command.out = some out)
    (succeeds : (CommandLine.run environment files words).exitCode = 0) :
    ∃ config document, command.produced environment files = .ok (config, document) ∧
      (FileSystem.writeText out document config.encoding).run.run files =
        (.ok (), (CommandLine.run environment files words).files) := by
  have shows := Report.shows_run read (ends_course environment files command)
  have codes := exitCodes shows (Invocation.given_of_ofWords? read)
  obtain ⟨proceeds, config, document, result, saved, -⟩ := codes.success.mp succeeds
  obtain ⟨taken, -, produced⟩ := bind_eq_ok_iff.mp result
  refine ⟨config, document, produced, ?_⟩
  have left := files_of_produced proceeds result given
  simp only [saving, given] at saved
  rw [files_run read]
  exact Prod.ext saved left.symm

theorem outcome_of_produced {found : Config} {data : Option LicenseData} {template : Option Text}
    (produced : command.produced environment files = .ok (found, document))
    (configured : Config.loadGiven files environment command.config = .ok config)
    (supplied : command.dataOf files = .ok data)
    (templated : templateOf files config command.template = .ok template) :
    found = config ∧ (GenerateRequest.run config files
      ⟨data, ⟨none, some command.privateKey⟩, none, template⟩).outcome = .ok document := by
  obtain ⟨config', configured', rest⟩ := bind_eq_ok_iff.mp produced
  rw [configured] at configured'
  obtain rfl := Except.ok.inj configured'
  obtain ⟨data', supplied', rest⟩ := bind_eq_ok_iff.mp rest
  obtain rfl := Except.ok.inj (supplied.symm.trans supplied')
  obtain ⟨template', templated', rest⟩ := bind_eq_ok_iff.mp rest
  obtain rfl := Except.ok.inj (templated.symm.trans templated')
  obtain ⟨document', generated, same⟩ := bind_eq_ok_iff.mp rest
  obtain ⟨rfl, rfl⟩ := Prod.mk.inj (Except.ok.inj same)
  exact ⟨rfl, generated⟩

end GenerateCommand

/-! ### Parsing -/

theorem Run.exists_shown {value : Value} (writable : value.Writable)
    (plain : ∀ c, value.Mentions c → c.isSurrogate = false) :
    ∃ json, Json.write .refuse value = .ok json ∧ shown value = .ok (json ++ "\n".text) := by
  obtain ⟨json, written⟩ := Json.exists_write .refuse writable
  have noSurrogate : ∀ c ∈ json ++ "\n".text, c.isSurrogate = false := by
    rw [List.forall_mem_append]
    exact ⟨Json.isSurrogate_of_mem_write writable plain written,
      fun c => String.isSurrogate_of_mem_text⟩
  have unstyled : (json ++ "\n".text).withoutStyling = json ++ "\n".text := by
    refine Text.withoutStyling_of_plain fun member => ?_
    rcases List.mem_append.mp member with inside | feed
    · exact Json.plain_of_write writable written inside
    · exact absurd feed (by decide)
  have taken : Encoding.Utf8.systemError? 0 (json ++ "\n".text) = none := by
    refine Encoding.Utf8.systemError?_eq_none_iff.mpr fun c member surrogate => ?_
    rw [noSurrogate c member] at surrogate
    cases surrogate
  refine ⟨json, written, ?_⟩
  rw [shown, written]
  simp only [unstyled, taken]

/-- What the value of a license mentions stands in the names of its parts, in its serial or in its
data. -/
theorem mentions_licenseValue {license : ParsedLicense} {c : CodePoint}
    (mentioned : (licenseValue license).Mentions c) :
    c.isSurrogate = false ∨ c ∈ license.serial ∨
      (∃ content, license.data = .text content ∧ c ∈ content) ∨
      ∃ fields, license.data = .fields fields ∧
        ((∃ name ∈ fields.names, c ∈ name) ∨ ∃ entry ∈ fields.entries, entry.2.Mentions c) := by
  obtain ⟨valid, serial, data⟩ := license
  rw [licenseValue] at mentioned
  cases mentioned with
  | key member inside =>
      simp only [List.mem_cons, Prod.mk.injEq, Scalar.text.injEq, List.not_mem_nil, or_false]
        at member
      rcases member with ⟨rfl, -⟩ | ⟨rfl, -⟩ | ⟨rfl, -⟩ <;>
        exact .inl (String.isSurrogate_of_mem_text inside)
  | member entry within =>
      simp only [List.mem_cons, List.not_mem_nil, or_false] at entry
      rcases entry with rfl | rfl | rfl
      · cases within
      · cases within with
        | text inside => exact .inr (.inl inside)
      · refine .inr (.inr ?_)
        cases data with
        | text content =>
            cases within with
            | text inside => exact .inl ⟨content, rfl, inside⟩
        | fields fields =>
            refine .inr ⟨fields, rfl, ?_⟩
            cases within with
            | key member inside =>
                obtain ⟨entry, given, same⟩ := List.mem_map.mp member
                obtain ⟨⟨⟩, -⟩ := Prod.mk.inj same
                exact .inl ⟨_, Fields.mem_names_of_mem_entries given, inside⟩
            | member entry within =>
                obtain ⟨given, member, rfl⟩ := List.mem_map.mp entry
                exact .inr ⟨given, member, within⟩

theorem plain_licenseValue {license : ParsedLicense} {names : FieldNames} {texts : Fields Text}
    (serialPlain : ∀ c ∈ license.serial, c.isSurrogate = false)
    (ofTexts : license.data = .ofTexts names texts) (encodable : texts.Encodable)
    (namesPlain : ∀ name ∈ texts.names, ∀ c ∈ name, c.isSurrogate = false) :
    ∀ c, (licenseValue license).Mentions c → c.isSurrogate = false := by
  intro c mentioned
  rw [LicenseData.ofTexts] at ofTexts
  rcases mentions_licenseValue mentioned with plain | inSerial | ⟨content, data, inside⟩ |
    ⟨fields, data, inFields⟩
  · exact plain
  · exact serialPlain c inSerial
  · rw [data] at ofTexts
    split at ofTexts
    · obtain rfl := LicenseData.text.inj ofTexts
      cases found : texts.get? names.raw with
      | none =>
          rw [found] at inside
          cases inside
      | some text =>
          rw [found] at inside
          exact encodable _ (Fields.get?_eq_some_iff.mp found) c inside
    · cases ofTexts
  · rw [data] at ofTexts
    split at ofTexts
    · cases ofTexts
    · obtain rfl := LicenseData.fields.inj ofTexts
      rcases inFields with ⟨name, member, inside⟩ | ⟨entry, member, within⟩
      · rw [Fields.names_map] at member
        exact namesPlain name member c inside
      · obtain ⟨given, listed, rfl⟩ := List.mem_map.mp member
        cases within with
        | text inside => exact encodable given listed c inside

namespace ParseCommand

variable {environment : Option Text} {files : FileSystem} {command : ParseCommand}
  {license : ParsedLicense}

/-- A report shows a license: its value is the first line, and the exit code says whether it is
valid unless the value is also written to a file. -/
structure Reports (command : ParseCommand) (license : ParsedLicense) (report : Report) : Prop where
  printed : ∃ json more, Json.write .refuse (licenseValue license) = .ok json ∧
    report.printed = json ++ "\n".text ++ more
  exitCode : command.jsonOut = none → report.exitCode = if license.valid then 0 else invalidCode

theorem reports_of_result {words : List Text} {verbose : Bool}
    (read : Invocation.ofWords? files words = some ⟨verbose, .parse command⟩)
    (succeeds : command.result environment files = .ok license)
    (plain : ∀ c, (licenseValue license).Mentions c → c.isSurrogate = false) :
    command.Reports license (CommandLine.run environment files words) := by
  have shows := Report.shows_run read (ends_course environment files command)
  obtain ⟨json, written, line⟩ := exists_shown (writable_of_result succeeds) plain
  refine ⟨?_, fun noOutput => ?_⟩
  · refine ⟨json, (command.verdict files license).printed, written, ?_⟩
    have printed := shows.printed
    simp only [course, succeeds, line, Course.printed_after] at printed
    exact printed
  · have saved : command.saving files license = .ok () := by
      rw [saving, noOutput]
    have codes := exitCodes (Invocation.given_of_ofWords? read) shows
    cases valid : license.valid with
    | true => exact codes.valid.mpr ⟨license, _, succeeds, line, saved, valid⟩
    | false => exact codes.invalid.mpr ⟨license, _, succeeds, line, saved, valid⟩

theorem result_eq_outcome {config : Config} {template : Option Text} {document : Text}
    (configured : Config.loadGiven files environment command.config = .ok config)
    (templated : templateOf files config command.template = .ok template)
    (read : DocumentOptions.read config.encoding files ⟨none, some command.document⟩ =
      .ok document) :
    command.result environment files = (ParseRequest.run config files
      ⟨⟨some document, none⟩, ⟨none, some command.publicKey⟩, template, none⟩).outcome := by
  rw [ParseRequest.run_documentSources template none read fun _ _ => rfl, result, configured]
  change (templateOf files config command.template >>= _) = _
  rw [templated]
  rfl

end ParseCommand

/-! ### One command after the other -/

/-- A command line that generates into a file and succeeds, and one that parses this file with the
same configuration and the same template, beside a call that generates from the same options. -/
structure ThroughFile (environment : Option Text) (files after : FileSystem) (config : Config)
    (template : Option Text) (options : Options) (words words' : List Text)
    (generating : GenerateCommand) (parsing : ParseCommand) : Prop where
  generates : ∃ verbose, Invocation.ofWords? files words = some ⟨verbose, .generate generating⟩
  configured : Config.loadGiven files environment generating.config = .ok config
  templated : templateOf files config generating.template = .ok template
  called : ∃ data, generating.dataOf files = .ok data ∧ GenerateRequest.ofOptions options =
    .ok ⟨data, ⟨none, some generating.privateKey⟩, none, template⟩
  succeeds : (run environment files words).exitCode = 0
  leaves : (run environment files words).files = after
  parses : ∃ verbose, Invocation.ofWords? after words' = some ⟨verbose, .parse parsing⟩
  sameFile : generating.out = some parsing.document
  sameConfig : Config.loadGiven after environment parsing.config = .ok config
  sameTemplate : templateOf after config parsing.template = .ok template

/-- A call without an extractor that parses a document reads it with a template that uses no name
twice. -/
theorem exists_reads {config : Config} {files : FileSystem} {options : Options}
    {request : ParseRequest} {document : Text} {parsed : ParsedLicense}
    (accepted : ParseRequest.ofOptions options = .ok request)
    (noExtractor : request.extractor = none)
    (given : request.document.read config.encoding files = .ok document)
    (succeeds : (parse config files options).outcome = .ok parsed) :
    (Template.scan (request.template.getD config.defaultTemplate)).names.Nodup ∧
      ∃ key, Reads config files options (request.template.getD config.defaultTemplate) document
        key := by
  obtain ⟨request', key, document', extractor, license, accepted', prepared, -, -⟩ :=
    parse_outcome_eq_ok_iff.mp succeeds
  obtain rfl := Except.ok.inj (accepted.symm.trans accepted')
  obtain ⟨checked, loaded, read, resolved⟩ := ParseRequest.prepare_eq_ok_iff.mp prepared
  refine ⟨?_, key, request, accepted, checked, loaded, given, noExtractor, rfl⟩
  rw [ParseRequest.resolveExtractor, noExtractor] at resolved
  dsimp only at resolved
  split at resolved
  · next found => exact Template.distinct_of_ofTemplate found
  · cases resolved

/-- No surrogate stands in what is parsed from a generated document with the same template. -/
theorem plain_of_generated {config : Config} {files after : FileSystem} {options options' : Options}
    {request : GenerateRequest} {template : Option Text} {document : Text} {key : KeyOptions}
    {license : ParsedLicense} (accepted : GenerateRequest.ofOptions options = .ok request)
    (sameTemplate : request.template = template)
    (generated : (generate config files options).outcome = .ok document)
    (accepted' : ParseRequest.ofOptions options' = .ok ⟨⟨some document, none⟩, key, template, none⟩)
    (parsed : (parse config after options').outcome = .ok license) :
    ∀ c, (licenseValue license).Mentions c → c.isSurrogate = false := by
  obtain ⟨draft, privateKey, serial, ⟨⟨request', same, drafted, -⟩, signed⟩, rfl⟩ :=
    generate_outcome_eq_ok_iff.mp generated
  obtain rfl := Except.ok.inj (accepted.symm.trans same)
  obtain ⟨payload, written, signs⟩ := Draft.serial_eq_ok_iff.mp signed
  obtain ⟨distinct, publicKey, reads⟩ := exists_reads accepted' rfl rfl parsed
  have wellFormed := Draft.wellFormed_of_ofRequest drafted
  have ofTemplate : template.getD config.defaultTemplate = draft.template := by
    obtain ⟨fields, coerced, -, -, -, rfl⟩ := Draft.ofRequest_eq_ok_iff.mp drafted
    rw [← sameTemplate]
  dsimp only at reads distinct
  rw [ofTemplate] at reads distinct
  obtain ⟨serialPlain, texts, ofTexts, encodable, namesPlain⟩ :=
    Draft.plain_of_parsed reads wellFormed (wellFormed.scan_eq ▸ distinct) written signs parsed
  exact plain_licenseValue serialPlain ofTexts encodable namesPlain

/-- The command gives the document of the call, and the command that parses its file shows what the
call with this document gives. -/
theorem ThroughFile.exists_document {environment : Option Text} {files after : FileSystem}
    {config : Config} {template : Option Text} {options : Options} {words words' : List Text}
    {generating : GenerateCommand} {parsing : ParseCommand}
    (through : ThroughFile environment files after config template options words words' generating
      parsing) :
    ∃ document, (generate config files options).outcome = .ok document ∧
      (Encoding.ReadBack files.codecs config.encoding document → ∀ options',
        ParseRequest.ofOptions options' =
          .ok ⟨⟨some document, none⟩, ⟨none, some parsing.publicKey⟩, template, none⟩ →
        parsing.result environment after = (parse config after options').outcome ∧
          ∀ license, (parse config after options').outcome = .ok license →
            parsing.Reports license (run environment after words')) := by
  obtain ⟨verbose, read⟩ := through.generates
  obtain ⟨verbose', read'⟩ := through.parses
  obtain ⟨data, supplied, accepted⟩ := through.called
  obtain ⟨found, document, produced, written⟩ :=
    GenerateCommand.exists_written_of_success read through.sameFile through.succeeds
  obtain ⟨rfl, generated⟩ := GenerateCommand.outcome_of_produced produced through.configured
    supplied through.templated
  -- The files that parsing begins with are those that writing this very document has left.
  rw [through.leaves] at written
  have generated' : (generate found files options).outcome = .ok document := by
    rw [generate_of_accepted accepted]
    exact generated
  refine ⟨document, generated', fun readBack options' accepted' => ?_⟩
  · have same : parsing.result environment after = (parse found after options').outcome := by
      rw [parse_of_accepted accepted']
      exact ParseCommand.result_eq_outcome through.sameConfig through.sameTemplate
        (DocumentOptions.read_of_written written readBack)
    refine ⟨same, fun license parsed => ?_⟩
    exact ParseCommand.reports_of_result read' (same.trans parsed)
      (plain_of_generated accepted rfl generated' accepted' parsed)

/-- Sources agree.  A key does the same as it stands and in a file with its bytes, but for the
source that a problem with it names.  A document does the same as it stands and in the file that it
was written to, if the configured encoding reads it back, as an encoding does with every text that
it settles.  The template of the configuration does the same as none.  Hence commands that generate
into a file and parse it show what the calls give. -/
theorem sources_agree (config : Config) (files : FileSystem) :
    (∀ content path inline filed,
      (Options.KeyInFile files "private_key".text content path inline filed →
        SameButSource (generate config files inline) (generate config files filed)) ∧
      (Options.KeyInFile files "public_key".text content path inline filed →
        SameButSource (parse config files inline) (parse config files filed))) ∧
    (∀ before after text path inline filed, Options.DocumentInFile text path inline filed →
      (FileSystem.writeText path text config.encoding).run.run files = (.ok (), after) →
      Encoding.ReadBack files.codecs config.encoding text →
      (∀ keyPath, filed.path "public_key_path".text = .ok (some keyPath) →
        before.read keyPath = after.read keyPath) →
      parse config before inline = parse config after filed) ∧
    (∀ encoding, Encoding.named config.encoding .encode = .ok encoding →
      ∀ text, encoding.Settles text → Encoding.ReadBack files.codecs config.encoding text) ∧
    (∀ explicit implicit, Options.DefaultTemplateGiven config explicit implicit →
      (generate config files explicit).outcome = (generate config files implicit).outcome ∧
        parse config files explicit = parse config files implicit) ∧
    ∀ environment after template options words words' generating parsing,
      ThroughFile environment files after config template options words words' generating
        parsing →
      ∃ document, (generate config files options).outcome = .ok document ∧
        (Encoding.ReadBack files.codecs config.encoding document → ∀ options',
          ParseRequest.ofOptions options' =
            .ok ⟨⟨some document, none⟩, ⟨none, some parsing.publicKey⟩, template, none⟩ →
          parsing.result environment after = (parse config after options').outcome ∧
            ∀ license, (parse config after options').outcome = .ok license →
              parsing.Reports license (run environment after words')) := by
  refine ⟨fun content path inline filed => ⟨generate_keySources, parse_keySources⟩, ?_, ?_, ?_, ?_⟩
  · intro before after text path inline filed given written readBack sameKey
    exact parse_documentSources given written readBack sameKey
  · intro encoding known text settles
    exact Encoding.readBack_of_settles known settles
  · intro explicit implicit given
    exact ⟨generate_defaultTemplate given, parse_defaultTemplate given⟩
  · intro environment after template options words words' generating parsing through
    exact through.exists_document

namespace Sample

open LicenseSeal.Sample (privateKeyText publicKeyText seed point load_privateKeyText
  load_publicKeyText)

def privatePath : Path := Path.ofText "priv".text

def publicPath : Path := Path.ofText "pub".text

def documentPath : Path := Path.ofText "doc".text

/-- The halves of a key pair in two files. -/
def keyFiles : FileSystem :=
  { current := []
    entries := [(["priv".text], .file (Encoding.Utf8.bytesOf privateKeyText)),
      (["pub".text], .file (Encoding.Utf8.bytesOf publicKeyText))] }

/-- A document beside the two files. -/
def licenseFiles (document : Text) : FileSystem :=
  { current := []
    entries := [(["priv".text], .file (Encoding.Utf8.bytesOf privateKeyText)),
      (["pub".text], .file (Encoding.Utf8.bytesOf publicKeyText)),
      (["doc".text], .file (Encoding.Utf8.bytesOf document))] }

theorem run_writeText {document encoding : Text}
    (encodes : FileSystem.encoded keyFiles.codecs encoding document =
      .ok (Encoding.Utf8.bytesOf document)) :
    (FileSystem.writeText documentPath document encoding).run.run keyFiles =
      (.ok (), licenseFiles document) := by
  have creates : (FileSystem.createAll documentPath.parent).run.run keyFiles =
      (.ok (), keyFiles) := by
    change (FileSystem.createNamed [] []).run.run keyFiles = _
    rw [FileSystem.createNamed]
    rfl
  change (FileSystem.writeComputed documentPath
    (FileSystem.encoded keyFiles.codecs encoding document)).run.run keyFiles = _
  rw [encodes]
  refine run_bind_eq_ok_iff.mpr ⟨(), keyFiles, ?_, by rfl⟩
  change (((FileSystem.createAll documentPath.parent).run.run keyFiles).1.mapError _,
    ((FileSystem.createAll documentPath.parent).run.run keyFiles).2) = _
  rw [creates]
  rfl

theorem encoded_builtIn {document : Text} (plain : ∀ c ∈ document, c.isSurrogate = false) :
    FileSystem.encoded keyFiles.codecs Config.builtIn.encoding document =
      .ok (Encoding.Utf8.bytesOf document) := by
  refine Encoding.encoded_eq_ok_iff.mpr ⟨.utf8, rfl, ?_⟩
  rw [Encoding.encode, Encoding.Utf8.encode_of_plain plain]
  rfl

/-- A command line that generates into a file, and one that parses it. -/
def savingWords : List Text :=
  ["generate".text, "--private-key".text, "priv".text, "--data".text, "x".text,
    "--out".text, "doc".text]

def readingWords : List Text :=
  ["parse".text, "--public-key".text, "pub".text, "--document".text, "doc".text]

def saving : GenerateCommand :=
  ⟨privatePath, some "x".text, none, none, none, some documentPath, false⟩

def reading : ParseCommand :=
  ⟨publicPath, documentPath, none, none, none⟩

/-- Options with the paths of keys. -/
def generatePathOptions : Options :=
  Fields.ofList [("data".text, .value (.text "x".text)),
    ("private_key_path".text, .value (.text "priv".text))]

def parsePathOptions (document : Text) : Options :=
  Fields.ofList [("document".text, .value (.text document)),
    ("public_key_path".text, .value (.text "pub".text))]

def documentPathOptions : Options :=
  Fields.ofList [("document_path".text, .value (.text "doc".text)),
    ("public_key_path".text, .value (.text "pub".text))]

/-- Options with the template of the built-in configuration. -/
def templatedOptions : Options :=
  Fields.ofList [("data".text, .value (.text "x".text)),
    ("private_key_path".text, .value (.text "priv".text)),
    ("template".text, .value (.text Config.builtIn.defaultTemplate))]

def sealedRequest : GenerateRequest :=
  ⟨some (.text "x".text), ⟨none, some privatePath⟩, none, none⟩

def sealedDraft : Draft :=
  ⟨Config.builtIn.defaultTemplate, Template.scan Config.builtIn.defaultTemplate, true,
    Fields.ofList [("string".text, "x".text)]⟩

theorem ofOptions_generatePath :
    GenerateRequest.ofOptions generatePathOptions = .ok sealedRequest :=
  rfl

theorem ofRequest_sealed : Draft.ofRequest Config.builtIn sealedRequest = .ok sealedDraft :=
  Draft.ofRequest_eq_ok_iff.mpr ⟨_, _, rfl, rfl, by decide +kernel, rfl⟩

theorem distinct_sealed : (Template.scan Config.builtIn.defaultTemplate).names.Nodup := by
  have names : (Template.scan Config.builtIn.defaultTemplate).names =
      ["string".text, "serial".text] := by decide +kernel
  rw [names]
  decide

theorem read_privatePath :
    keyFiles.read privatePath = .ok (Encoding.Utf8.bytesOf privateKeyText) := by
  rfl

theorem read_publicPath :
    keyFiles.read publicPath = .ok (Encoding.Utf8.bytesOf publicKeyText) := by
  rfl

theorem read_licenseFiles (document : Text) :
    (licenseFiles document).read publicPath = .ok (Encoding.Utf8.bytesOf publicKeyText) := by
  rfl

theorem privateKeyInFile {key : Text} (visible : key.all Text.isBlank = false)
    (held : (KeyContent.text key).HeldAt keyFiles privatePath) :
    Options.KeyInFile keyFiles "private_key".text (.text key) privatePath
      (Fields.ofList [("data".text, .value (.text "x".text)),
        ("private_key".text, .value (.text key))]) generatePathOptions :=
  ⟨Fields.eq_of_entries_eq rfl, visible, rfl, rfl, rfl, rfl, held⟩

theorem publicKeyInFile {key : Text} (visible : key.all Text.isBlank = false)
    (held : (KeyContent.text key).HeldAt keyFiles publicPath) (document : Text) :
    Options.KeyInFile keyFiles "public_key".text (.text key) publicPath
      (Fields.ofList [("document".text, .value (.text document)),
        ("public_key".text, .value (.text key))]) (parsePathOptions document) :=
  ⟨Fields.eq_of_entries_eq rfl, visible, rfl, rfl, rfl, rfl, held⟩

theorem documentInFile (document : Text) :
    Options.DocumentInFile document documentPath (parsePathOptions document)
      documentPathOptions :=
  ⟨Fields.eq_of_entries_eq rfl, rfl, rfl, rfl, rfl⟩

theorem sameKey_licenseFiles (document : Text) (keyPath : Path)
    (given : documentPathOptions.path "public_key_path".text = .ok (some keyPath)) :
    keyFiles.read keyPath = (licenseFiles document).read keyPath := by
  cases given
  rfl

theorem defaultTemplateGiven :
    Options.DefaultTemplateGiven Config.builtIn templatedOptions generatePathOptions :=
  ⟨Fields.eq_of_entries_eq rfl, rfl, rfl⟩

theorem privateKey_sealed : sealedRequest.privateKey keyFiles = .ok (.ed25519 seed) := by
  refine GenerateRequest.privateKey_eq_ok rfl (KeyOptions.read_path read_privatePath _) ?_
  dsimp only
  exact load_privateKeyText _

theorem exists_issues :
    ∃ serial, Issues Config.builtIn keyFiles generatePathOptions sealedDraft (.ed25519 seed)
      serial := by
  have plain : ∀ c ∈ sealedDraft.signedText Config.builtIn.names, c.isSurrogate = false := by
    decide +kernel
  have signed := Draft.serial_eq_ok_iff.mpr
    ⟨_, Encoding.Utf8.encode_of_plain plain, PrivateKey.serial_ed25519 seed _⟩
  exact ⟨_, ⟨_, ofOptions_generatePath, ofRequest_sealed, privateKey_sealed⟩, signed⟩

theorem document_sealed (serial : Text) :
    sealedDraft.document Config.builtIn.names serial =
      "====BEGIN LICENSE====\nx\n".text ++ (serial ++ "\n=====END LICENSE=====".text) := by
  have fields : sealedDraft.signedFields = Fields.ofList [("string".text, "x".text)] :=
    Fields.eq_of_entries_eq (by decide +kernel)
  have segments : (Template.scan sealedDraft.template).segments =
      [.literal "====BEGIN LICENSE====\n".text,
        .token "string".text "\x7b\x7b&string\x7d\x7d".text, .literal "\n".text,
        .token "serial".text "\x7b\x7b&serial\x7d\x7d".text,
        .literal "\n=====END LICENSE=====".text] := by decide +kernel
  rw [Draft.document, Template.render, fields, segments]
  rfl

theorem plain_document {serial : Text}
    (signed : sealedDraft.serial Config.builtIn.names (.ed25519 seed) = .ok serial) :
    ∀ c ∈ sealedDraft.document Config.builtIn.names serial, c.isSurrogate = false := by
  obtain ⟨payload, -, signs⟩ := Draft.serial_eq_ok_iff.mp signed
  rw [document_sealed, List.forall_mem_append, List.forall_mem_append]
  exact ⟨fun c => String.isSurrogate_of_mem_text,
    fun c => PrivateKey.isSurrogate_of_mem_serial signs,
    fun c => String.isSurrogate_of_mem_text⟩

theorem ofOptions_parsePath (document : Text) :
    ParseRequest.ofOptions (parsePathOptions document) =
      .ok ⟨⟨some document, none⟩, ⟨none, some publicPath⟩, none, none⟩ :=
  rfl

theorem publicKey_filed {files : FileSystem}
    (held : files.read publicPath = .ok (Encoding.Utf8.bytesOf publicKeyText))
    (document : DocumentOptions) :
    ParseRequest.publicKey files ⟨document, ⟨none, some publicPath⟩, none, none⟩ =
      .ok (.ed25519 point) :=
  ParseRequest.publicKey_eq_ok (KeyOptions.read_path held "public_key".text)
    (load_publicKeyText _)

theorem reads_parsePath (config : Config) {files : FileSystem}
    (held : files.read publicPath = .ok (Encoding.Utf8.bytesOf publicKeyText))
    (document : Text) :
    Reads config files (parsePathOptions document) config.defaultTemplate document
      (.ed25519 point) :=
  ⟨_, ofOptions_parsePath document, ParseRequest.check_eq_ok rfl rfl, publicKey_filed held _, rfl,
    rfl, rfl⟩

theorem through_saving {document : Text} (plain : ∀ c ∈ document, c.isSurrogate = false)
    (generated : (generate Config.builtIn keyFiles generatePathOptions).outcome = .ok document) :
    ThroughFile none keyFiles (licenseFiles document) Config.builtIn none generatePathOptions
      savingWords readingWords saving reading := by
  have read : Invocation.ofWords? keyFiles savingWords = some ⟨false, .generate saving⟩ := by
    decide +kernel
  have read' : Invocation.ofWords? (licenseFiles document) readingWords =
      some ⟨false, .parse reading⟩ := by rfl
  rw [generate_of_accepted ofOptions_generatePath] at generated
  have result : saving.result none keyFiles = .ok (Config.builtIn, document) := by
    change ((sealedRequest.run Config.builtIn keyFiles).outcome >>= _) = _
    rw [generated]
    rfl
  have proceeds : ¬ saving.Refused keyFiles := by
    rintro (same | ⟨taken, -⟩)
    · cases same
    · cases taken
  have saved : saving.saving keyFiles Config.builtIn document = .ok () :=
    congrArg Prod.fst (run_writeText (encoded_builtIn plain))
  have shows := Report.shows_run read (GenerateCommand.ends_course none keyFiles saving)
  have codes := GenerateCommand.exitCodes shows (Invocation.given_of_ofWords? read)
  have left := GenerateCommand.files_of_produced proceeds result rfl
  refine ⟨⟨_, read⟩, rfl, rfl, ⟨_, rfl, ofOptions_generatePath⟩, ?_, ?_, ⟨_, read'⟩, rfl, rfl, rfl⟩
  · exact codes.success.mpr ⟨proceeds, _, _, result, saved, nofun⟩
  · rw [files_run read]
    exact left.trans (congrArg Prod.snd (run_writeText (encoded_builtIn plain)))

end Sample

/-- With the built-in configuration a key does the same in its file, a document in the file that a
command wrote it to, and the built-in template as no template; the command that parses the file
shows the license. -/
theorem sources_agree_built_in :
    ∃ document license,
      (generate Config.builtIn Sample.keyFiles Sample.generatePathOptions).outcome =
        .ok document ∧
      SameButSource
        (generate Config.builtIn Sample.keyFiles
          (LicenseSeal.Sample.generateOptions (.text "x".text)))
        (generate Config.builtIn Sample.keyFiles Sample.generatePathOptions) ∧
      SameButSource
        (parse Config.builtIn Sample.keyFiles (LicenseSeal.Sample.parseOptions document))
        (parse Config.builtIn Sample.keyFiles (Sample.parsePathOptions document)) ∧
      parse Config.builtIn Sample.keyFiles (Sample.parsePathOptions document) =
        parse Config.builtIn (Sample.licenseFiles document) Sample.documentPathOptions ∧
      (generate Config.builtIn Sample.keyFiles Sample.templatedOptions).outcome =
        (generate Config.builtIn Sample.keyFiles Sample.generatePathOptions).outcome ∧
      (parse Config.builtIn (Sample.licenseFiles document)
        (Sample.parsePathOptions document)).outcome = .ok license ∧
      Sample.reading.Reports license
        (run none (Sample.licenseFiles document) Sample.readingWords) := by
  obtain ⟨serial, issued⟩ := Sample.exists_issues
  have generated := generate_outcome_eq_ok_iff.mpr ⟨_, _, _, issued, rfl⟩
  have plain := Sample.plain_document issued.signed
  obtain ⟨keys, documents, settled, templates, commands⟩ :=
    sources_agree Config.builtIn Sample.keyFiles
  obtain ⟨document, generated', reports⟩ :=
    commands _ _ _ _ _ _ _ _ (Sample.through_saving plain generated)
  obtain rfl := Except.ok.inj (generated.symm.trans generated')
  have wellFormed := Draft.wellFormed_of_ofRequest Sample.ofRequest_sealed
  obtain ⟨captured, matched⟩ := Template.exists_captures Sample.distinct_sealed
    (Draft.decomposes_document wellFormed serial)
  have held := Sample.read_licenseFiles (Sample.sealedDraft.document Config.builtIn.names serial)
  have reads := Sample.reads_parsePath Config.builtIn held
    (Sample.sealedDraft.document Config.builtIn.names serial)
  obtain ⟨payload, written, signs⟩ := Draft.serial_eq_ok_iff.mp issued.signed
  obtain ⟨license, parses⟩ := Draft.exists_parsed_of_captures reads wellFormed
    Sample.distinct_sealed written signs matched
  have readBack := settled .utf8 rfl
    (Sample.sealedDraft.document Config.builtIn.names serial) trivial
  refine ⟨_, license, generated, ?_, ?_, ?_, ?_, parses, ?_⟩
  · exact (keys _ _ _ _).1 (Sample.privateKeyInFile (by decide +kernel)
      ⟨_, LicenseSeal.Sample.encode_privateKeyText, Sample.read_privatePath⟩)
  · exact (keys _ _ _ _).2 (Sample.publicKeyInFile (by decide +kernel)
      ⟨_, LicenseSeal.Sample.encode_publicKeyText, Sample.read_publicPath⟩ _)
  · exact documents _ _ _ _ _ _ (Sample.documentInFile _)
      (Sample.run_writeText (Sample.encoded_builtIn plain)) readBack
      (Sample.sameKey_licenseFiles _)
  · exact (templates _ _ Sample.defaultTemplateGiven).1
  · exact (reports readBack _ (Sample.ofOptions_parsePath _)).2 _ parses

namespace Sample

open LicenseSeal.Sample (point)

/-- A configuration with the raw escapes. -/
def rawConfig : Config :=
  { defaultTemplate := "A\x7b\x7bstring\x7d\x7d:\x7b\x7bserial\x7d\x7d".text
    encoding := "raw_unicode_escape".text }

/-- A document that begins with an escape of the letter that the template begins with. -/
def escapedDocument : Text :=
  "\\u0041x:s".text

theorem encoded_escapedDocument : FileSystem.encoded keyFiles.codecs rawConfig.encoding
    escapedDocument = .ok (Encoding.Utf8.bytesOf escapedDocument) := by
  rfl

theorem reads_documentPath :
    Reads rawConfig (licenseFiles escapedDocument) documentPathOptions rawConfig.defaultTemplate
      "Ax:s".text (.ed25519 point) := by
  have accepted : ParseRequest.ofOptions documentPathOptions =
      .ok ⟨⟨none, some documentPath⟩, ⟨none, some publicPath⟩, none, none⟩ := rfl
  have read : DocumentOptions.read rawConfig.encoding (licenseFiles escapedDocument)
      ⟨none, some documentPath⟩ = .ok "Ax:s".text := by rfl
  exact ⟨_, accepted, ParseRequest.check_eq_ok rfl rfl,
    publicKey_filed (read_licenseFiles escapedDocument) ⟨none, some documentPath⟩, read, rfl, rfl⟩

end Sample

/-- The raw escapes do not escape a backslash, so a document can be read back as another one: as it
stands this one does not match the template, and in the file that it was written to it does. -/
theorem escaped_document_read_differently :
    Encoding.named Sample.rawConfig.encoding .encode = .ok (.escaped true) ∧
      Options.DocumentInFile Sample.escapedDocument Sample.documentPath
        (Sample.parsePathOptions Sample.escapedDocument) Sample.documentPathOptions ∧
      (FileSystem.writeText Sample.documentPath Sample.escapedDocument
          Sample.rawConfig.encoding).run.run Sample.keyFiles =
        (.ok (), Sample.licenseFiles Sample.escapedDocument) ∧
      (∀ keyPath,
        Sample.documentPathOptions.path "public_key_path".text = .ok (some keyPath) →
        Sample.keyFiles.read keyPath =
          (Sample.licenseFiles Sample.escapedDocument).read keyPath) ∧
      parse Sample.rawConfig Sample.keyFiles (Sample.parsePathOptions Sample.escapedDocument) ≠
        parse Sample.rawConfig (Sample.licenseFiles Sample.escapedDocument)
          Sample.documentPathOptions := by
  have named : (Template.scan Sample.rawConfig.defaultTemplate).names =
      ["string".text, "serial".text] := by decide +kernel
  have distinct : (Template.scan Sample.rawConfig.defaultTemplate).names.Nodup := by
    rw [named]
    decide
  have hasSerial : Sample.rawConfig.names.serial ∈
      (Template.scan Sample.rawConfig.defaultTemplate).names := by
    rw [named]
    decide
  have unmatched : Template.license Sample.rawConfig.defaultTemplate Sample.rawConfig.names
      Sample.escapedDocument = .error (.corrupted .noMatch) := by
    have absent : (Template.compiled Sample.rawConfig.defaultTemplate).captures?
        Sample.escapedDocument = none := by
      rw [Grammar.captures?_eq_search]
      decide +kernel
    rw [Template.license_eq_ofCaptures distinct hasSerial, absent]
    rfl
  have matched : Template.license Sample.rawConfig.defaultTemplate Sample.rawConfig.names
      "Ax:s".text = .ok ⟨"s".text, .text "x".text⟩ := by
    have captured : (Template.compiled Sample.rawConfig.defaultTemplate).captures? "Ax:s".text =
        some ["x".text, "s".text] := by
      rw [Grammar.captures?_eq_search]
      decide +kernel
    rw [Template.license_eq_ofCaptures distinct hasSerial, captured,
      Template.ofCaptures_compiled distinct (by rw [named]; rfl), Template.capturedFields, named]
    rfl
  have fails := parse_outcome (Sample.reads_parsePath Sample.rawConfig Sample.read_publicPath
    Sample.escapedDocument)
  have succeeds := parse_outcome Sample.reads_documentPath
  rw [unmatched] at fails
  rw [matched] at succeeds
  refine ⟨rfl, Sample.documentInFile _, Sample.run_writeText Sample.encoded_escapedDocument,
    Sample.sameKey_licenseFiles _, fun same => ?_⟩
  rw [same, succeeds] at fails
  cases fails

end LicenseSeal.CommandLine
