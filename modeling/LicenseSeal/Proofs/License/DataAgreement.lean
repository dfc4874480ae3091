import LicenseSeal.Proofs.License.Drafts
import LicenseSeal.Proofs.License.Interchange
import LicenseSeal.Proofs.Signing.SerialVerification

/-!
# Data that generates the same license

Of its data, a license takes the texts for the tokens of its template and nothing else: not the
order of the fields, nor other fields, nor the kind of a value, nor whether a plain text is given as
a field.  Data that agree on the tokens are signed alike and give the same document or the same
error, as long as every value has a text: one that has none keeps the license from being generated,
also if the template does not name it.
-/

namespace LicenseSeal

namespace LicenseData

/-- Data that can be signed: there is some, none of it has the name of the serial, and every value
has a text. -/
structure Signable (names : FieldNames) (data : LicenseData) : Prop where
  nonempty : data.isEmpty = false
  unreserved : names.serial ∉ (data.toFields names).names
  coercible : ∃ texts, (data.toFields names).coerced = .ok texts

/-- The text that data gives for a name. -/
def textOf? (names : FieldNames) (data : LicenseData) (name : Text) : Option Text :=
  ((data.toFields names).get? name).bind Value.text?

/-- Data that give the same text, or none, for each of some tokens. -/
def AgreeOn (names : FieldNames) (tokens : List Text) (data data' : LicenseData) : Prop :=
  ∀ name ∈ tokens, data.textOf? names name = data'.textOf? names name

/-- The same data in another form, as far as some tokens are concerned. -/
inductive Restated (names : FieldNames) (tokens : List Text) :
    LicenseData → LicenseData → Prop where
  /-- The fields in another order. -/
  | reordered {fields fields' : Fields Value} : fields.entries.Perm fields'.entries →
      Restated names tokens (.fields fields) (.fields fields')
  /-- One more field, which is none of the tokens and has a text. -/
  | extended {fields : Fields Value} {name : Text} {value : Value} {text : Text} :
      fields.isEmpty = false → name ∉ fields.names → name ∉ tokens → name ≠ names.serial →
      value.coerced = .ok text →
      Restated names tokens (.fields fields) (.fields (fields.put name value))
  /-- A value as its text. -/
  | coerced {fields : Fields Value} {name : Text} {value : Value} {text : Text} :
      fields.get? name = some value → value.coerced = .ok text →
      Restated names tokens (.fields fields) (.fields (fields.put name (.text text)))
  /-- A plain text as the field that it stands for. -/
  | named {text : Text} : text ≠ [] →
      Restated names tokens (.text text) (.fields (Fields.empty.put names.raw (.text text)))
  | symm {data data' : LicenseData} : Restated names tokens data data' →
      Restated names tokens data' data
  | trans {data data' data'' : LicenseData} : Restated names tokens data data' →
      Restated names tokens data' data'' → Restated names tokens data data''

variable {names : FieldNames} {tokens : List Text} {data data' : LicenseData}

theorem AgreeOn.symm (agree : AgreeOn names tokens data data') :
    AgreeOn names tokens data' data :=
  fun name member => (agree name member).symm

theorem signable_fields_iff {fields : Fields Value} :
    Signable names (.fields fields) ↔ fields.names ≠ [] ∧ names.serial ∉ fields.names ∧
      ∀ name value, fields.get? name = some value → ∃ text, value.coerced = .ok text := by
  have isEmpty : (LicenseData.fields fields).isEmpty = false ↔ fields.names ≠ [] := by
    simp [LicenseData.isEmpty, Fields.isEmpty, Fields.names]
  rw [← isEmpty, ← Fields.exists_coerced_iff_get?]
  constructor
  · rintro ⟨nonempty, unreserved, coercible⟩
    exact ⟨nonempty, unreserved, coercible⟩
  · rintro ⟨nonempty, unreserved, coercible⟩
    exact ⟨nonempty, unreserved, coercible⟩

/-- Putting a value that has a text, in place of another one or of none, keeps that every value has
a text. -/
theorem coercible_put_iff {fields : Fields Value} {name : Text} {value : Value} {text : Text}
    (coerces : value.coerced = .ok text)
    (replaced : ∀ old, fields.get? name = some old → ∃ text, old.coerced = .ok text) :
    (∀ other found, (fields.put name value).get? other = some found →
        ∃ text, found.coerced = .ok text) ↔
      ∀ other found, fields.get? other = some found → ∃ text, found.coerced = .ok text := by
  constructor
  · intro coercible other found given
    by_cases same : name = other
    · subst same
      exact replaced found given
    · refine coercible other found ?_
      rw [Fields.get?_put, if_neg same, given]
  · intro coercible other found given
    rw [Fields.get?_put] at given
    split at given
    · obtain rfl := Option.some.inj given
      exact ⟨text, coerces⟩
    · exact coercible other found given

theorem Restated.signable_iff (restated : Restated names tokens data data') :
    data.Signable names ↔ data'.Signable names := by
  induction restated with
  | @reordered fields fields' perm =>
      have same (name : Text) (value : Value) :
          fields.get? name = some value ↔ fields'.get? name = some value := by
        rw [Fields.get?_eq_some_iff, Fields.get?_eq_some_iff, perm.mem_iff]
      have perm := perm.map Prod.fst
      simp only [signable_fields_iff, same]
      rw [Fields.names, Fields.names, perm.mem_iff, Ne, Ne, ← List.length_eq_zero_iff,
        perm.length_eq, List.length_eq_zero_iff]
  | @extended fields name value text nonempty fresh other different coerces =>
      have given : fields.names ≠ [] := by
        simpa [Fields.isEmpty, Fields.names] using nonempty
      have unread := Fields.get?_eq_none_iff.mpr fresh
      rw [signable_fields_iff, signable_fields_iff, Fields.names_put, if_neg fresh,
        coercible_put_iff coerces (by simp [unread])]
      simp [given, Ne.symm different]
  | @coerced fields name value text found coerces =>
      have member : name ∈ fields.names :=
        Fields.mem_names_of_mem_entries (Fields.get?_eq_some_iff.mp found)
      rw [signable_fields_iff, signable_fields_iff, Fields.names_put, if_pos member,
        coercible_put_iff rfl (by simp [found, coerces])]
  | @named text nonempty =>
      have given : (LicenseData.text text).isEmpty = false := by
        simpa [LicenseData.isEmpty] using nonempty
      constructor
      · intro signable
        exact ⟨rfl, signable.unreserved, signable.coercible⟩
      · intro signable
        exact ⟨given, signable.unreserved, signable.coercible⟩
  | symm _ ih => exact ih.symm
  | trans _ _ ih ih' => exact ih.trans ih'

theorem Restated.agreeOn (restated : Restated names tokens data data') :
    AgreeOn names tokens data data' := by
  induction restated with
  | @reordered fields fields' perm =>
      intro name _
      have same : fields.get? name = fields'.get? name := by
        apply Option.ext
        intro value
        rw [Fields.get?_eq_some_iff, Fields.get?_eq_some_iff, perm.mem_iff]
      exact congrArg (Option.bind · Value.text?) same
  | @extended fields other value text nonempty fresh unnamed different coerces =>
      intro name member
      have apart : other ≠ name := fun same => unnamed (same ▸ member)
      simp only [textOf?, toFields, Fields.get?_put, if_neg apart]
  | @coerced fields other value text found coerces =>
      intro name _
      simp only [textOf?, toFields, Fields.get?_put]
      split
      · next same =>
          rw [← same, found]
          exact Value.text?_eq_some_iff.mpr coerces
      · rfl
  | named nonempty => exact fun _ _ => rfl
  | symm _ ih => exact ih.symm
  | trans _ _ ih ih' => exact fun name member => (ih name member).trans (ih' name member)

end LicenseData

/-! ### Drafts -/

namespace Draft

variable {draft draft' : Draft}

theorem signedFields_congr (sameScan : draft.scan = draft'.scan)
    (same : ∀ name ∈ draft.scan.names, draft.coerced.get? name = draft'.coerced.get? name) :
    draft.signedFields = draft'.signedFields := by
  rw [signedFields, signedFields, ← sameScan]
  refine congrArg Fields.ofList (List.filterMap_congr fun name member => ?_)
  rw [same name (Scan.mem_fields_iff.mp member)]

theorem serial_congr (names : FieldNames) (same : draft.signedFields = draft'.signedFields)
    (key : PrivateKey) :
    draft.serial names key = draft'.serial names key := by
  rw [serial, serial, same]

theorem document_congr (sameTemplate : draft.template = draft'.template)
    (same : draft.signedFields = draft'.signedFields) (serial : Text) :
    draft.document names serial = draft'.document names serial := by
  rw [document, document, sameTemplate, same]

end Draft

theorem Outline.fieldsOf_of_signable {names : FieldNames} {data : LicenseData}
    (request : GenerateRequest) (given : request.data = some data)
    (signable : data.Signable names) :
    fieldsOf names request =
      match request.key.problem? "private_key".text with
      | some problem => .error (.input problem)
      | none => .ok (data.toFields names) := by
  have unreserved : (data.toFields names).contains names.serial = false := by
    simpa only [Bool.eq_false_iff, ne_eq, Fields.contains_iff] using signable.unreserved
  cases keyed : request.key.problem? "private_key".text <;>
    simp only [fieldsOf, given, keyed, signable.nonempty, unreserved, Bool.false_eq_true, if_false]

/-! ### Requests -/

/-- Calls that end alike, and are signed alike if they give a document. -/
structure SameIssue (config : Config) (files : FileSystem) (options options' : Options) : Prop where
  outcome : (generate config files options).outcome = (generate config files options').outcome
  signed : ∀ draft key serial, Issues config files options draft key serial →
    ∃ draft', Issues config files options' draft' key serial ∧
      draft'.signedFields = draft.signedFields

namespace GenerateRequest

variable {config : Config} {files : FileSystem} {options options' : Options}
  {data data' : LicenseData} {key : KeyOptions} {password template : Option Text}

/-- How a request ends that has a draft depends on its serial. -/
theorem outcome_run {request : GenerateRequest} {draft : Draft}
    (drafted : Draft.ofRequest config request = .ok draft) :
    (request.run config files).outcome =
      (request.serialOf config files draft).map (draft.document config.names) := by
  obtain ⟨outline, outlined, drafted⟩ := Draft.ofRequest_eq_ok_iff_outline.mp drafted
  cases signed : request.serialOf config files draft with
  | error failure =>
      rw [run_of_unsigned outlined drafted signed]
      rfl
  | ok serial =>
      rw [run_of_signed outlined drafted signed]
      rfl

/-- Requests that differ in their data only are refused for the same reason, or have drafts that
sign the same fields, if the data agree on the tokens of the template. -/
theorem drafts_of_agreeOn (key : KeyOptions) (password : Option Text)
    (signable : data.Signable config.names)
    (signable' : data'.Signable config.names)
    (agree : data.AgreeOn config.names
      (Template.scan (template.getD config.defaultTemplate)).names data') :
    (∃ error, Outline.ofRequest config ⟨some data, key, password, template⟩ = .error error ∧
        Outline.ofRequest config ⟨some data', key, password, template⟩ = .error error) ∨
      ∃ draft draft', Draft.ofRequest config ⟨some data, key, password, template⟩ = .ok draft ∧
        Draft.ofRequest config ⟨some data', key, password, template⟩ = .ok draft' ∧
        draft.template = draft'.template ∧ draft.signedFields = draft'.signedFields := by
  have read := Outline.fieldsOf_of_signable ⟨some data, key, password, template⟩ rfl signable
  have read' := Outline.fieldsOf_of_signable ⟨some data', key, password, template⟩ rfl signable'
  cases keyed : key.problem? "private_key".text with
  | some problem =>
      simp only [keyed] at read read'
      left
      rw [Outline.ofRequest, Outline.ofRequest, read, read']
      exact ⟨.input problem, rfl, rfl⟩
  | none =>
      simp only [keyed] at read read'
      by_cases hasSerial : config.names.serial ∈
          (Template.scan (template.getD config.defaultTemplate)).names
      · right
        obtain ⟨texts, coerces⟩ := signable.coercible
        obtain ⟨texts', coerces'⟩ := signable'.coercible
        refine ⟨_, _, Draft.ofRequest_eq_ok_iff.mpr ⟨_, texts, read, coerces, hasSerial, rfl⟩,
          Draft.ofRequest_eq_ok_iff.mpr ⟨_, texts', read', coerces', hasSerial, rfl⟩, rfl, ?_⟩
        refine Draft.signedFields_congr rfl fun name member => ?_
        rw [Fields.get?_of_coerced coerces, Fields.get?_of_coerced coerces']
        exact agree name member
      · left
        have unnamed : (Template.scan (template.getD config.defaultTemplate)).fields.contains
            config.names.serial = false := by
          simpa only [Bool.eq_false_iff, ne_eq, List.contains_iff_mem, Scan.mem_fields_iff]
            using hasSerial
        rw [Outline.ofRequest, Outline.ofRequest, read, read']
        simp only [bind, Except.bind, unnamed]
        exact ⟨_, rfl, rfl⟩

theorem outcome_run_eq_of_agreeOn (signable : data.Signable config.names)
    (signable' : data'.Signable config.names)
    (agree : data.AgreeOn config.names
      (Template.scan (template.getD config.defaultTemplate)).names data') :
    (run config files ⟨some data, key, password, template⟩).outcome =
      (run config files ⟨some data', key, password, template⟩).outcome := by
  rcases drafts_of_agreeOn key password signable signable' agree with
    ⟨error, refused, refused'⟩ | ⟨draft, draft', drafted, drafted', sameTemplate, sameSigned⟩
  · rw [run_of_refused refused, run_of_refused refused']
  · rw [outcome_run drafted, outcome_run drafted']
    have sameDocument : draft.document config.names = draft'.document config.names :=
      funext fun serial => Draft.document_congr sameTemplate sameSigned serial
    have sameSerial : serialOf config files ⟨some data, key, password, template⟩ draft =
        serialOf config files ⟨some data', key, password, template⟩ draft' := by
      have serials := funext fun key => Draft.serial_congr config.names sameSigned key
      rw [serialOf, serialOf, serials]
      rfl
    rw [sameDocument, sameSerial]

/-- Calls that differ in their data only are refused for the same reason, or make requests that
differ in their data only. -/
theorem ofOptions_of_data (agree : Options.AgreeBut ["data".text] options options')
    (given : options.data "data".text = .ok (some data))
    (given' : options'.data "data".text = .ok (some data')) :
    (∃ error, ofOptions options = .error error ∧ ofOptions options' = .error error) ∨
      ∃ key password template, options.text "template".text = .ok template ∧
        ofOptions options = .ok ⟨some data, key, password, template⟩ ∧
        ofOptions options' = .ok ⟨some data', key, password, template⟩ := by
  have keys := agree.key_eq "private_key".text (by decide)
  have paths := agree.path_eq "private_key_path".text (by decide)
  have unlocks := agree.text_eq "private_key_password".text (by decide)
  have templates := agree.text_eq "template".text (by decide)
  have known := agree.checkKnown_eq optionNames (by decide)
  rcases sameFault_ofOptions (sameFault_of_ok given given') (sameFault_of_eq keys)
    (sameFault_of_eq paths) (sameFault_of_eq unlocks) (sameFault_of_eq templates) known with
    refused | ⟨request, request', accepted, accepted'⟩
  · exact .inl refused
  · obtain ⟨read, key, path, password, template, -⟩ := ofOptions_eq_ok_iff.mp accepted
    obtain ⟨read', key', path', password', template', -⟩ := ofOptions_eq_ok_iff.mp accepted'
    obtain ⟨_, ⟨content, keyPath⟩, unlock, text⟩ := request
    obtain ⟨_, ⟨content', keyPath'⟩, unlock', text'⟩ := request'
    cases given.symm.trans read
    cases given'.symm.trans read'
    cases key.symm.trans (keys.trans key')
    cases path.symm.trans (paths.trans path')
    cases password.symm.trans (unlocks.trans password')
    cases template.symm.trans (templates.trans template')
    exact .inr ⟨_, _, _, template, accepted, accepted'⟩

end GenerateRequest

section Issuing

theorem Options.UsesTemplate.unique {config : Config} {options : Options}
    {template template' : Text} (uses : options.UsesTemplate config template)
    (uses' : options.UsesTemplate config template') : template = template' := by
  obtain ⟨given, read, rfl⟩ := uses
  obtain ⟨given', read', rfl⟩ := uses'
  rw [Except.ok.inj (read.symm.trans read')]

variable {config : Config} {files : FileSystem} {options options' : Options}
  {data data' : LicenseData}

theorem sameIssue_of_agreeOn (agree : Options.AgreeBut ["data".text] options options')
    (given : options.data "data".text = .ok (some data))
    (given' : options'.data "data".text = .ok (some data'))
    (signable : data.Signable config.names) (signable' : data'.Signable config.names)
    (same : ∀ template, options.UsesTemplate config template →
      data.AgreeOn config.names (Template.scan template).names data') :
    SameIssue config files options options' := by
  rcases GenerateRequest.ofOptions_of_data agree given given' with
    ⟨error, refused, refused'⟩ | ⟨key, password, template, read, accepted, accepted'⟩
  · constructor
    · rw [generate_of_refused refused, generate_of_refused refused']
    · rintro draft key serial ⟨⟨request, impossible, -⟩, -⟩
      rw [refused] at impossible
      cases impossible
  · have agreeOn := same _ ⟨template, read, rfl⟩
    constructor
    · rw [generate_of_accepted accepted, generate_of_accepted accepted']
      exact GenerateRequest.outcome_run_eq_of_agreeOn signable signable' agreeOn
    · rintro draft usedKey serial ⟨⟨request, accepted'', drafted, loaded⟩, signed⟩
      obtain rfl := Except.ok.inj (accepted''.symm.trans accepted)
      -- The drafts themselves may differ in fields without a token, but not in what is signed.
      rcases GenerateRequest.drafts_of_agreeOn key password signable
        signable' agreeOn with ⟨error, refused, -⟩ | ⟨_, draft', drafted', drafted'', -, sameSigned⟩
      · obtain ⟨_, outlined, -⟩ := Draft.ofRequest_eq_ok_iff_outline.mp drafted
        rw [refused] at outlined
        cases outlined
      · obtain rfl := Except.ok.inj (drafted.symm.trans drafted')
        refine ⟨draft', ⟨⟨_, accepted', drafted'', loaded⟩, ?_⟩, sameSigned.symm⟩
        rw [← Draft.serial_congr _ sameSigned]
        exact signed

/-- Two calls that differ only in data that can be signed give the same document with the same
signature, or fail with the same error, if the data agree on the tokens of the template.  Such data
is the same data in another order, with other fields that the template does not name and that have
texts, with values as their texts, or with a plain text as the raw field. -/
theorem generate_depends_on_token_texts (config : Config) (files : FileSystem) :
    (∀ options options' data data', Options.AgreeBut ["data".text] options options' →
      options.data "data".text = .ok (some data) →
      options'.data "data".text = .ok (some data') →
      data.Signable config.names → data'.Signable config.names →
      (∀ template, options.UsesTemplate config template →
        data.AgreeOn config.names (Template.scan template).names data') →
      SameIssue config files options options') ∧
    ∀ options options' data data' template,
      Options.AgreeBut ["data".text] options options' →
      options.data "data".text = .ok (some data) →
      options'.data "data".text = .ok (some data') → data.Signable config.names →
      options.UsesTemplate config template →
      LicenseData.Restated config.names (Template.scan template).names data data' →
      SameIssue config files options options' := by
  constructor
  · intro options options' data data' agree given given' signable signable' same
    exact sameIssue_of_agreeOn agree given given' signable signable' same
  · intro options options' data data' template agree given given' signable uses restated
    have signable' := restated.signable_iff.mp signable
    refine sameIssue_of_agreeOn agree given given' signable signable' fun template' uses' => ?_
    obtain rfl := uses.unique uses'
    exact restated.agreeOn

end Issuing

namespace Sample

/-- Data with a truth value for the token of `spelled` and a number that it does not name. -/
def numbered : List (Scalar × Value) :=
  [(.text "n".text, .int 5), (.text "a".text, .bool true)]

/-- Data with the text of the truth value for the token, and nothing else. -/
def bare : List (Scalar × Value) :=
  [(.text "a".text, .text "true".text)]

def numberedFields : Fields Value :=
  Fields.ofList [("n".text, .int 5), ("a".text, .bool true)]

def bareFields : Fields Value :=
  Fields.ofList [("a".text, .text "true".text)]

theorem generateOptions_agree (data data' : Value) :
    Options.AgreeBut ["data".text] (generateOptions data) (generateOptions data') :=
  Fields.eq_of_entries_eq rfl

theorem generateOptions_usesTemplate (template : Text) (data : Value) :
    (generateOptions data).UsesTemplate (config template) template :=
  ⟨none, rfl, rfl⟩

theorem agreeOn_spelled :
    (LicenseData.fields numberedFields).AgreeOn (config spelled).names
      (Template.scan spelled).names (.fields bareFields) := by
  rw [names_spelled]
  intro name member
  rcases List.mem_cons.mp member with rfl | later
  · rfl
  · obtain rfl := List.mem_singleton.mp later
    rfl

theorem coerced_numberedFields :
    numberedFields.coerced =
      .ok (Fields.ofList [("n".text, "5".text), ("a".text, "true".text)]) := by
  have written : (Value.int 5).coerced = .ok "5".text := eq_ok_of_toOption (by decide +kernel)
  exact Fields.coerced_eq_ok_iff.mpr (.cons ⟨rfl, written⟩ (.cons ⟨rfl, rfl⟩ .nil))

end Sample

/-- Another field, in front, and the text of a truth value make no difference, and neither does the
form of a plain text. -/
theorem generate_depends_on_token_texts_samples :
    SameIssue (Sample.config Sample.spelled) Sample.files
        (Sample.generateOptions (.map Sample.numbered))
        (Sample.generateOptions (.map Sample.bare)) ∧
      SameIssue (Sample.config Sample.spelled) Sample.files
        (Sample.generateOptions (.text "x".text))
        (Sample.generateOptions (.map [(.text "string".text, .text "x".text)])) := by
  obtain ⟨ofTexts, ofRestated⟩ :=
    generate_depends_on_token_texts (Sample.config Sample.spelled) Sample.files
  constructor
  · refine ofTexts _ _ (.fields Sample.numberedFields) (.fields Sample.bareFields)
      (Sample.generateOptions_agree _ _) rfl rfl
      ⟨rfl, by decide, _, Sample.coerced_numberedFields⟩ ⟨rfl, by decide, _, rfl⟩ ?_
    intro template uses
    obtain rfl := uses.unique (Sample.generateOptions_usesTemplate Sample.spelled _)
    exact Sample.agreeOn_spelled
  · exact ofRestated _ _ (.text "x".text) _ Sample.spelled (Sample.generateOptions_agree _ _) rfl
      rfl ⟨rfl, by decide, _, rfl⟩ (Sample.generateOptions_usesTemplate _ _) (.named (by decide))

namespace Sample

/-- The draft of the bare data. -/
def bareDraft : Draft :=
  ⟨spelled, Template.scan spelled, true, Fields.ofList [("a".text, "true".text)]⟩

theorem exists_document_bare :
    ∃ document, (generate (config spelled) files (generateOptions (.map bare))).outcome =
      .ok document := by
  have accepted : GenerateRequest.ofOptions (generateOptions (.map bare)) =
      .ok ⟨some (.fields bareFields), ⟨some (.text privateKeyText), none⟩, none, none⟩ := rfl
  obtain ⟨serial, issued⟩ := exists_issues (show _ = bareDraft from rfl) accepted rfl rfl
    (by decide) (by decide +kernel) (by decide +kernel)
  exact ⟨_, generate_outcome_eq_ok_iff.mpr ⟨_, _, _, issued, rfl⟩⟩

/-- The bare data with another field. -/
def extended (value : Value) : Fields Value :=
  bareFields.put "n".text value

theorem outcome_extended {value : Value} {error : Uncoercible}
    (fails : value.coerced = .error error) :
    (generate (config spelled) files
        (generateOptions (.map (bare ++ [(.text "n".text, value)])))).outcome =
      .error (.uncoercible error) := by
  have accepted : GenerateRequest.ofOptions
      (generateOptions (.map (bare ++ [(.text "n".text, value)]))) =
      .ok ⟨some (.fields (extended value)), ⟨some (.text privateKeyText), none⟩, none, none⟩ := rfl
  have read : Outline.fieldsOf (config spelled).names
      ⟨some (.fields (extended value)), ⟨some (.text privateKeyText), none⟩, none, none⟩ =
      .ok (extended value) :=
    fieldsOf_eq_ok rfl (by rw [show (extended value).names = ["a".text, "n".text] from rfl]; decide)
  have hasSerial : (config spelled).names.serial ∈ (Template.scan spelled).names := by
    rw [names_spelled]
    decide
  have outlined := Outline.ofRequest_eq_ok_iff.mpr ⟨_, read, hasSerial, rfl⟩
  have undrafted : (extended value).coerced = .error error := by
    have entries : (extended value).entries =
        [("a".text, .text "true".text), ("n".text, value)] := rfl
    rw [Fields.coerced, entries, coerceEntries, coerceEntries, fails]
    rfl
  rw [generate_of_accepted accepted,
    GenerateRequest.run_of_uncoercible outlined (Outline.draft_eq_error_iff.mpr undrafted)]

/-- An integer with one digit too many. -/
def longInteger : Value := .int (10 ^ 4300)

theorem coerced_longInteger : longInteger.coerced = .error .longInteger := by
  have tooLong : Integer.isTooLong (10 ^ 4300) = true := by decide +kernel
  have written : longInteger.coerced = Integer.written (10 ^ 4300) := by
    rw [longInteger, Value.int]
    simp only [Value.coerced, Value.ownText, Scalar.ownText, Scalar.nestedText]
  rw [written, Integer.written, if_pos tooLong]

end Sample

/-- A field that the template does not name matters if its value has no text, and so does an entry
whose key is neither a text nor bytes. -/
theorem exists_unnamed_field_refused :
    (∃ document, (generate (Sample.config Sample.spelled) Sample.files
        (Sample.generateOptions (.map Sample.bare))).outcome = .ok document) ∧
      (LicenseData.fields Sample.bareFields).AgreeOn (Sample.config Sample.spelled).names
        (Template.scan Sample.spelled).names (.fields (Sample.extended Sample.longInteger)) ∧
      (generate (Sample.config Sample.spelled) Sample.files (Sample.generateOptions
          (.map (Sample.bare ++ [(.text "n".text, Sample.longInteger)])))).outcome =
        .error (.uncoercible .longInteger) ∧
      (generate (Sample.config Sample.spelled) Sample.files (Sample.generateOptions
          (.map (Sample.bare ++ [(.int 5, .text "x".text)])))).outcome =
        .error (.license (.input (.badOption .generate "data".text (.text .notText)))) := by
  refine ⟨Sample.exists_document_bare, ?_, Sample.outcome_extended Sample.coerced_longInteger, rfl⟩
  rw [Sample.names_spelled]
  intro name member
  rcases List.mem_cons.mp member with rfl | later
  · rfl
  · obtain rfl := List.mem_singleton.mp later
    rfl

end LicenseSeal
