import LicenseSeal.License.Request
import LicenseSeal.Proofs.DistinctFields

/-!
# Calls that agree in most options

Two calls whose options differ in some hidden ones only are read into requests that differ in these
only, or are refused for the same reason.
-/

namespace LicenseSeal

/-- Two results that have no error, or the same one. -/
def SameFault {ε α β : Type} (first : Except ε α) (second : Except ε β) : Prop :=
  (∃ error, first = .error error ∧ second = .error error) ∨
    ∃ result result', first = .ok result ∧ second = .ok result'

theorem sameFault_of_ok {ε α β : Type} {first : Except ε α} {second : Except ε β} {result : α}
    {result' : β} (succeeds : first = .ok result) (succeeds' : second = .ok result') :
    SameFault first second :=
  .inr ⟨result, result', succeeds, succeeds'⟩

theorem sameFault_of_eq {ε α : Type} {first second : Except ε α} (same : first = second) :
    SameFault first second := by
  subst same
  cases ends : first with
  | error error => exact .inl ⟨error, rfl, rfl⟩
  | ok result => exact sameFault_of_ok rfl rfl

/-- What follows two results that have the same fault can have the same fault as well. -/
theorem sameFault_bind {ε α α' β β' : Type} {first : Except ε α} {first' : Except ε α'}
    {second : α → Except ε β} {second' : α' → Except ε β'} (same : SameFault first first')
    (sameNext : ∀ result result', first = .ok result → first' = .ok result' →
      SameFault (second result) (second' result')) :
    SameFault (first >>= second) (first' >>= second') := by
  rcases same with ⟨error, rfl, rfl⟩ | ⟨result, result', rfl, rfl⟩
  · exact .inl ⟨error, rfl, rfl⟩
  · exact sameNext result result' rfl rfl

theorem sameFault_mapError {ε ε' α β : Type} {first : Except ε α} {second : Except ε β}
    (image : ε → ε') (same : SameFault first second) :
    SameFault (first.mapError image) (second.mapError image) := by
  rcases same with ⟨error, rfl, rfl⟩ | ⟨result, result', rfl, rfl⟩
  · exact .inl ⟨image error, rfl, rfl⟩
  · exact .inr ⟨result, result', rfl, rfl⟩

namespace Options

/-- Options that differ in hidden ones only. -/
def AgreeBut (hidden : List Text) (options options' : Options) : Prop :=
  options.filterNames (fun name => !hidden.contains name) =
    options'.filterNames fun name => !hidden.contains name

variable {hidden : List Text} {options options' : Options}

theorem AgreeBut.mono {hidden' : List Text} (agree : AgreeBut hidden options options')
    (more : ∀ name ∈ hidden, name ∈ hidden') : AgreeBut hidden' options options' := by
  have entries := congrArg
    (fun kept => kept.entries.filter fun entry => !hidden'.contains entry.1) agree
  apply Fields.eq_of_entries_eq
  have absorbed (entry : Text × OptionValue) :
      (!hidden'.contains entry.1 && !hidden.contains entry.1) = !hidden'.contains entry.1 := by
    by_cases isHidden : entry.1 ∈ hidden
    · simp [isHidden, more _ isHidden]
    · simp [isHidden]
  simpa only [Fields.entries_filterNames, List.filter_filter, absorbed] using entries

theorem AgreeBut.given?_eq (agree : AgreeBut hidden options options') (name : Text)
    (visible : name ∉ hidden) : options.given? name = options'.given? name := by
  have kept (options : Options) :
      (options.filterNames fun name => !hidden.contains name).get? name = options.get? name := by
    apply Fields.get?_filterNames
    simp [visible]
  rw [given?, given?, ← kept options, ← kept options', agree]

theorem AgreeBut.readAs_eq {α : Type} {read : Value → Except OptionFault α}
    (agree : AgreeBut hidden options options') (name : Text) (visible : name ∉ hidden) :
    readAs read options name = readAs read options' name := by
  rw [readAs, readAs, agree.given?_eq name visible]

theorem AgreeBut.text_eq (agree : AgreeBut hidden options options') (name : Text)
    (visible : name ∉ hidden) : options.text name = options'.text name :=
  agree.readAs_eq name visible

theorem AgreeBut.path_eq (agree : AgreeBut hidden options options') (name : Text)
    (visible : name ∉ hidden) : options.path name = options'.path name :=
  agree.readAs_eq name visible

theorem AgreeBut.key_eq (agree : AgreeBut hidden options options') (name : Text)
    (visible : name ∉ hidden) : options.key name = options'.key name :=
  agree.readAs_eq name visible

theorem AgreeBut.data_eq (agree : AgreeBut hidden options options') (name : Text)
    (visible : name ∉ hidden) : options.data name = options'.data name :=
  agree.readAs_eq name visible

theorem AgreeBut.checkKnown_eq (agree : AgreeBut hidden options options') (known : List Text)
    (areKnown : ∀ name ∈ hidden, name ∈ known) :
    options.checkKnown known = options'.checkKnown known := by
  have absorbed (name : Text) :
      decide ((!hidden.contains name) = true ∧ (!known.contains name) = true) =
        !known.contains name := by
    by_cases isHidden : name ∈ hidden
    · simp [isHidden, areKnown _ isHidden]
    · simp [isHidden]
  have names := congrArg (fun kept => kept.names.find? fun name => !known.contains name) agree
  simp only [Fields.names_filterNames, List.find?_filter, absorbed] at names
  rw [checkKnown, checkKnown, names]

end Options

/-! ### Requests -/

section Generating

variable {options options' : Options} {content content' : Option KeyContent}
  {password password' : Option Text}

theorem GenerateRequest.ofOptions_eq_ok_iff {request : GenerateRequest} :
    ofOptions options = .ok request ↔
      options.data "data".text = .ok request.data ∧
        options.key "private_key".text = .ok request.key.content ∧
        options.path "private_key_path".text = .ok request.key.path ∧
        options.text "private_key_password".text = .ok request.password ∧
        options.text "template".text = .ok request.template ∧
        options.checkKnown optionNames = .ok () := by
  obtain ⟨data, ⟨content, path⟩, password, template⟩ := request
  rw [ofOptions]
  cases options.data "data".text <;> cases options.key "private_key".text <;>
    cases options.path "private_key_path".text <;>
    cases options.text "private_key_password".text <;>
    cases options.text "template".text <;> cases options.checkKnown optionNames <;>
    simp [bind, Except.bind, pure, Except.pure, and_assoc]

/-- Calls whose options have the same faults one by one are refused for the same reason, or are both
accepted. -/
theorem GenerateRequest.sameFault_ofOptions
    (data : SameFault (options.data "data".text) (options'.data "data".text))
    (key : SameFault (options.key "private_key".text) (options'.key "private_key".text))
    (path : SameFault (options.path "private_key_path".text)
      (options'.path "private_key_path".text))
    (unlocks : SameFault (options.text "private_key_password".text)
      (options'.text "private_key_password".text))
    (template : SameFault (options.text "template".text) (options'.text "template".text))
    (known : options.checkKnown optionNames = options'.checkKnown optionNames) :
    SameFault (ofOptions options) (ofOptions options') := by
  rw [ofOptions, ofOptions]
  refine sameFault_mapError _ (sameFault_bind data fun _ _ _ _ => ?_)
  refine sameFault_bind key fun _ _ _ _ => ?_
  refine sameFault_bind path fun _ _ _ _ => ?_
  refine sameFault_bind unlocks fun _ _ _ _ => ?_
  refine sameFault_bind template fun _ _ _ _ => ?_
  exact sameFault_bind (sameFault_of_eq known) fun _ _ _ _ => sameFault_of_ok rfl rfl

/-- The names of the options with secrets of their own. -/
def GenerateRequest.secretNames : List Text :=
  ["private_key", "private_key_password"].map String.text

/-- Calls that differ in a readable key and a readable password only are refused for the same
reason, or make requests that differ in these only. -/
theorem GenerateRequest.ofOptions_of_agree
    (agree : Options.AgreeBut secretNames options options')
    (key : options.key "private_key".text = .ok content)
    (key' : options'.key "private_key".text = .ok content')
    (unlocks : options.text "private_key_password".text = .ok password)
    (unlocks' : options'.text "private_key_password".text = .ok password') :
    (∃ error, ofOptions options = .error error ∧ ofOptions options' = .error error) ∨
      ∃ data path template,
        ofOptions options = .ok ⟨data, ⟨content, path⟩, password, template⟩ ∧
        ofOptions options' = .ok ⟨data, ⟨content', path⟩, password', template⟩ := by
  have data := agree.data_eq "data".text (by decide)
  have path := agree.path_eq "private_key_path".text (by decide)
  have template := agree.text_eq "template".text (by decide)
  have known := agree.checkKnown_eq optionNames (by decide)
  simp only [ofOptions, key, key', unlocks, unlocks', data, path, template, known]
  cases options'.data "data".text with
  | error fault => exact .inl ⟨_, rfl, rfl⟩
  | ok data =>
      cases options'.path "private_key_path".text with
      | error fault => exact .inl ⟨_, rfl, rfl⟩
      | ok path =>
          cases options'.text "template".text with
          | error fault => exact .inl ⟨_, rfl, rfl⟩
          | ok template =>
              cases options'.checkKnown optionNames with
              | error fault => exact .inl ⟨_, rfl, rfl⟩
              | ok _ => exact .inr ⟨data, path, template, rfl, rfl⟩

end Generating

section Parsing

variable {options options' : Options}

theorem ParseRequest.ofOptions_eq_ok_iff {request : ParseRequest} :
    ofOptions options = .ok request ↔
      options.text "document".text = .ok request.document.content ∧
        options.path "document_path".text = .ok request.document.path ∧
        options.key "public_key".text = .ok request.key.content ∧
        options.path "public_key_path".text = .ok request.key.path ∧
        options.text "template".text = .ok request.template ∧
        options.checkKnown optionNames = .ok () ∧
        options.given? "extractor".text = request.extractor := by
  obtain ⟨⟨document, documentPath⟩, ⟨content, path⟩, template, extractor⟩ := request
  rw [ofOptions]
  cases options.text "document".text <;> cases options.path "document_path".text <;>
    cases options.key "public_key".text <;> cases options.path "public_key_path".text <;>
    cases options.text "template".text <;> cases options.checkKnown optionNames <;>
    simp [bind, Except.bind, pure, Except.pure, and_assoc]

theorem ParseRequest.sameFault_ofOptions
    (document : SameFault (options.text "document".text) (options'.text "document".text))
    (documentPath : SameFault (options.path "document_path".text)
      (options'.path "document_path".text))
    (key : SameFault (options.key "public_key".text) (options'.key "public_key".text))
    (path : SameFault (options.path "public_key_path".text)
      (options'.path "public_key_path".text))
    (template : SameFault (options.text "template".text) (options'.text "template".text))
    (known : options.checkKnown optionNames = options'.checkKnown optionNames) :
    SameFault (ofOptions options) (ofOptions options') := by
  rw [ofOptions, ofOptions]
  refine sameFault_mapError _ (sameFault_bind document fun _ _ _ _ => ?_)
  refine sameFault_bind documentPath fun _ _ _ _ => ?_
  refine sameFault_bind key fun _ _ _ _ => ?_
  refine sameFault_bind path fun _ _ _ _ => ?_
  refine sameFault_bind template fun _ _ _ _ => ?_
  exact sameFault_bind (sameFault_of_eq known) fun _ _ _ _ => sameFault_of_ok rfl rfl

/-- The names of the options that say how a document is read and what it is checked with. -/
def ParseRequest.readingNames : List Text :=
  ["public_key", "template", "extractor"].map String.text

/-- Calls that differ in the key, the template and the extractor only, and read these with the same
faults, are refused for the same reason, or make requests that differ in these only. -/
theorem ParseRequest.ofOptions_of_agree
    (agree : Options.AgreeBut readingNames options options')
    (keys : SameFault (options.key "public_key".text) (options'.key "public_key".text))
    (templates : SameFault (options.text "template".text) (options'.text "template".text)) :
    (∃ error, ofOptions options = .error error ∧ ofOptions options' = .error error) ∨
      ∃ document path content content' template template',
        options.key "public_key".text = .ok content ∧
        options'.key "public_key".text = .ok content' ∧
        options.text "template".text = .ok template ∧
        options'.text "template".text = .ok template' ∧
        ofOptions options =
          .ok ⟨document, ⟨content, path⟩, template, options.given? "extractor".text⟩ ∧
        ofOptions options' =
          .ok ⟨document, ⟨content', path⟩, template', options'.given? "extractor".text⟩ := by
  have document := agree.text_eq "document".text (by decide)
  have documentPath := agree.path_eq "document_path".text (by decide)
  have path := agree.path_eq "public_key_path".text (by decide)
  have known := agree.checkKnown_eq optionNames (by decide)
  simp only [ofOptions, document, documentPath, path, known]
  cases options'.text "document".text with
  | error fault => exact .inl ⟨_, rfl, rfl⟩
  | ok document =>
      cases options'.path "document_path".text with
      | error fault => exact .inl ⟨_, rfl, rfl⟩
      | ok documentPath =>
          rcases keys with ⟨fault, key, key'⟩ | ⟨content, content', key, key'⟩
          · rw [key, key']
            exact .inl ⟨_, rfl, rfl⟩
          · rw [key, key']
            cases options'.path "public_key_path".text with
            | error fault => exact .inl ⟨_, rfl, rfl⟩
            | ok path =>
                rcases templates with ⟨fault, read, read'⟩ | ⟨template, template', read, read'⟩
                · rw [read, read']
                  exact .inl ⟨_, rfl, rfl⟩
                · rw [read, read']
                  cases options'.checkKnown optionNames with
                  | error fault => exact .inl ⟨_, rfl, rfl⟩
                  | ok _ =>
                      exact .inr ⟨⟨document, documentPath⟩, path, content, content', template,
                        template', rfl, rfl, rfl, rfl, rfl, rfl⟩

end Parsing

end LicenseSeal
