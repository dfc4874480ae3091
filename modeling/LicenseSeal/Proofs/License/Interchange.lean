import LicenseSeal.Proofs.License.OptionAgreement
import LicenseSeal.Proofs.License.Runs
import LicenseSeal.Proofs.License.TemplateReading
import LicenseSeal.Proofs.Template.FingerprintIdentity

/-!
# Interchangeable templates

Templates with one fingerprint have the same literal texts and token names.  Only these are used to
compile a grammar, to render fields for all tokens, and to read a document, so that the templates
can stand for each other.
-/

namespace LicenseSeal

/-- Results of compiling that are the same, or that refuse two scans for the same repeated names. -/
inductive SameCompiled {α : Type} : Except TemplateError α → Except TemplateError α → Prop where
  | same (result : Except TemplateError α) : SameCompiled result result
  | repeated {scan scan' : Scan} : scan.duplicates = scan'.duplicates →
      SameCompiled (.error (.repeated scan)) (.error (.repeated scan'))

/-- Runs that are the same, or that end with the refusal of two scans for the same repeated
names. -/
inductive SameReading : Traced ParsedLicense → Traced ParsedLicense → Prop where
  | same (run : Traced ParsedLicense) : SameReading run run
  | repeated {scan scan' : Scan} : scan.duplicates = scan'.duplicates →
      SameReading ⟨[], .error (.license (.template (.repeated scan)))⟩
        ⟨[], .error (.license (.template (.repeated scan')))⟩

/-- The template of a call: that of its options, or that of the configuration. -/
def Options.UsesTemplate (config : Config) (options : Options) (template : Text) : Prop :=
  ∃ given, options.text "template".text = .ok given ∧
    given.getD config.defaultTemplate = template

/-- Templates that can stand for each other: they have the same grammar, give the same document for
fields that cover their tokens, and read the same license from every document. -/
structure Template.Interchangeable (first second : Text) : Prop where
  grammar : SameCompiled (Template.grammar first) (Template.grammar second)
  render : ∀ fields : Fields Text, (∀ name ∈ (scan first).names, name ∈ fields.names) →
    Template.render first fields = Template.render second fields
  parse : ∀ (config config' : Config) (files : FileSystem) (options options' : Options),
    config.names = config'.names → config.encoding = config'.encoding →
    Options.AgreeBut ["template".text] options options' →
    options.UsesTemplate config first → options'.UsesTemplate config' second →
    SameReading (parse config files options) (parse config' files options')

/-! ### Compiling -/

namespace Template

variable {first second : Text} (sameNodes : nodes first = nodes second)

include sameNodes

theorem names_eq_of_nodes_eq : (scan first).names = (scan second).names := by
  have names := congrArg (List.filterMap Grammar.Node.name?) sameNodes
  rwa [Grammar.filterMap_name?_ofSegment, Grammar.filterMap_name?_ofSegment] at names

theorem duplicates_eq_of_nodes_eq : (scan first).duplicates = (scan second).duplicates := by
  rw [Scan.duplicates, Scan.duplicates, names_eq_of_nodes_eq sameNodes]

theorem sameCompiled_grammar :
    SameCompiled (Template.grammar first) (Template.grammar second) := by
  have sameDuplicates := duplicates_eq_of_nodes_eq sameNodes
  have sameFields : (scan first).fields = (scan second).fields :=
    congrArg List.eraseDups (names_eq_of_nodes_eq sameNodes)
  rw [nodes, nodes] at sameNodes
  rw [Template.grammar, Template.grammar, ← sameDuplicates, sameNodes, sameFields]
  cases (scan first).duplicates.isEmpty with
  | true => exact .same _
  | false => exact .repeated sameDuplicates

theorem sameCompiled_ofTemplate (names : FieldNames) :
    SameCompiled (TemplateExtractor.ofTemplate first names)
      (TemplateExtractor.ofTemplate second names) := by
  have compiled := sameCompiled_grammar sameNodes
  rw [TemplateExtractor.ofTemplate, TemplateExtractor.ofTemplate]
  generalize Template.grammar first = result at compiled ⊢
  generalize Template.grammar second = result' at compiled ⊢
  cases compiled with
  | same result => exact .same _
  | repeated sameDuplicates => exact .repeated sameDuplicates

end Template

/-! ### Rendering -/

/-- What a node contributes to a document whose fields cover the tokens. -/
def Grammar.Node.filled (fields : Fields Text) : Grammar.Node → Text
  | .literal text => text
  | .capture name _ => (fields.get? name).getD []

theorem Segment.flatMap_rendered_of_covered {fields : Fields Text} {segments : List Segment}
    (covered : ∀ name ∈ segments.filterMap name?, name ∈ fields.names) :
    segments.flatMap (rendered fields) =
      (segments.map Grammar.Node.ofSegment).flatMap (Grammar.Node.filled fields) := by
  induction segments with
  | nil => rfl
  | cons segment segments ih =>
      cases segment with
      | literal text => exact congrArg (text ++ ·) (ih covered)
      | token name raw =>
          have covered' : ∀ other ∈ name :: segments.filterMap name?, other ∈ fields.names :=
            covered
          obtain ⟨value, found⟩ :=
            Fields.exists_get?_of_mem_names (covered' name List.mem_cons_self)
          have others := ih fun other member => covered' other (List.mem_cons_of_mem name member)
          simp only [List.flatMap_cons, List.map_cons, rendered, Grammar.Node.ofSegment,
            Grammar.Node.filled, found, Option.getD_some, others]

theorem Template.render_eq_of_nodes_eq {first second : Text}
    (sameNodes : nodes first = nodes second) {fields : Fields Text}
    (covered : ∀ name ∈ (scan first).names, name ∈ fields.names) :
    render first fields = render second fields := by
  have covered' : ∀ name ∈ (scan second).names, name ∈ fields.names := by
    rw [← names_eq_of_nodes_eq sameNodes]
    exact covered
  rw [render, render, Segment.flatMap_rendered_of_covered covered,
    Segment.flatMap_rendered_of_covered covered']
  exact congrArg (List.flatMap (Grammar.Node.filled fields)) sameNodes

/-! ### Parsing -/

section Parsing

variable {config config' : Config} {files : FileSystem} {first second : Text}

theorem ParseRequest.sameReading_run {request request' : ParseRequest}
    (sameNodes : Template.nodes first = Template.nodes second)
    (sameNames : config.names = config'.names) (sameEncoding : config.encoding = config'.encoding)
    (sameDocument : request.document = request'.document) (sameKey : request.key = request'.key)
    (sameExtractor : request.extractor = request'.extractor)
    (uses : request.template.getD config.defaultTemplate = first)
    (uses' : request'.template.getD config'.defaultTemplate = second) :
    SameReading (request.run config files) (request'.run config' files) := by
  have sameMaterial : request.material config files = request'.material config' files :=
    material_congr sameEncoding sameDocument sameKey
  have reading_of_prepared (same : request.prepare config files = request'.prepare config' files) :
      SameReading (request.run config files) (request'.run config' files) := by
    rw [run_congr sameNames same]
    exact .same _
  cases found : request.material config files with
  | error failure =>
      apply reading_of_prepared
      rw [prepare_of_missing found, prepare_of_missing (sameMaterial.symm.trans found)]
  | ok material =>
      obtain ⟨key, document⟩ := material
      have prepared := prepare_of_found found
      have prepared' := prepare_of_found (sameMaterial.symm.trans found)
      cases given : request.extractor with
      | some extractor =>
          -- A caller's extractor is used whatever the template is.
          apply reading_of_prepared
          have given' := sameExtractor.symm.trans given
          rw [prepared, prepared', resolveExtractor, resolveExtractor, given, given']
          cases extractor <;> rfl
      | none =>
          have given' := sameExtractor.symm.trans given
          rw [resolveExtractor, given, uses] at prepared
          rw [resolveExtractor, given', uses', ← sameNames] at prepared'
          have compiled := Template.sameCompiled_ofTemplate sameNodes config.names
          generalize TemplateExtractor.ofTemplate first config.names = result at *
          generalize TemplateExtractor.ofTemplate second config.names = result' at *
          cases compiled with
          | same result => exact reading_of_prepared (prepared.trans prepared'.symm)
          | repeated sameDuplicates =>
              rw [run_of_unprepared prepared, run_of_unprepared prepared']
              exact .repeated sameDuplicates

theorem sameReading_parse {options options' : Options}
    (sameNodes : Template.nodes first = Template.nodes second)
    (sameNames : config.names = config'.names) (sameEncoding : config.encoding = config'.encoding)
    (agree : Options.AgreeBut ["template".text] options options')
    (uses : options.UsesTemplate config first) (uses' : options'.UsesTemplate config' second) :
    SameReading (parse config files options) (parse config' files options') := by
  obtain ⟨given, read, used⟩ := uses
  obtain ⟨given', read', used'⟩ := uses'
  have reading : Options.AgreeBut ParseRequest.readingNames options options' :=
    agree.mono (by decide)
  have keys := agree.key_eq "public_key".text (by decide)
  have extractors := agree.given?_eq "extractor".text (by decide)
  rcases ParseRequest.ofOptions_of_agree reading (sameFault_of_eq keys)
    (sameFault_of_ok read read') with ⟨error, refused, refused'⟩ |
      ⟨document, path, content, content', template, template', key, key', given, given', accepted,
        accepted'⟩
  · rw [parse_of_refused refused, parse_of_refused refused']
    exact .same _
  · obtain rfl := Except.ok.inj (key.symm.trans (keys.trans key'))
    obtain rfl := Except.ok.inj (given.symm.trans read)
    obtain rfl := Except.ok.inj (given'.symm.trans read')
    rw [parse_of_accepted accepted, parse_of_accepted accepted']
    exact ParseRequest.sameReading_run sameNodes sameNames sameEncoding rfl rfl extractors used
      used'

end Parsing

theorem Template.interchangeable_of_nodes_eq {first second : Text}
    (sameNodes : nodes first = nodes second) : Interchangeable first second := by
  constructor
  · exact sameCompiled_grammar sameNodes
  · intro fields covered
    exact render_eq_of_nodes_eq sameNodes covered
  · intro config config' files options options' sameNames sameEncoding agree uses uses'
    exact sameReading_parse sameNodes sameNames sameEncoding agree uses uses'

/-- The text that a fingerprint hashes is the same for two templates exactly if they have the same
literal texts and token names, and, unless the hash has a collision on them, so is a fingerprint
that the first one has.  Templates with the same text can stand for each other. -/
theorem Template.identifies_interchangeable (first second : Text) :
    ((scan first).identity = (scan second).identity ↔ nodes first = nodes second) ∧
    ((∀ bytes bytes', Encoding.Utf8.encode (scan first).identity = .ok bytes →
        Encoding.Utf8.encode (scan second).identity = .ok bytes' →
        Sha256.digest bytes = Sha256.digest bytes' → bytes = bytes') →
      ∀ hash, fingerprint first = .ok hash →
        (fingerprint second = .ok hash ↔ nodes first = nodes second)) ∧
    ((scan first).identity = (scan second).identity →
      fingerprint first = fingerprint second ∧ Interchangeable first second) := by
  refine ⟨?_, ?_, ?_⟩
  · exact Scan.identity_eq_iff
  · intro noCollision hash hashed
    exact fingerprint_eq_ok_iff_of_noCollision noCollision hashed
  · intro sameIdentity
    constructor
    · rw [fingerprint, fingerprint, sameIdentity]
    · exact interchangeable_of_nodes_eq (Scan.identity_eq_iff.mp sameIdentity)

namespace Sample

/-- A template whose two tokens are spelled in different ways. -/
def spelled : Text := "\x7b\x7b a \x7d\x7d-\x7b\x7b\x7bserial\x7d\x7d\x7d\x7d".text

/-- The same template, spelled in other ways. -/
def respelled : Text := "\x7b\x7b&a\x7d\x7d-\x7b\x7bserial\x7d\x7d\x7d".text

theorem nodes_spelled : Template.nodes spelled = Template.nodes respelled := by
  decide +kernel

theorem names_spelled : (Template.scan spelled).names = ["a".text, "serial".text] := by
  decide +kernel

theorem exists_fingerprint_spelled : ∃ hash, Template.fingerprint spelled = .ok hash := by
  have plain : ∀ c ∈ (Template.scan spelled).identity, c.isSurrogate = false := by decide +kernel
  exact ⟨_, Template.fingerprint_eq_ok_iff.mpr ⟨_, Encoding.Utf8.encode_of_plain plain, rfl⟩⟩

theorem usesTemplate_default (template document : Text) :
    (parseOptions document).UsesTemplate (config template) template :=
  ⟨none, rfl, rfl⟩

/-- Each of two templates that can stand for each other can be the default one. -/
theorem sameReading_default {first second : Text}
    (interchangeable : Template.Interchangeable first second) (document : Text) :
    SameReading (parse (config first) files (parseOptions document))
      (parse (config second) files (parseOptions document)) :=
  interchangeable.parse _ _ _ _ _ rfl rfl rfl (usesTemplate_default first document)
    (usesTemplate_default second document)

end Sample

/-- Two spellings of one template have one fingerprint, give one document for the same texts, and
read every document alike. -/
theorem Template.identifies_interchangeable_spellings :
    (scan Sample.spelled).identity = (scan Sample.respelled).identity ∧
    (∃ hash, fingerprint Sample.spelled = .ok hash ∧ fingerprint Sample.respelled = .ok hash) ∧
    (∀ text serial,
      render Sample.spelled (Fields.ofList [("a".text, text), ("serial".text, serial)]) =
        render Sample.respelled (Fields.ofList [("a".text, text), ("serial".text, serial)])) ∧
    ∀ document, SameReading
      (parse (Sample.config Sample.spelled) Sample.files (Sample.parseOptions document))
      (parse (Sample.config Sample.respelled) Sample.files (Sample.parseOptions document)) := by
  obtain ⟨identified, hashed, interchange⟩ :=
    identifies_interchangeable Sample.spelled Sample.respelled
  have sameIdentity := identified.mpr Sample.nodes_spelled
  have noCollision (bytes bytes' : Bytes)
      (encoded : Encoding.Utf8.encode (scan Sample.spelled).identity = .ok bytes)
      (encoded' : Encoding.Utf8.encode (scan Sample.respelled).identity = .ok bytes')
      (_ : Sha256.digest bytes = Sha256.digest bytes') : bytes = bytes' := by
    rw [sameIdentity, encoded'] at encoded
    exact (Except.ok.inj encoded).symm
  obtain ⟨hash, fingerprinted⟩ := Sample.exists_fingerprint_spelled
  have interchangeable := (interchange sameIdentity).2
  refine ⟨sameIdentity, ⟨hash, fingerprinted,
    (hashed noCollision hash fingerprinted).mpr Sample.nodes_spelled⟩, ?_, ?_⟩
  · intro text serial
    apply interchangeable.render
    intro name member
    rw [Sample.names_spelled] at member
    exact member
  · intro document
    exact Sample.sameReading_default interchangeable document

end LicenseSeal
