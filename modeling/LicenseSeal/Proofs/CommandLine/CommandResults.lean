import LicenseSeal.Proofs.CommandLine.Sessions
import LicenseSeal.Proofs.License.TypedFailures

/-!
# Results of commands

What a command computes from the files before it leaves anything: a document, a parsed license or a
template.  The steps of a command follow this computation, and end the command when it fails.
-/

namespace LicenseSeal

/-- It cannot be told whether anything is at a path that is too long. -/
theorem FileSystem.eq_refused_of_pathTaken {files : FileSystem} {path : Path} {error : FileError}
    (fails : files.pathTaken path = .error error) :
    ∃ written, error = .refused .nameTooLong written none := by
  rw [pathTaken] at fails
  split at fails
  · cases fails
  · split at fails
    · cases fails
    · exact ⟨path.text, (Except.error.inj fails).symm⟩
    · cases fails

namespace CommandLine

open Run

/-- The template of a command, read in the encoding of its configuration. -/
def templateOf (files : FileSystem) (config : Config) : Option Path → Except Failure (Option Text)
  | none => .ok none
  | some path => do
      let text ← (files.readText path config.encoding).mapError .textFile
      pure (some text)

theorem error_of_templateOf {files : FileSystem} {config : Config} {path : Option Path}
    {failure : Failure} (fails : templateOf files config path = .error failure) :
    ∃ error, failure = .textFile error := by
  cases path with
  | none => cases fails
  | some path =>
      rcases bind_eq_error_iff.mp fails with unread | ⟨text, -, impossible⟩
      · obtain ⟨error, -, rfl⟩ := mapError_eq_error_iff.mp unread
        exact ⟨error, rfl⟩
      · cases impossible

theorem follows_template {files : FileSystem} {close : Failure → Course} {config : Config}
    (same : ∀ error, close (.textFile error) = .closing (.textFile error)) (path : Option Path) :
    Follows files close (templateOf files config path) (Run.template config path) := by
  cases path with
  | none => exact follows_pure none
  | some path =>
      refine follows_next (follows_text config path) ?_
      refine follows_bind (follows_reported ?_) fun text _ => follows_pure (some text)
      intro failure fails
      obtain ⟨error, -, rfl⟩ := mapError_eq_error_iff.mp fails
      exact same error

namespace GenerateCommand

/-- The data of a command, as a text or in a file. -/
def dataOf (files : FileSystem) (command : GenerateCommand) : Except Failure (Option LicenseData) :=
  match command.dataFile with
  | none => .ok (command.data.map .text)
  | some path => do
      let fields ← (loadData files path).mapError .data
      pure (some (.fields fields))

/-- Whether there is something where the document is to be written. -/
def outputTaken (files : FileSystem) (command : GenerateCommand) : Except Failure Bool :=
  match command.out with
  | none => .ok false
  | some out => (files.pathTaken out).mapError fun error => .textFile (.file error)

/-- A command that is refused before anything is read: it gives no data or gives it twice, or its
output is there and not to be replaced. -/
def Refused (files : FileSystem) (command : GenerateCommand) : Prop :=
  command.data.isSome = command.dataFile.isSome ∨
    (command.outputTaken files = .ok true ∧ command.force = false)

/-- The configuration and the document that a command produces. -/
def produced (environment : Option Text) (files : FileSystem) (command : GenerateCommand) :
    Except Failure (Config × Text) := do
  let config ← (Config.loadGiven files environment command.config).mapError .config
  let data ← command.dataOf files
  let template ← templateOf files config command.template
  let document ← (GenerateRequest.run config files
    ⟨data, ⟨none, some command.privateKey⟩, none, template⟩).outcome
  pure (config, document)

/-- What a command produces once its output is looked at. -/
def result (environment : Option Text) (files : FileSystem) (command : GenerateCommand) :
    Except Failure (Config × Text) := do
  let _ ← command.outputTaken files
  command.produced environment files

theorem follows_licenseData (files : FileSystem) (command : GenerateCommand) :
    Follows files .closing (command.dataOf files) command.licenseData := by
  rw [dataOf, licenseData]
  cases command.dataFile with
  | none => exact follows_pure _
  | some path =>
      refine follows_next follows_files ?_
      exact follows_bind (follows_reported fun _ _ => rfl) fun fields _ => follows_pure _

theorem follows_checkOutput {files : FileSystem} {command : GenerateCommand}
    (free : ¬ (command.outputTaken files = .ok true ∧ command.force = false)) :
    Follows files .closing ((command.outputTaken files).map fun _ => ()) command.checkOutput := by
  rw [outputTaken] at free ⊢
  rw [checkOutput]
  cases given : command.out with
  | none => exact follows_pure ()
  | some out =>
      refine follows_next follows_files ?_
      simp only [given] at free
      cases ends : files.pathTaken out with
      | error error =>
          obtain ⟨written, rfl⟩ := FileSystem.eq_refused_of_pathTaken ends
          simp only [ends]
          exact follows_throw rfl
      | ok taken =>
          have proceeds : (taken && !command.force) = false := by
            cases taken with
            | false => rfl
            | true => simpa [ends, Except.mapError] using free
          simp only [ends, proceeds, Bool.false_eq_true, if_false]
          exact follows_pure ()

theorem follows_document (environment : Option Text) {files : FileSystem}
    {command : GenerateCommand}
    (free : ¬ (command.outputTaken files = .ok true ∧ command.force = false)) :
    Follows files .closing (command.result environment files)
      (command.checkOutput >>= fun _ => command.document environment) := by
  have checked : command.result environment files =
      ((command.outputTaken files).map fun _ => ()) >>= fun _ =>
        command.produced environment files := by
    rw [result]
    cases command.outputTaken files <;> rfl
  rw [checked]
  refine follows_bind (follows_checkOutput free) fun _ _ => ?_
  refine follows_next (follows_config environment command.config) ?_
  refine follows_bind (follows_reported fun _ _ => rfl) fun config _ => ?_
  refine follows_bind (follows_licenseData files command) fun data _ => ?_
  refine follows_bind (follows_template (fun _ => rfl) command.template) fun template _ => ?_
  refine follows_next follows_files ?_
  refine follows_next (follows_traced _) ?_
  exact follows_bind (follows_reported fun _ _ => rfl) fun document _ => follows_pure _

end GenerateCommand

namespace ParseCommand

/-- The license that a command parses. -/
def result (environment : Option Text) (files : FileSystem) (command : ParseCommand) :
    Except Failure ParsedLicense := do
  let config ← (Config.loadGiven files environment command.config).mapError .config
  let template ← templateOf files config command.template
  (ParseRequest.run config files
    ⟨⟨none, some command.document⟩, ⟨none, some command.publicKey⟩, template, none⟩).outcome

/-- The course of a command that parses when its result fails. -/
def closing : Failure → Course
  | .license error =>
      if error.isCorruption then
        .stopping corruptedCode ("document corrupted: ".text ++ error.message)
      else .closing (.license error)
  | failure => .closing failure

theorem follows_parsed (files : FileSystem) (outcome : Except Failure ParsedLicense) :
    Follows files closing outcome (parsed outcome) := by
  cases outcome with
  | ok license => exact follows_reported fun _ impossible => by cases impossible
  | error failure =>
      cases failure with
      | license error =>
          by_cases corrupted : error.isCorruption = true
          · intro session _
            refine ⟨session.records, ?_⟩
            simp only [parsed, closing, if_pos corrupted]
            exact perform_stop corruptedCode _ session
          · simp only [parsed, if_neg corrupted]
            refine follows_reported fun failure fails => ?_
            obtain rfl := Except.error.inj fails
            rw [closing, if_neg corrupted]
      | _ =>
          refine follows_reported fun failure fails => ?_
          obtain rfl := Except.error.inj fails
          rfl

theorem follows_license (environment : Option Text) (files : FileSystem) (command : ParseCommand) :
    Follows files closing (command.result environment files) (command.license environment) := by
  refine follows_next (follows_config environment command.config) ?_
  refine follows_bind (follows_reported ?_) fun config _ => ?_
  · intro failure fails
    obtain ⟨error, -, rfl⟩ := mapError_eq_error_iff.mp fails
    rfl
  have agrees : ∀ error, closing (.textFile error) = .closing (.textFile error) := fun _ => rfl
  refine follows_bind (follows_template agrees command.template) fun template _ => ?_
  refine follows_next follows_files ?_
  refine follows_next (follows_traced _) ?_
  exact follows_parsed files _

end ParseCommand

namespace InspectCommand

/-- The configuration and the template of a command. -/
def result (environment : Option Text) (files : FileSystem) (command : InspectCommand) :
    Except Failure (Config × Text) := do
  let config ← (Config.loadGiven files environment command.config).mapError .config
  let template ← (files.readText command.template config.encoding).mapError .textFile
  pure (config, template)

/-- The course of a command that inspects when its result fails. -/
def closing (failure : Failure) : Course :=
  if failure.isImproper || failure.isRefusal then .stopping errorCode (described failure)
  else .failing failure

theorem follows_readable {α : Type} (files : FileSystem) (outcome : Except Failure α) :
    Follows files closing outcome (readable outcome) := by
  intro session _
  refine ⟨session.records, ?_⟩
  cases outcome with
  | ok result => rfl
  | error failure =>
      simp only [closing, readable]
      split
      · exact perform_stop errorCode (described failure) session
      · exact perform_throw failure session

theorem follows_reading (environment : Option Text) (files : FileSystem)
    (command : InspectCommand) :
    Follows files closing (command.result environment files) (command.reading environment) := by
  refine follows_next (follows_config environment command.config) ?_
  refine follows_bind (follows_readable files _) fun config _ => ?_
  refine follows_next (follows_text config command.template) ?_
  exact follows_bind (follows_readable files _) fun template _ => follows_pure _

end InspectCommand

end CommandLine

end LicenseSeal
