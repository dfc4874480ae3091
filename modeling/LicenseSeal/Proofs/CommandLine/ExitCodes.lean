import LicenseSeal.Proofs.CommandLine.CommandEndings
import LicenseSeal.Proofs.CommandLine.GivenOptions

/-!
# Exit codes

The exit code of a command line that is read says how its command came off.  Whatever fails is
reported as an error, but for the failures that no command looks for: those in `Escapes`, and a
document that the configured encoding has no bytes for.
-/

namespace LicenseSeal.CommandLine

open Run

/-! ### What is shown of a command -/

/-- A report ends and prints as a course says. -/
structure Report.Shows (report : Report) (course : Course) : Prop where
  ending : report.ending = course.outcome
  printed : report.printed = course.printed

theorem Report.shows_run {environment : Option Text} {files : FileSystem} {words : List Text}
    {invocation : Invocation} {course : Course}
    (read : Invocation.ofWords? files words = some invocation)
    (ends : Ends (invocation.command.run environment) (.initial files) course) :
    (CommandLine.run environment files words).Shows course := by
  rw [Ends, perform, Session.initial] at ends
  rw [CommandLine.run, read]
  dsimp only
  rw [Invocation.run]
  generalize (invocation.command.run environment).run.run ⟨files, [], []⟩ = ended at ends ⊢
  obtain ⟨outcome, session⟩ := ended
  cases outcome <;> exact ⟨ends.1, ends.2⟩

/-- The exit code of a report and the failures that its command can have left unhandled.  If there
is none, an exit code other than zero comes with a line for the error. -/
structure Report.Has (report : Report) (code : Nat) (unhandled : Failure → Prop) : Prop where
  exitCode : report.exitCode = code
  ending : ∀ failure, report.ending = .failure failure ↔ unhandled failure
  errorLine : code ≠ 0 → (∀ failure, ¬ unhandled failure) → HasErrorLine report.printed

/-- Nothing is left unhandled. -/
def Nothing (_ : Failure) : Prop :=
  False

section Showing

variable {report : Report} {course : Course} {last message : Text} {code : Nat}
  {failure : Failure} {left : Failure → Prop}

theorem not_unprintable {text : Text} (taken : Encoding.Utf8.systemError? 0 text = none)
    (failure : Failure) : ¬ Unprintable text failure := by
  rintro ⟨error, refused, -⟩
  rw [taken] at refused
  cases refused

theorem Report.Shows.success {lines : Text} (shows : report.Shows ⟨lines, last, .exit 0⟩)
    (taken : Encoding.Utf8.systemError? 0 last = none) : report.Has 0 Nothing := by
  have ending : report.ending = .exit 0 := by
    rw [shows.ending, Course.outcome, taken]
  constructor
  · rw [exitCode, ending]
  · simp [ending, Nothing]
  · intro nonzero
    exact absurd rfl nonzero

theorem Report.Shows.unprintable {error : Encoding.EncodeError} (shows : report.Shows course)
    (refused : Encoding.Utf8.systemError? 0 course.last = some error) :
    report.Has 1 (Unprintable course.last) := by
  have ending : report.ending = .failure (.unencodable error) := by
    rw [shows.ending, Course.outcome, refused]
  constructor
  · rw [exitCode, ending]
    rfl
  · simp [ending, Unprintable, refused, eq_comm]
  · intro _ handled
    exact absurd ⟨error, refused, rfl⟩ (handled (.unencodable error))

theorem Report.Shows.stopped (lines : Text)
    (shows : report.Shows ((Course.stopping code message).after lines))
    (taken : Encoding.Utf8.systemError? 0 (errorLine message) = none)
    (line : lines = [] ∨ lines.getLast? = some (.char '\n')) : report.Has code Nothing := by
  have ending : report.ending = .exit code := by
    rw [shows.ending, Course.outcome_after, Course.outcome, Course.stopping, taken]
  constructor
  · rw [exitCode, ending]
  · simp [ending, Nothing]
  · intro _ _
    rw [shows.printed, Course.printed_after, Course.printed, Course.stopping, taken]
    exact hasErrorLine_append message line

theorem Report.Shows.error (lines : Text)
    (shows : report.Shows ((Course.stopping errorCode message).after lines))
    (line : lines = [] ∨ lines.getLast? = some (.char '\n')) :
    report.Has 1 (Unprintable (errorLine message)) := by
  cases taken : Encoding.Utf8.systemError? 0 (errorLine message) with
  | none =>
      have has := shows.stopped lines taken line
      refine ⟨has.exitCode, fun failure => ?_, fun nonzero _ => has.errorLine nonzero fun _ => id⟩
      rw [has.ending]
      exact iff_of_false id (not_unprintable taken failure)
  | some error => exact shows.unprintable taken

theorem Report.Shows.unhandled (lines : Text)
    (shows : report.Shows ((Course.failing failure).after lines)) :
    report.Has 1 (failure = ·) := by
  have ending : report.ending = .failure failure := shows.ending
  constructor
  · rw [exitCode, ending]
    rfl
  · simp [ending]
  · intro _ handled
    exact absurd rfl (handled failure)

theorem Report.Has.line (has : report.Has code left) (nonzero : report.exitCode ≠ 0)
    (handled : ∀ failure, report.ending ≠ .failure failure) : HasErrorLine report.printed :=
  has.errorLine (has.exitCode ▸ nonzero) fun failure remains =>
    handled failure ((has.ending failure).mpr remains)

end Showing

/-! ### Texts that can be printed -/

theorem mem_of_mem_withoutStyling {text : Text} {c : CodePoint}
    (member : c ∈ text.withoutStyling) : c ∈ text := by
  induction text using Text.withoutStyling.induct with
  | case1 =>
      rw [Text.withoutStyling] at member
      exact member
  | case2 d rest behind found ih =>
      rw [Text.withoutStyling_of_some found] at member
      obtain ⟨front, letter, rfl, -⟩ := Text.exists_letter_of_dropSequence? found
      simp [ih member]
  | case3 d rest unfound ih =>
      rw [Text.withoutStyling_of_none unfound, List.mem_cons] at member
      rw [List.mem_cons]
      exact member.imp_right ih

/-- A text without surrogates other than those of bytes is printed. -/
theorem printable_of_taken {text : Text}
    (taken : ∀ c ∈ text, c.isSurrogate = true → Encoding.Utf8.isEscapedByte c = true) :
    Encoding.Utf8.systemError? 0 text.withoutStyling = none :=
  Encoding.Utf8.systemError?_eq_none_iff.mpr fun c member =>
    taken c (mem_of_mem_withoutStyling member)

theorem printable_errorLine {message : Text} (plain : ∀ c ∈ message, c.isSurrogate = false) :
    Encoding.Utf8.systemError? 0 (errorLine message) = none := by
  refine printable_of_taken fun c member surrogate => ?_
  have noSurrogate : c.isSurrogate = false := by
    rcases List.mem_append.mp member with front | feed
    · rcases List.mem_append.mp front with fixed | inside
      · exact String.isSurrogate_of_mem_text fixed
      · exact plain c inside
    · exact String.isSurrogate_of_mem_text feed
  rw [noSurrogate] at surrogate
  cases surrogate

/-! ### Commands -/

/-- What the exit code of a command that generates says. -/
structure GenerateCommand.ExitCodes (environment : Option Text) (files : FileSystem)
    (command : GenerateCommand) (report : Report) : Prop where
  codes : report.exitCode = 0 ∨ report.exitCode = 1
  success : report.exitCode = 0 ↔ ¬ command.Refused files ∧
    ∃ config document, command.result environment files = .ok (config, document) ∧
      command.saving files config document = .ok () ∧
      (command.out = none → Encoding.Utf8.systemError? 0 document.withoutStyling = none)
  unreported : ∀ failure, report.ending = .failure failure ↔
    Unprintable (command.course environment files).last failure ∨ ¬ command.Refused files ∧
    ((command.result environment files = .error failure ∧ Escapes failure) ∨
      ∃ config document error, command.result environment files = .ok (config, document) ∧
        command.saving files config document = .error error ∧
        FileSystem.encoded files.codecs config.encoding document = .error error ∧
        failure = .textFile error)
  errorLine : report.exitCode ≠ 0 → (∀ failure, report.ending ≠ .failure failure) →
    HasErrorLine report.printed

/-- What the exit code of a command that parses says. -/
structure ParseCommand.ExitCodes (environment : Option Text) (files : FileSystem)
    (command : ParseCommand) (report : Report) : Prop where
  codes : report.exitCode ≤ 3
  corrupted : report.exitCode = 3 ↔ ∃ error : LicenseError,
    command.result environment files = .error (.license error) ∧ error.isCorruption = true
  error : report.exitCode = 1 ↔
    (∃ failure, command.result environment files = .error failure ∧
      (isReported failure = true ∨ Escapes failure)) ∨
    ∃ license, command.result environment files = .ok license ∧
      ((∃ failure, shown (licenseValue license) = .error failure) ∨
        ∃ error, command.saving files license = .error error)
  valid : report.exitCode = 0 ↔ ∃ license line, command.result environment files = .ok license ∧
    shown (licenseValue license) = .ok line ∧ command.saving files license = .ok () ∧
    license.valid = true
  invalid : report.exitCode = 2 ↔ ∃ license line, command.result environment files = .ok license ∧
    shown (licenseValue license) = .ok line ∧ command.saving files license = .ok () ∧
    license.valid = false
  unreported : ∀ failure, report.ending = .failure failure ↔
    Unprintable (command.course environment files).last failure ∨
    (command.result environment files = .error failure ∧ Escapes failure) ∨
    ∃ license, command.result environment files = .ok license ∧
      (shown (licenseValue license) = .error failure ∨
        ∃ line error, shown (licenseValue license) = .ok line ∧
          command.saving files license = .error error ∧
          FileSystem.jsonBytes (licenseValue license) = .error error ∧ failure = .textFile error)
  errorLine : report.exitCode ≠ 0 → (∀ failure, report.ending ≠ .failure failure) →
    HasErrorLine report.printed

/-- What the exit code of a command that inspects says. -/
structure InspectCommand.ExitCodes (environment : Option Text) (files : FileSystem)
    (command : InspectCommand) (report : Report) : Prop where
  codes : report.exitCode = 0 ∨ report.exitCode = 1 ∨ report.exitCode = 3
  error : report.exitCode = 1 ↔ (∃ failure, command.result environment files = .error failure) ∨
    ∃ config template failure, command.result environment files = .ok (config, template) ∧
      shown config template = .error failure
  rejected : report.exitCode = 3 ↔ ∃ config template line,
    command.result environment files = .ok (config, template) ∧
      shown config template = .ok line ∧ command.rejects template = true
  success : report.exitCode = 0 ↔ ∃ config template line,
    command.result environment files = .ok (config, template) ∧
      shown config template = .ok line ∧ command.rejects template = false
  unreported : ∀ failure, report.ending = .failure failure ↔
    Unprintable (command.course environment files).last failure ∨
    (command.result environment files = .error failure ∧ Escapes failure ∧
      failure.isRefusal = false) ∨
    ∃ config template, command.result environment files = .ok (config, template) ∧
      shown config template = .error failure
  errorLine : report.exitCode ≠ 0 → (∀ failure, report.ending ≠ .failure failure) →
    HasErrorLine report.printed

/-- What the exit code of a command says. -/
def Command.ExitCodes (environment : Option Text) (files : FileSystem) (report : Report) :
    Command → Prop
  | .generate command => command.ExitCodes environment files report
  | .parse command => command.ExitCodes environment files report
  | .inspect command => command.ExitCodes environment files report

section Classifying

variable {environment : Option Text} {files : FileSystem} {report : Report}

namespace GenerateCommand

variable {command : GenerateCommand}

theorem course_of_refused (refused : command.Refused files) :
    ∃ message, command.course environment files = .stopping errorCode message := by
  obtain ⟨message, refuses⟩ := exists_refusal_of_refused refused
  exact ⟨message, by rw [course, refuses]⟩

section Proceeding

variable (proceeds : ¬ command.Refused files)

include proceeds

theorem course_of_error {failure : Failure}
    (fails : command.result environment files = .error failure) :
    command.course environment files = .closing failure := by
  rw [course, refusal?_eq_none_iff.mpr proceeds, fails]

variable {config : Config} {document : Text}
  (succeeds : command.result environment files = .ok (config, document))

include succeeds

theorem course_of_saved (saved : command.saving files config document = .ok ()) :
    command.course environment files =
      ⟨[], (command.confirmation document).withoutStyling, .exit 0⟩ := by
  rw [course, refusal?_eq_none_iff.mpr proceeds, succeeds]
  simp only [saved]

theorem course_of_unsaved {error : TextFileError}
    (fails : command.saving files config document = .error error) :
    command.course environment files = .unwritten "write output failed" error := by
  rw [course, refusal?_eq_none_iff.mpr proceeds, succeeds]
  simp only [fails]

end Proceeding

/-- Where a document is written is always printed, the document itself unless the system does not
take it. -/
theorem printable_confirmation_iff {document : Text}
    (usable : ∀ path, command.out = some path → path.fault? = none) :
    Encoding.Utf8.systemError? 0 (command.confirmation document).withoutStyling = none ↔
      (command.out = none → Encoding.Utf8.systemError? 0 document.withoutStyling = none) := by
  rw [confirmation]
  cases given : command.out with
  | none => simp
  | some out =>
      have taken := PathFault.ofText?_eq_none_iff.mp (usable out given)
      refine iff_of_true (printable_of_taken fun c member surrogate => ?_) (by simp)
      rcases List.mem_append.mp member with front | feed
      · rcases List.mem_append.mp front with fixed | named
        · rw [String.isSurrogate_of_mem_text fixed] at surrogate
          cases surrogate
        · exact (taken c named).1 surrogate
      · rw [String.isSurrogate_of_mem_text feed] at surrogate
        cases surrogate

section Exits

variable (shows : report.Shows (command.course environment files))

include shows

theorem exitCodes_of_refused (refused : command.Refused files) :
    command.ExitCodes environment files report := by
  obtain ⟨message, same⟩ := course_of_refused refused
  rw [same] at shows
  have has := shows.error [] (.inl rfl)
  refine ⟨.inr has.exitCode, ?_, ?_, has.line⟩
  · simp [has.exitCode, refused]
  · simp [has.ending, same, refused, Course.stopping]

variable (proceeds : ¬ command.Refused files)

include proceeds

theorem exitCodes_of_error {failure : Failure} (there : command.FilesThere files)
    (fails : command.result environment files = .error failure) :
    command.ExitCodes environment files report := by
  have same := course_of_error proceeds fails
  rw [same] at shows
  rcases reported_or_escapes there fails with reported | escapes
  · rw [Course.closing, if_pos reported] at same shows
    have has := shows.error [] (.inl rfl)
    refine ⟨.inr has.exitCode, ?_, ?_, has.line⟩
    · simp [has.exitCode, fails]
    · simp only [has.ending, same, fails, Course.stopping]
      grind [Escapes.not_reported]
  · rw [Course.closing, escapes.not_reported] at same shows
    have has := shows.unhandled []
    refine ⟨.inr has.exitCode, ?_, ?_, has.line⟩
    · simp [has.exitCode, fails]
    · have silent := @not_unprintable [] rfl
      simp only [has.ending, same, fails, Course.failing]
      grind

theorem exitCodes_of_ok {config : Config} {document : Text}
    (usable : ∀ path, command.out = some path → path.fault? = none)
    (succeeds : command.result environment files = .ok (config, document)) :
    command.ExitCodes environment files report := by
  cases saved : command.saving files config document with
  | ok done =>
      have same := course_of_saved proceeds succeeds saved
      rw [same] at shows
      have printable := @printable_confirmation_iff _ document usable
      cases printed : Encoding.Utf8.systemError? 0
          (command.confirmation document).withoutStyling with
      | none =>
          have has := shows.success printed
          have silent := not_unprintable printed
          refine ⟨.inl has.exitCode, ?_, ?_, has.line⟩
          · simpa [has.exitCode, proceeds, succeeds, saved] using printable.mp printed
          · simp only [has.ending, same, succeeds, Nothing]
            grind
      | some error =>
          have has := shows.unprintable printed
          refine ⟨.inr has.exitCode, ?_, ?_, has.line⟩
          · rw [printed] at printable
            simpa [has.exitCode, proceeds, succeeds, saved] using printable
          · simp only [has.ending, same, succeeds]
            grind
  | error error =>
      have same := course_of_unsaved proceeds succeeds saved
      rw [same] at shows
      rcases failure_of_saving usable saved with refusal | unencoded
      · rw [Course.unwritten, if_pos refusal] at same shows
        have has := shows.error [] (.inl rfl)
        have encodes : FileSystem.encoded files.codecs config.encoding document ≠ .error error :=
          fun unencoded => by
            rw [FileSystem.isRefusal_of_encoded unencoded] at refusal
            cases refusal
        refine ⟨.inr has.exitCode, ?_, ?_, has.line⟩
        · simp [has.exitCode, succeeds, saved]
        · simp only [has.ending, same, succeeds, Course.stopping]
          grind
      · rw [Course.unwritten, FileSystem.isRefusal_of_encoded unencoded] at same shows
        have has := shows.unhandled []
        have silent := @not_unprintable [] rfl
        refine ⟨.inr has.exitCode, ?_, ?_, has.line⟩
        · simp [has.exitCode, succeeds, saved]
        · simp only [has.ending, same, succeeds, Course.failing]
          grind

omit proceeds in
theorem exitCodes (given : (Command.generate command).Given files) :
    command.ExitCodes environment files report := by
  obtain ⟨dataThere, templateThere, usable⟩ := given
  by_cases refused : command.Refused files
  · exact exitCodes_of_refused shows refused
  · cases produced : command.result environment files with
    | error failure => exact exitCodes_of_error shows refused ⟨dataThere, templateThere⟩ produced
    | ok found => exact exitCodes_of_ok shows refused usable produced

end Exits

end GenerateCommand

namespace ParseCommand

variable {command : ParseCommand} {license : ParsedLicense}

theorem course_of_error {failure : Failure}
    (fails : command.result environment files = .error failure) :
    command.course environment files = closing failure := by
  rw [course, fails]

theorem course_of_unshown {failure : Failure}
    (succeeds : command.result environment files = .ok license)
    (fails : shown (licenseValue license) = .error failure) :
    command.course environment files = .failing failure := by
  rw [course, succeeds]
  simp only [fails]

theorem course_of_shown {line : Text} (succeeds : command.result environment files = .ok license)
    (shows : shown (licenseValue license) = .ok line) :
    command.course environment files = (command.verdict files license).after line := by
  rw [course, succeeds]
  simp only [shows]

theorem printable_of_corruption {error : LicenseError} (corruption : error.isCorruption = true)
    (fails : command.result environment files = .error (.license error)) :
    Encoding.Utf8.systemError? 0
      (errorLine ("document corrupted: ".text ++ error.message)) = none := by
  obtain ⟨problem, rfl, plain⟩ : ∃ problem, error = .corrupted problem ∧ problem.IsPlain := by
    simp only [result, bind_eq_error_iff, mapError_eq_error_iff] at fails
    rcases fails with ⟨_, -, impossible⟩ | ⟨config, -, untemplated | ⟨template, -, unparsed⟩⟩
    · cases impossible
    · obtain ⟨_, impossible⟩ := error_of_templateOf untemplated
      cases impossible
    · have family := of_decide_eq_true corruption
      exact ParseRequest.exists_corruption_of_templateRun rfl family unparsed
  refine printable_errorLine fun c member => ?_
  rcases List.mem_append.mp member with fixed | said
  · exact String.isSurrogate_of_mem_text fixed
  · exact plain c said

variable (given : (Command.parse command).Given files)
  (shows : report.Shows (command.course environment files))

include given shows

theorem exitCodes_of_error {failure : Failure}
    (fails : command.result environment files = .error failure) :
    command.ExitCodes environment files report := by
  have same := course_of_error fails
  have silent := @not_unprintable [] rfl
  rw [same] at shows
  rcases corrupted_or_reported_or_escapes given.1 fails with
    ⟨error, rfl, corruption⟩ | reported | escapes
  · have printed := printable_of_corruption corruption fails
    rw [closing, if_pos corruption] at same shows
    have has := shows.stopped [] printed (.inl rfl)
    have unreported := isReported_of_corruption corruption
    have handled : ¬ Escapes (.license error) := fun escapes => escapes.ne_license error rfl
    have quiet := not_unprintable printed
    refine ⟨by simp [has.exitCode, corruptedCode], ?_, ?_, ?_, ?_, ?_, has.line⟩
    · simp [has.exitCode, fails, corruption, corruptedCode]
    · simp [has.exitCode, fails, unreported, handled, corruptedCode]
    · simp [has.exitCode, fails, corruptedCode]
    · simp [has.exitCode, fails, corruptedCode]
    · simp only [has.ending, same, fails, Course.stopping, Nothing]
      grind
  · have noCorruption := noCorruption_of_reported reported
    rw [closing_eq_of_noCorruption noCorruption, Course.closing, if_pos reported] at same shows
    have has := shows.error [] (.inl rfl)
    refine ⟨by simp [has.exitCode], ?_, ?_, ?_, ?_, ?_, has.line⟩
    · simpa [has.exitCode, fails] using noCorruption
    · simp [has.exitCode, fails, reported]
    · simp [has.exitCode, fails]
    · simp [has.exitCode, fails]
    · simp only [has.ending, same, fails, Course.stopping]
      grind [Escapes.not_reported]
  · have noCorruption (error : LicenseError) (same : failure = .license error) :
        error.isCorruption = false := absurd same (escapes.ne_license error)
    rw [closing_eq_of_noCorruption noCorruption, Course.closing, escapes.not_reported] at same shows
    have has := shows.unhandled []
    refine ⟨by simp [has.exitCode], ?_, ?_, ?_, ?_, ?_, has.line⟩
    · simpa [has.exitCode, fails] using noCorruption
    · simp [has.exitCode, fails, escapes]
    · simp [has.exitCode, fails]
    · simp [has.exitCode, fails]
    · simp only [has.ending, same, fails, Course.failing]
      grind

omit given in
theorem exitCodes_of_unshown {failure : Failure}
    (succeeds : command.result environment files = .ok license)
    (fails : shown (licenseValue license) = .error failure) :
    command.ExitCodes environment files report := by
  have same := course_of_unshown succeeds fails
  rw [same] at shows
  have has := shows.unhandled []
  have silent := @not_unprintable [] rfl
  refine ⟨by simp [has.exitCode], ?_, ?_, ?_, ?_, ?_, has.line⟩
  · simp [has.exitCode, succeeds]
  · simp [has.exitCode, succeeds, fails]
  · simp [has.exitCode, succeeds, fails]
  · simp [has.exitCode, succeeds, fails]
  · simp only [has.ending, same, succeeds, Course.failing]
    grind

theorem exitCodes_of_shown {line : Text}
    (succeeds : command.result environment files = .ok license)
    (shown : shown (licenseValue license) = .ok line) :
    command.ExitCodes environment files report := by
  have same := course_of_shown succeeds shown
  have ended := getLast?_of_shown shown
  rw [verdict] at same
  rw [same] at shows
  cases saved : command.saving files license with
  | ok done =>
      rw [saved] at same shows
      dsimp only at same shows
      cases valid : license.valid with
      | true =>
          rw [valid, if_pos rfl] at same shows
          have has := Report.Shows.success shows rfl
          have silent := @not_unprintable [] rfl
          refine ⟨by simp [has.exitCode], ?_, ?_, ?_, ?_, ?_, has.line⟩
          · simp [has.exitCode, succeeds]
          · simp [has.exitCode, succeeds, shown, saved]
          · simp [has.exitCode, succeeds, shown, saved, valid]
          · simp [has.exitCode, succeeds, shown, saved, valid]
          · simp only [has.ending, same, Nothing, Course.after, Course.done]
            grind
      | false =>
          rw [valid, if_neg Bool.false_ne_true] at same shows
          have printed : Encoding.Utf8.systemError? 0
              (errorLine "signature is not valid".text) = none :=
            printable_errorLine fun c member => String.isSurrogate_of_mem_text member
          have has := shows.stopped line printed (.inr ended)
          have silent := not_unprintable printed
          refine ⟨by simp [has.exitCode, invalidCode], ?_, ?_, ?_, ?_, ?_, has.line⟩
          · simp [has.exitCode, succeeds, invalidCode]
          · simp [has.exitCode, succeeds, shown, saved, invalidCode]
          · simp [has.exitCode, succeeds, shown, saved, valid, invalidCode]
          · simp [has.exitCode, succeeds, shown, saved, valid, invalidCode]
          · simp only [has.ending, same, Nothing, Course.after, Course.stopping]
            grind
  | error error =>
      rw [saved] at same shows
      dsimp only at same shows
      rcases failure_of_saving given.2 saved with refusal | unencoded
      · rw [Course.unwritten, if_pos refusal] at same shows
        have has := shows.error line (.inr ended)
        have written : FileSystem.jsonBytes (licenseValue license) ≠ .error error :=
          fun unencoded => by
            rw [FileSystem.isRefusal_of_jsonBytes unencoded] at refusal
            cases refusal
        refine ⟨by simp [has.exitCode], ?_, ?_, ?_, ?_, ?_, has.line⟩
        · simp [has.exitCode, succeeds]
        · simp [has.exitCode, succeeds, shown, saved]
        · simp [has.exitCode, succeeds, shown, saved]
        · simp [has.exitCode, succeeds, shown, saved]
        · simp only [has.ending, same, Course.after, Course.stopping]
          grind
      · rw [Course.unwritten, FileSystem.isRefusal_of_jsonBytes unencoded] at same shows
        have has := shows.unhandled line
        have silent := @not_unprintable [] rfl
        refine ⟨by simp [has.exitCode], ?_, ?_, ?_, ?_, ?_, has.line⟩
        · simp [has.exitCode, succeeds]
        · simp [has.exitCode, succeeds, shown, saved]
        · simp [has.exitCode, succeeds, shown, saved]
        · simp [has.exitCode, succeeds, shown, saved]
        · simp only [has.ending, same, Course.after, Course.failing]
          grind

theorem exitCodes : command.ExitCodes environment files report := by
  cases parsed : command.result environment files with
  | error failure => exact exitCodes_of_error given shows parsed
  | ok license =>
      cases shown : shown (licenseValue license) with
      | error failure => exact exitCodes_of_unshown shows parsed shown
      | ok line => exact exitCodes_of_shown given shows parsed shown

end ParseCommand

namespace InspectCommand

variable {command : InspectCommand}

theorem exitCodes_of_error {failure : Failure} (given : (Command.inspect command).Given files)
    (shows : report.Shows (command.course environment files))
    (fails : command.result environment files = .error failure) :
    command.ExitCodes environment files report := by
  have known := isReported_eq_isImproper fails ▸ reported_or_escapes given fails
  have same : command.course environment files = closing failure := by rw [course, fails]
  rw [closing] at same
  rw [same] at shows
  cases reported : failure.isImproper || failure.isRefusal with
  | true =>
      rw [reported, if_pos rfl] at same shows
      have has := shows.error [] (.inl rfl)
      refine ⟨.inr (.inl has.exitCode), ?_, ?_, ?_, ?_, has.line⟩
      · simp [has.exitCode, fails]
      · simp [has.exitCode, fails]
      · simp [has.exitCode, fails]
      · simp only [has.ending, same, Course.stopping]
        grind [Escapes.not_improper]
  | false =>
      rw [reported, if_neg Bool.false_ne_true] at same shows
      have has := shows.unhandled []
      have silent := @not_unprintable [] rfl
      refine ⟨.inr (.inl has.exitCode), ?_, ?_, ?_, ?_, has.line⟩
      · simp [has.exitCode, fails]
      · simp [has.exitCode, fails]
      · simp [has.exitCode, fails]
      · simp only [has.ending, same, Course.failing]
        grind

variable {config : Config} {template : Text}

theorem exitCodes_of_unshown {failure : Failure}
    (shows : report.Shows (command.course environment files))
    (found : command.result environment files = .ok (config, template))
    (fails : shown config template = .error failure) :
    command.ExitCodes environment files report := by
  have same : command.course environment files = .failing failure := by
    rw [course, found]
    simp only [fails]
  rw [same] at shows
  have has := shows.unhandled []
  have silent := @not_unprintable [] rfl
  refine ⟨.inr (.inl has.exitCode), ?_, ?_, ?_, ?_, has.line⟩
  · simp [has.exitCode, found, fails]
  · simp [has.exitCode, found, fails]
  · simp [has.exitCode, found, fails]
  · simp only [has.ending, same, Course.failing]
    grind

theorem printable_rejection (template : Text) :
    Encoding.Utf8.systemError? 0 (errorLine (rejection template)) = none := by
  refine printable_errorLine fun c member => ?_
  rcases List.mem_append.mp member with front | fixed
  · rcases List.mem_append.mp front with fixed | number
    · exact String.isSurrogate_of_mem_text fixed
    · exact Text.isSurrogate_of_mem_ofNat number
  · exact String.isSurrogate_of_mem_text fixed

theorem getLast?_of_shown {line : Text} (shows : shown config template = .ok line) :
    line.getLast? = some (.char '\n') := by
  rw [shown] at shows
  split at shows
  · cases shows
  · exact Run.getLast?_of_shown shows

theorem exitCodes_of_shown {line : Text} (shows : report.Shows (command.course environment files))
    (found : command.result environment files = .ok (config, template))
    (shown : shown config template = .ok line) : command.ExitCodes environment files report := by
  have same : command.course environment files = Course.after line
      (if command.rejects template then .stopping corruptedCode (rejection template)
        else .done) := by
    rw [course, found]
    simp only [shown]
  rw [same] at shows
  cases rejects : command.rejects template with
  | true =>
      rw [rejects, if_pos rfl] at same shows
      have printed := printable_rejection template
      have has := shows.stopped line printed (.inr (getLast?_of_shown shown))
      have silent := not_unprintable printed
      refine ⟨.inr (.inr has.exitCode), ?_, ?_, ?_, ?_, has.line⟩
      · simp [has.exitCode, corruptedCode, found, shown]
      · simp [has.exitCode, corruptedCode, found, shown, rejects]
      · simp [has.exitCode, corruptedCode, found, rejects]
      · simp only [has.ending, same, Nothing, Course.after, Course.stopping]
        grind
  | false =>
      rw [rejects, if_neg Bool.false_ne_true] at same shows
      have has := Report.Shows.success shows rfl
      have silent := @not_unprintable [] rfl
      refine ⟨.inl has.exitCode, ?_, ?_, ?_, ?_, has.line⟩
      · simp [has.exitCode, found, shown]
      · simp [has.exitCode, found, rejects]
      · simp [has.exitCode, found, shown, rejects]
      · simp only [has.ending, same, Nothing, Course.after, Course.done]
        grind

theorem exitCodes (given : (Command.inspect command).Given files)
    (shows : report.Shows (command.course environment files)) :
    command.ExitCodes environment files report := by
  cases found : command.result environment files with
  | error failure => exact exitCodes_of_error given shows found
  | ok read =>
      obtain ⟨config, template⟩ := read
      cases shown : shown config template with
      | error failure => exact exitCodes_of_unshown shows found shown
      | ok line => exact exitCodes_of_shown shows found shown

end InspectCommand

end Classifying

namespace Sample

/-- A template with a pair of braces around a text that is no name. -/
def spaced : Text :=
  "\x7b\x7ba b\x7d\x7d".text

def strict : InspectCommand :=
  ⟨Path.ofText "t".text, true, none⟩

def keyed : GenerateCommand :=
  ⟨Path.ofText "k".text, some "x".text, none, none, none, none, false⟩

def unreadable : Failure :=
  .config (.textFile (.file (.refused .isDirectory "d".text none)))

end Sample

end LicenseSeal.CommandLine
