import LicenseSeal.Proofs.CommandLine.UnreportedFailures
import LicenseSeal.Proofs.Json.TotalWriting

/-!
# Endings of commands

The course that each command takes, as a function of its result and of what comes of writing it.
The main statements are the three `ends_course`: a command ends and prints as its course says.
-/

namespace LicenseSeal

namespace FileSystem

theorem isRefusal_of_encoded {codecs : Encoding.Codecs} {name text : Text} {error : TextFileError}
    (unencoded : encoded codecs name text = .error error) : error.isRefusal = false := by
  rw [encoded] at unencoded
  split at unencoded
  · obtain rfl := Except.error.inj unencoded
    rfl
  · obtain ⟨cause, -, rfl⟩ := mapError_eq_error_iff.mp unencoded
    cases cause <;> rfl

theorem isRefusal_of_jsonBytes {value : Value} {error : TextFileError}
    (unwritten : jsonBytes value = .error error) : error.isRefusal = false := by
  rcases bind_eq_error_iff.mp unwritten with fails | ⟨text, -, fails⟩
  · obtain ⟨cause, -, rfl⟩ := mapError_eq_error_iff.mp fails
    rfl
  · obtain ⟨cause, -, rfl⟩ := mapError_eq_error_iff.mp fails
    rfl

/-- What comes of an action on files. -/
def outcome {ε α : Type} (files : FileSystem) (action : Action ε α) : Except ε α :=
  (action.run.run files).1

end FileSystem

namespace CommandLine

open Run

/-! ### Values that are printed -/

theorem writable_fieldsValue (fields : Fields Text) :
    (Value.map ((fields.map Value.text).entries.map fun entry =>
      (Scalar.text entry.1, entry.2))).Writable := by
  refine .map ?_ ?_
  · intro entry member
    obtain ⟨named, -, rfl⟩ := List.mem_map.mp member
    exact ⟨named.1, rfl⟩
  · intro entry member
    obtain ⟨named, mapped, rfl⟩ := List.mem_map.mp member
    obtain ⟨given, -, rfl⟩ := List.mem_map.mp mapped
    exact .text given.2

theorem writable_licenseValue {license : ParsedLicense} (texts : license.data.HasTexts) :
    (licenseValue license).Writable := by
  obtain ⟨valid, serial, data⟩ := license
  rcases texts with ⟨content, rfl⟩ | ⟨fields, rfl⟩
  · refine .map ?_ ?_
    · simp
    · simp only [List.forall_mem_cons, List.not_mem_nil, false_imp_iff, implies_true, and_true]
      exact ⟨.bool valid, .text serial, .text content⟩
  · refine .map ?_ ?_
    · simp
    · simp only [List.forall_mem_cons, List.not_mem_nil, false_imp_iff, implies_true, and_true]
      exact ⟨.bool valid, .text serial, writable_fieldsValue fields⟩

namespace Run

/-- The line of JSON that is printed for a value, or why none is. -/
def shown (value : Value) : Except Failure Text :=
  match Json.write .refuse value with
  | .error error => .error (.textFile (.unwritable error))
  | .ok text =>
      let line := Text.withoutStyling (text ++ "\n".text)
      match Encoding.Utf8.systemError? 0 line with
      | some error => .error (.unencodable error)
      | none => .ok line

theorem getLast?_of_shown {value : Value} {line : Text} (shows : shown value = .ok line) :
    line.getLast? = some (.char '\n') := by
  rw [shown] at shows
  split at shows
  · cases shows
  · dsimp only at shows
    split at shows
    · cases shows
    · obtain rfl := Except.ok.inj shows
      exact Text.getLast?_withoutStyling List.getLast?_concat

theorem perform_printValue (value : Value) (session : Session) :
    (printValue value).perform session =
      match shown value with
      | .ok line => (.ok (), { session with printed := session.printed ++ line })
      | .error failure => (.error (.failure failure), session) := by
  rw [printValue, shown]
  cases Json.write .refuse value with
  | error error => rfl
  | ok text =>
      dsimp only
      rw [printLine, perform_print]
      cases Encoding.Utf8.systemError? 0 (Text.withoutStyling (text ++ "\n".text)) <;> rfl

/-! ### Courses -/

/-- The ending of a command, which succeeds unless it is ended early. -/
def endingOf : Except Ending Unit → Ending
  | .ok () => .exit 0
  | .error ending => ending

/-- From a session on, a command ends and prints as a course says. -/
def Ends (command : Run Unit) (session : Session) (course : Course) : Prop :=
  endingOf (command.perform session).1 = course.outcome ∧
    (command.perform session).2.printed = session.printed ++ course.printed

end Run

namespace Course

/-- The course of a command that is done. -/
def done : Course :=
  ⟨[], [], .exit 0⟩

/-- The course of a command that does not write its file: only a refusal of the system is
reported. -/
def unwritten (front : String) (error : TextFileError) : Course :=
  if error.isRefusal then stopping errorCode (front.text ++ ": ".text ++ error.message)
  else failing (.textFile error)

end Course

namespace Run

section Ending

variable {α : Type} {first : Run α} {next : α → Run Unit} {session session' : Session}
  {files : FileSystem} {close : Failure → Course} {course : Course}

theorem ends_done (session : Session) : Ends (pure ()) session .done :=
  ⟨rfl, (List.append_nil session.printed).symm⟩

theorem ends_stop (code : Nat) (message : Text) (session : Session) :
    Ends (stop code message) session (.stopping code message) := by
  rw [Ends, perform_stop]
  exact ⟨rfl, rfl⟩

theorem ends_print (text : Text) (session : Session) :
    Ends (print text) session ⟨[], text.withoutStyling, .exit 0⟩ := by
  rw [Ends, perform_print, Course.outcome, Course.printed]
  cases Encoding.Utf8.systemError? 0 text.withoutStyling with
  | none => exact ⟨rfl, rfl⟩
  | some error => exact ⟨rfl, (List.append_nil session.printed).symm⟩

theorem ends_bind {result : α} (performed : first.perform session = (.ok result, session'))
    (same : session'.printed = session.printed) (ends : Ends (next result) session' course) :
    Ends (first >>= next) session course := by
  rw [Ends, perform_bind_of_ok performed, ← same]
  exact ends

theorem ends_of_follows {result : α} (follows : Follows files close (.ok result) first)
    (same : session.files = files)
    (ends : ∀ records, Ends (next result) { session with records } course) :
    Ends (first >>= next) session course := by
  obtain ⟨records, performed⟩ := follows session same
  exact ends_bind performed rfl (ends records)

theorem ends_of_failure {failure : Failure} (follows : Follows files close (.error failure) first)
    (same : session.files = files) : Ends (first >>= next) session (close failure) := by
  obtain ⟨records, performed⟩ := follows session same
  rw [Ends, perform_bind_of_error performed]
  exact ⟨rfl, rfl⟩

theorem ends_of_shown {value : Value} {line : Text} {next : Unit → Run Unit}
    (shows : shown value = .ok line)
    (ends : ∀ printed, Ends (next ()) { session with printed } course) :
    Ends (printValue value >>= next) session (course.after line) := by
  have performed := perform_printValue value session
  rw [shows] at performed
  obtain ⟨ending, printed⟩ := ends (session.printed ++ line)
  rw [Ends, perform_bind_of_ok performed, Course.outcome_after, Course.printed_after,
    ← List.append_assoc]
  exact ⟨ending, printed⟩

theorem ends_of_unshown {value : Value} {failure : Failure} {next : Unit → Run Unit}
    (fails : shown value = .error failure) :
    Ends (printValue value >>= next) session (.failing failure) := by
  have performed := perform_printValue value session
  rw [fails] at performed
  rw [Ends, perform_bind_of_error performed]
  exact ⟨rfl, (List.append_nil session.printed).symm⟩

theorem perform_written (front : String) (change : FileSystem.Action TextFileError Unit)
    (session : Session) :
    (written front change).perform session =
      match session.files.outcome change with
      | .ok () => (.ok (), { session with files := (change.run.run session.files).2 })
      | .error error =>
          (.error (Course.unwritten front error).outcome,
            { session with
              files := (change.run.run session.files).2
              printed := session.printed ++ (Course.unwritten front error).printed }) := by
  have acted : (action change).perform session =
      (.ok (session.files.outcome change),
        { session with files := (change.run.run session.files).2 }) := rfl
  rw [written, perform_bind_of_ok acted]
  cases session.files.outcome change with
  | ok result => rfl
  | error error =>
      dsimp only
      rw [Course.unwritten]
      split
      · exact perform_stop errorCode _ _
      · exact perform_throw _ _

theorem ends_of_written {front : String} {change : FileSystem.Action TextFileError Unit}
    {next : Unit → Run Unit} (ends : ∀ files, Ends (next ()) { session with files } course) :
    Ends (written front change >>= next) session
      (match session.files.outcome change with
        | .ok () => course
        | .error error => .unwritten front error) := by
  have performed := perform_written front change session
  cases ended : session.files.outcome change with
  | ok result =>
      rw [ended] at performed
      exact ends_bind performed rfl (ends _)
  | error error =>
      rw [ended] at performed
      rw [Ends, perform_bind_of_error performed]
      exact ⟨rfl, rfl⟩

end Ending

end Run

/-- The session in which a command begins. -/
def Session.initial (files : FileSystem) : Session :=
  ⟨files, [], []⟩

/-! ### Generating -/

namespace GenerateCommand

/-- What comes of writing the document. -/
def saving (files : FileSystem) (command : GenerateCommand) (config : Config) (document : Text) :
    Except TextFileError Unit :=
  match command.out with
  | none => .ok ()
  | some out => files.outcome (FileSystem.writeText out document config.encoding)

/-- What is printed of a document: the document itself, or where it is written. -/
def confirmation (command : GenerateCommand) (document : Text) : Text :=
  match command.out with
  | none => document
  | some out => "INFO: wrote license to ".text ++ out.text ++ "\n".text

/-- The error that refuses a command before anything is read. -/
def refusal? (files : FileSystem) (command : GenerateCommand) : Option Text :=
  if command.data.isSome = command.dataFile.isSome then
    some "exactly one of --data or --data-file is required.".text
  else
    match command.out, command.outputTaken files with
    | some out, .ok true =>
        if command.force then none
        else some ("output already exists: ".text ++ out.text ++ " (use --force).".text)
    | _, _ => none

/-- The course of a command that generates. -/
def course (environment : Option Text) (files : FileSystem) (command : GenerateCommand) :
    Course :=
  match command.refusal? files with
  | some message => .stopping errorCode message
  | none =>
      match command.result environment files with
      | .error failure => .closing failure
      | .ok (config, document) =>
          match command.saving files config document with
          | .ok () => ⟨[], (command.confirmation document).withoutStyling, .exit 0⟩
          | .error error => .unwritten "write output failed" error

variable {environment : Option Text} {files : FileSystem} {command : GenerateCommand}
  {config : Config} {document : Text}

theorem refusal?_eq_none_iff : command.refusal? files = none ↔ ¬ command.Refused files := by
  rw [refusal?, Refused, outputTaken]
  split
  · next same => simp [same]
  · next differs =>
      cases command.out with
      | none => simp [differs]
      | some out =>
          dsimp only
          rcases ends : files.pathTaken out with error | taken
          · simp [Except.mapError, differs]
          · cases taken <;> cases command.force <;> simp [Except.mapError, differs]

theorem exists_refusal_of_refused (refused : command.Refused files) :
    ∃ message, command.refusal? files = some message := by
  refine Option.ne_none_iff_exists'.mp fun proceeds => ?_
  exact refusal?_eq_none_iff.mp proceeds refused

theorem failure_of_saving {error : TextFileError}
    (usable : ∀ path, command.out = some path → path.fault? = none)
    (fails : command.saving files config document = .error error) :
    error.isRefusal = true ∨
      FileSystem.encoded files.codecs config.encoding document = .error error := by
  rw [saving] at fails
  cases given : command.out with
  | none =>
      simp only [given] at fails
      cases fails
  | some out =>
      simp only [given] at fails
      exact FileSystem.writeComputed_failsAs (usable out given) _ files error fails

theorem perform_of_refusal (environment : Option Text) {message : Text}
    (refuses : command.refusal? files = some message) :
    (command.run environment).perform (.initial files) =
      (.error (Course.stopping errorCode message).outcome,
        ⟨files, (Course.stopping errorCode message).printed, []⟩) := by
  have stops (session : Session) {α : Type} {next : α → Run Unit}
      (same : session = .initial files) :
      (stop errorCode message >>= next).perform session =
        (.error (Course.stopping errorCode message).outcome,
          ⟨files, (Course.stopping errorCode message).printed, []⟩) := by
    subst same
    exact perform_bind_of_error (perform_stop errorCode message _)
  rw [refusal?] at refuses
  split at refuses
  · next same =>
      obtain rfl := Option.some.inj refuses
      rw [run, if_pos same]
      exact stops _ rfl
  · next differs =>
      split at refuses
      · next out given taken =>
          split at refuses
          · cases refuses
          · next unforced =>
              obtain rfl := Option.some.inj refuses
              rw [outputTaken, given] at taken
              have looked : Run.files.perform (.initial files) = (.ok files, .initial files) := rfl
              rw [run, if_neg differs, checkOutput]
              simp only [given]
              rw [bind_assoc, perform_bind_of_ok looked]
              simp only [mapError_eq_ok_iff.mp taken, unforced, Bool.true_and, Bool.not_false,
                if_true]
              exact stops _ rfl
      · cases refuses

theorem ends_course (environment : Option Text) (files : FileSystem) (command : GenerateCommand) :
    Ends (command.run environment) (.initial files) (command.course environment files) := by
  cases refusal : command.refusal? files with
  | some message =>
      rw [Ends, perform_of_refusal environment refusal, course, refusal]
      exact ⟨rfl, rfl⟩
  | none =>
      have proceeds := refusal?_eq_none_iff.mp refusal
      rw [Refused, not_or] at proceeds
      have follows := follows_document environment proceeds.2
      rw [course, refusal, run, if_neg proceeds.1, ← bind_assoc]
      cases result : command.result environment files with
      | error failure =>
          rw [result] at follows
          exact ends_of_failure follows rfl
      | ok found =>
          obtain ⟨config, document⟩ := found
          rw [result] at follows
          refine ends_of_follows follows rfl fun records => ?_
          dsimp only
          rw [saving, confirmation]
          cases given : command.out with
          | none => exact ends_print document _
          | some out => exact ends_of_written fun files => ends_print _ _

end GenerateCommand

/-! ### Parsing -/

namespace ParseCommand

/-- What comes of writing the result. -/
def saving (files : FileSystem) (command : ParseCommand) (license : ParsedLicense) :
    Except TextFileError Unit :=
  match command.jsonOut with
  | none => .ok ()
  | some path => files.outcome (FileSystem.writeJson path (licenseValue license))

/-- The course of a command whose license is shown. -/
def verdict (files : FileSystem) (command : ParseCommand) (license : ParsedLicense) : Course :=
  match command.saving files license with
  | .ok () =>
      if license.valid then .done else .stopping invalidCode "signature is not valid".text
  | .error error => .unwritten "write result failed" error

/-- The course of a command that parses. -/
def course (environment : Option Text) (files : FileSystem) (command : ParseCommand) : Course :=
  match command.result environment files with
  | .error failure => closing failure
  | .ok license =>
      match shown (licenseValue license) with
      | .error failure => .failing failure
      | .ok line => (command.verdict files license).after line

variable {environment : Option Text} {files : FileSystem} {command : ParseCommand}
  {license : ParsedLicense}

theorem isReported_of_corruption {error : LicenseError} (corruption : error.isCorruption = true) :
    isReported (.license error) = false := by
  rw [isReported, of_decide_eq_true corruption]

theorem noCorruption_of_reported {failure : Failure} (reported : isReported failure = true)
    (error : LicenseError) (same : failure = .license error) : error.isCorruption = false := by
  rw [Bool.eq_false_iff]
  intro corruption
  rw [same, isReported_of_corruption corruption] at reported
  cases reported

theorem closing_eq_of_noCorruption {failure : Failure}
    (noCorruption : ∀ error : LicenseError, failure = .license error → error.isCorruption = false) :
    closing failure = Course.closing failure := by
  cases failure with
  | license error => rw [closing, noCorruption error rfl, if_neg Bool.false_ne_true]
  | _ => rfl

theorem writable_of_result (succeeds : command.result environment files = .ok license) :
    (licenseValue license).Writable := by
  obtain ⟨config, -, rest⟩ := bind_eq_ok_iff.mp succeeds
  obtain ⟨template, -, parsed⟩ := bind_eq_ok_iff.mp rest
  exact writable_licenseValue (ParseRequest.hasTexts_of_run rfl parsed)

theorem failure_of_saving {error : TextFileError}
    (usable : ∀ path, command.jsonOut = some path → path.fault? = none)
    (fails : command.saving files license = .error error) :
    error.isRefusal = true ∨ FileSystem.jsonBytes (licenseValue license) = .error error := by
  rw [saving] at fails
  cases given : command.jsonOut with
  | none =>
      simp only [given] at fails
      cases fails
  | some path =>
      simp only [given] at fails
      exact FileSystem.writeComputed_failsAs (usable path given) _ files error fails

theorem ends_course (environment : Option Text) (files : FileSystem) (command : ParseCommand) :
    Ends (command.run environment) (.initial files) (command.course environment files) := by
  have follows := follows_license environment files command
  rw [course, run]
  cases result : command.result environment files with
  | error failure =>
      rw [result] at follows
      exact ends_of_failure follows rfl
  | ok license =>
      rw [result] at follows
      refine ends_of_follows follows rfl fun records => ?_
      dsimp only
      cases shows : shown (licenseValue license) with
      | error failure => exact ends_of_unshown shows
      | ok line =>
          have ending (session : Session) :
              Ends
                (if license.valid then pure ()
                  else stop invalidCode "signature is not valid".text)
                session (if license.valid then .done
                  else .stopping invalidCode "signature is not valid".text) := by
            cases license.valid with
            | true => exact ends_done session
            | false => exact ends_stop invalidCode _ session
          refine ends_of_shown shows fun printed => ?_
          rw [verdict, saving]
          cases given : command.jsonOut with
          | none => exact ending _
          | some path => exact ends_of_written fun files => ending _

end ParseCommand

/-! ### Inspecting -/

namespace InspectCommand

/-- Whether a template is refused for what it holds. -/
def rejects (command : InspectCommand) (template : Text) : Bool :=
  command.strict && (Template.scan template).unsupported.length ≠ 0

/-- The line that is printed for a template, or why none is. -/
def shown (config : Config) (template : Text) : Except Failure Text :=
  match Template.fingerprint template with
  | .error error => .error (.unencodable error)
  | .ok fingerprint => Run.shown (templateValue config (Template.scan template) fingerprint)

/-- The error for fragments that look like placeholders. -/
def rejection (template : Text) : Text :=
  "unsupported placeholders (count=".text
    ++ Text.ofNat (Template.scan template).unsupported.length ++ ")".text

/-- The course of a command that inspects. -/
def course (environment : Option Text) (files : FileSystem) (command : InspectCommand) : Course :=
  match command.result environment files with
  | .error failure => closing failure
  | .ok (config, template) =>
      match shown config template with
      | .error failure => .failing failure
      | .ok line =>
          Course.after line
            (if command.rejects template then .stopping corruptedCode (rejection template)
              else .done)

theorem ends_course (environment : Option Text) (files : FileSystem) (command : InspectCommand) :
    Ends (command.run environment) (.initial files) (command.course environment files) := by
  have follows := follows_reading environment files command
  rw [course, run]
  cases result : command.result environment files with
  | error failure =>
      rw [result] at follows
      exact ends_of_failure follows rfl
  | ok found =>
      obtain ⟨config, template⟩ := found
      rw [result] at follows
      refine ends_of_follows follows rfl fun records => ?_
      dsimp only
      rw [shown, fingerprint]
      cases Template.fingerprint template with
      | error error =>
          rw [Ends, perform_bind_of_error (perform_throw _ _)]
          exact ⟨rfl, rfl⟩
      | ok fingerprint =>
          dsimp only
          cases shows : Run.shown (templateValue config (Template.scan template) fingerprint) with
          | error failure => exact ends_of_unshown shows
          | ok line =>
              refine ends_of_shown shows fun printed => ?_
              rw [rejects]
              dsimp only
              cases command.strict && decide ((Template.scan template).unsupported.length ≠ 0) with
              | true => exact ends_stop corruptedCode _ _
              | false => exact ends_done _

end InspectCommand

end CommandLine

end LicenseSeal
