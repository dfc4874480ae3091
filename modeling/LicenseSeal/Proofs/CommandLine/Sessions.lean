import LicenseSeal.CommandLine.Run
import LicenseSeal.Proofs.FileSystem.ActionFailures

/-!
# Steps of a session

A command reads, prints and logs step by step.  `Run.Follows` says of a step that it gives what an
operation on the files gives, and that a failure of the operation ends the command in a fixed way.
Whatever else is printed, a reported error stands on a line of its own.
-/

namespace LicenseSeal

namespace Text

theorem exists_letter_of_dropSequence? {c : CodePoint} {rest behind : Text}
    (found : dropSequence? c rest = some behind) :
    ∃ front letter, rest = front ++ letter :: behind ∧ isLetter letter = true := by
  rw [dropSequence?] at found
  split at found
  · obtain ⟨parameters, opened, style⟩ := Option.bind_eq_some_iff.mp found
    rw [dropLead?_eq_some_iff] at opened
    rw [dropStyle?] at style
    split at style
    · next letter others split =>
        split at style
        · next isLetter =>
            obtain rfl := Option.some.inj style
            refine ⟨"[".text ++ parameters.takeWhile isStyleParameter, letter, ?_, isLetter⟩
            rw [opened, List.append_assoc, ← split, List.takeWhile_append_dropWhile]
        · cases style
    · cases style
  · cases found

/-- A line keeps its end. -/
theorem getLast?_withoutStyling {text : Text} (line : text.getLast? = some (.char '\n')) :
    text.withoutStyling.getLast? = some (.char '\n') := by
  induction text using withoutStyling.induct with
  | case1 => cases line
  | case2 c rest behind found ih =>
      rw [withoutStyling_of_some found]
      apply ih
      obtain ⟨front, letter, rfl, isLetter⟩ := exists_letter_of_dropSequence? found
      have split : c :: (front ++ letter :: behind) = (c :: front ++ [letter]) ++ behind := by simp
      rw [split, List.getLast?_append] at line
      cases last : behind.getLast? with
      | none =>
          rw [last, List.getLast?_concat] at line
          obtain rfl := Option.some.inj line
          exact absurd isLetter (by decide)
      | some d =>
          rw [last] at line
          exact line
  | case3 c rest unfound ih =>
      rw [withoutStyling_of_none unfound]
      cases rest with
      | nil =>
          rw [withoutStyling]
          exact line
      | cons d rest =>
          rw [List.getLast?_cons_cons] at line
          rw [List.getLast?_cons, ih line]
          rfl

end Text

namespace CommandLine

/-- A line of a text begins with the word for errors. -/
def HasErrorLine (printed : Text) : Prop :=
  ∃ front line, printed = front ++ ("ERROR: ".text ++ line) ∧
    (front = [] ∨ front.getLast? = some (.char '\n'))

namespace Run

variable {α β : Type}

/-- How a step ends in a session, and what it leaves. -/
def perform (step : Run α) (session : Session) : Except Ending α × Session :=
  step.run.run session

theorem perform_bind_of_ok {first : Run α} {second : α → Run β} {session session' : Session}
    {result : α} (ends : first.perform session = (.ok result, session')) :
    (first >>= second).perform session = (second result).perform session' := by
  rw [perform] at ends
  rw [perform, run_bind_eq, ends]
  rfl

theorem perform_bind_of_error {first : Run α} {second : α → Run β} {session session' : Session}
    {ending : Ending} (ends : first.perform session = (.error ending, session')) :
    (first >>= second).perform session = (.error ending, session') := by
  rw [perform] at ends
  rw [perform, run_bind_eq, ends]

/-- A text that the system does not take is not printed. -/
def Unprintable (text : Text) (failure : Failure) : Prop :=
  ∃ error, Encoding.Utf8.systemError? 0 text = some error ∧ failure = .unencodable error

theorem perform_print (text : Text) (session : Session) :
    (print text).perform session =
      match Encoding.Utf8.systemError? 0 text.withoutStyling with
      | none => (.ok (), { session with printed := session.printed ++ text.withoutStyling })
      | some error => (.error (.failure (.unencodable error)), session) := by
  rw [print]
  cases Encoding.Utf8.systemError? 0 text.withoutStyling <;> rfl

/-- What is printed of an error. -/
def errorLine (message : Text) : Text :=
  Text.withoutStyling ("ERROR: ".text ++ message ++ "\n".text)

theorem hasErrorLine_append {printed : Text} (message : Text)
    (line : printed = [] ∨ printed.getLast? = some (.char '\n')) :
    HasErrorLine (printed ++ errorLine message) := by
  refine ⟨printed, Text.withoutStyling (message ++ "\n".text), ?_, line⟩
  rw [errorLine, List.append_assoc, Text.withoutStyling_append (by decide)]

end Run

open Run

/-- How a command goes on to its end: the lines that it has printed, the text that it prints last,
and how it ends if that can be printed. -/
structure Course where
  lines : Text
  last : Text
  ending : Ending

namespace Course

/-- The course of a command that stops with an error. -/
def stopping (code : Nat) (message : Text) : Course :=
  ⟨[], errorLine message, .exit code⟩

/-- The course of a command that does not handle a failure. -/
def failing (failure : Failure) : Course :=
  ⟨[], [], .failure failure⟩

/-- The course of a command whose operation fails. -/
def closing (failure : Failure) : Course :=
  if isReported failure then stopping errorCode (described failure) else failing failure

/-- A course with lines in front. -/
def after (lines : Text) (course : Course) : Course :=
  { course with lines := lines ++ course.lines }

/-- How a course ends. -/
def outcome (course : Course) : Ending :=
  match Encoding.Utf8.systemError? 0 course.last with
  | none => course.ending
  | some error => .failure (.unencodable error)

/-- What is printed on a course. -/
def printed (course : Course) : Text :=
  match Encoding.Utf8.systemError? 0 course.last with
  | none => course.lines ++ course.last
  | some _ => course.lines

theorem outcome_after (lines : Text) (course : Course) :
    (course.after lines).outcome = course.outcome :=
  rfl

theorem printed_after (lines : Text) (course : Course) :
    (course.after lines).printed = lines ++ course.printed := by
  rw [printed, printed, after]
  cases Encoding.Utf8.systemError? 0 course.last <;> simp only [List.append_assoc]

end Course

namespace Run

theorem perform_stop (code : Nat) (message : Text) (session : Session) :
    (stop code message : Run α).perform session = (.error (Course.stopping code message).outcome,
      { session with printed := session.printed ++ (Course.stopping code message).printed }) := by
  have prints := perform_print ("ERROR: ".text ++ message ++ "\n".text) session
  rw [Course.outcome, Course.printed, Course.stopping, errorLine]
  cases taken : Encoding.Utf8.systemError? 0
      (Text.withoutStyling ("ERROR: ".text ++ message ++ "\n".text)) with
  | none =>
      rw [taken] at prints
      exact perform_bind_of_ok prints
  | some error =>
      rw [taken] at prints
      simp only [List.append_nil]
      exact perform_bind_of_error prints

/-- A step that gives what an operation on the files gives.  It leaves the files and what is
printed; a failure of the operation ends the command on the course that is said. -/
def Follows (files : FileSystem) (close : Failure → Course) (outcome : Except Failure α)
    (step : Run α) : Prop :=
  ∀ session, session.files = files → ∃ records, step.perform session =
    match outcome with
    | .ok result => (.ok result, { session with records })
    | .error failure => (.error (close failure).outcome,
        { session with printed := session.printed ++ (close failure).printed, records })

section Following

variable {files : FileSystem} {close : Failure → Course} {outcome : Except Failure α}

theorem follows_pure (result : α) : Follows files close (.ok result) (pure result) := by
  intro session _
  exact ⟨session.records, rfl⟩

theorem perform_throw (failure : Failure) (session : Session) :
    (throw (.failure failure) : Run α).perform session = (.error (Course.failing failure).outcome,
      { session with printed := session.printed ++ (Course.failing failure).printed }) := by
  have nothing : (Course.failing failure).printed = [] := rfl
  rw [nothing, List.append_nil]
  rfl

theorem follows_throw {failure : Failure} (unreported : close failure = .failing failure) :
    Follows files close (.error failure) (throw (.failure failure) : Run α) := by
  intro session _
  refine ⟨session.records, ?_⟩
  simp only [unreported]
  exact perform_throw failure session

theorem follows_bind {outcome' : α → Except Failure β} {first : Run α} {second : α → Run β}
    (follows : Follows files close outcome first)
    (follows' : ∀ result, outcome = .ok result →
      Follows files close (outcome' result) (second result)) :
    Follows files close (outcome >>= outcome') (first >>= second) := by
  intro session same
  obtain ⟨records, ends⟩ := follows session same
  cases outcome with
  | error failure => exact ⟨records, perform_bind_of_error ends⟩
  | ok result =>
      obtain ⟨records', ends'⟩ := follows' result rfl { session with records } same
      exact ⟨records', (perform_bind_of_ok ends).trans ends'⟩

theorem follows_next {value : β} {first : Run β} {next : β → Run α}
    (gives : Follows files close (.ok value) first)
    (follows : Follows files close outcome (next value)) :
    Follows files close outcome (first >>= next) := by
  intro session same
  obtain ⟨records, ends⟩ := gives session same
  obtain ⟨records', ends'⟩ := follows { session with records } same
  exact ⟨records', (perform_bind_of_ok ends).trans ends'⟩

theorem follows_files : Follows files close (.ok files) Run.files := by
  intro session same
  exact ⟨session.records, by rw [← same]; rfl⟩

theorem follows_config (environment : Option Text) (path : Option Path) :
    Follows files close (.ok ((Config.loadGiven files environment path).mapError .config))
      (Run.config environment path) :=
  follows_next follows_files (follows_pure _)

theorem follows_text (config : Config) (path : Path) :
    Follows files close (.ok ((files.readText path config.encoding).mapError .textFile))
      (Run.text config path) :=
  follows_next follows_files (follows_pure _)

theorem follows_traced (operation : Traced α) :
    Follows files close (.ok operation.outcome) (traced operation) := by
  intro session _
  exact ⟨session.records ++ operation.events.map Event.record, rfl⟩

theorem follows_reported
    (same : ∀ failure, outcome = .error failure → close failure = .closing failure) :
    Follows files close outcome (reported outcome) := by
  intro session _
  refine ⟨session.records, ?_⟩
  cases outcome with
  | ok result => rfl
  | error failure =>
      simp only [same failure rfl, Course.closing, reported]
      split
      · exact perform_stop errorCode (described failure) session
      · exact perform_throw failure session

end Following

end Run

end CommandLine

end LicenseSeal
