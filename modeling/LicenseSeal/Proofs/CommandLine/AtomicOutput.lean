import LicenseSeal.Proofs.CommandLine.GenerateThenParse

/-!
# Atomic output

What a command that generates leaves of the files: its document in the place of its output, or every
file as it was.  The main statement is `atomic_output`.
-/

namespace LicenseSeal

theorem FileSystem.pathTaken_of_pathExists {files : FileSystem} {path : Path}
    (there : files.pathExists path = true) : files.pathTaken path = .ok true := by
  rw [pathExists, Bool.and_eq_true, Option.isNone_iff_eq_none] at there
  rw [pathTaken, there.1]
  cases looked : files.lookUp path with
  | error problem =>
      rw [looked] at there
      cases there.2
  | ok entry => rfl

namespace CommandLine

open Run

namespace GenerateCommand

variable {environment : Option Text} {files : FileSystem} {command : GenerateCommand}
  {config : Config} {document : Text} {out : Path}

theorem refused_of_pathExists (given : command.out = some out) (there : files.pathExists out = true)
    (unforced : command.force = false) : command.Refused files := by
  refine .inr ⟨?_, unforced⟩
  rw [outputTaken, given]
  dsimp only
  rw [FileSystem.pathTaken_of_pathExists there]
  rfl

/-! ### The files that are left -/

theorem files_of_refused (environment : Option Text) (refused : command.Refused files) :
    ((command.run environment).perform (.initial files)).2.files = files := by
  obtain ⟨message, refuses⟩ := exists_refusal_of_refused refused
  rw [perform_of_refusal environment refuses]

variable (proceeds : ¬ command.Refused files)

include proceeds

theorem files_of_error {failure : Failure}
    (fails : command.result environment files = .error failure) :
    ((command.run environment).perform (.initial files)).2.files = files := by
  rw [Refused, not_or] at proceeds
  have follows := follows_document environment proceeds.2
  rw [fails] at follows
  obtain ⟨records, ended⟩ := follows (.initial files) rfl
  rw [run, if_neg proceeds.1, ← bind_assoc, perform_bind_of_error ended]
  rfl

theorem files_of_printed (succeeds : command.result environment files = .ok (config, document))
    (noOutput : command.out = none) :
    ((command.run environment).perform (.initial files)).2.files = files := by
  rw [Refused, not_or] at proceeds
  have follows := follows_document environment proceeds.2
  rw [succeeds] at follows
  obtain ⟨records, produced⟩ := follows (.initial files) rfl
  rw [run, if_neg proceeds.1, ← bind_assoc, perform_bind_of_ok produced]
  simp only [noOutput]
  exact files_print document _

end GenerateCommand

/-- A command line for generating leaves the files as they are, which is no success if the command
has an output, or it leaves what comes of writing the document that it produces. -/
theorem files_cases {environment : Option Text} {files : FileSystem} {words : List Text}
    {verbose : Bool} {command : GenerateCommand}
    (read : Invocation.ofWords? files words = some ⟨verbose, .generate command⟩) :
    ((run environment files words).files = files ∧
        (command.out ≠ none → (run environment files words).exitCode ≠ 0)) ∨
      ¬ command.Refused files ∧ ∃ out config document outcome, command.out = some out ∧
        command.produced environment files = .ok (config, document) ∧
        FileSystem.Written out (FileSystem.encoded files.codecs config.encoding document) files
          (run environment files words).files outcome ∧
        ((run environment files words).exitCode = 0 ↔ outcome = .ok ()) := by
  have shows := Report.shows_run read (GenerateCommand.ends_course environment files command)
  have success := (GenerateCommand.exitCodes shows (Invocation.given_of_ofWords? read)).success
  have left : (run environment files words).files =
      ((command.run environment).perform (.initial files)).2.files := files_run read
  rw [left]
  by_cases refused : command.Refused files
  · refine .inl ⟨GenerateCommand.files_of_refused environment refused, fun _ exits => ?_⟩
    exact (success.mp exits).1 refused
  · cases result : command.result environment files with
    | error failure =>
        refine .inl ⟨GenerateCommand.files_of_error refused result, fun _ exits => ?_⟩
        obtain ⟨-, _, _, succeeds, -⟩ := success.mp exits
        cases result.symm.trans succeeds
    | ok found =>
        obtain ⟨config, document⟩ := found
        cases given : command.out with
        | none => exact .inl ⟨GenerateCommand.files_of_printed refused result given, absurd rfl⟩
        | some out =>
            obtain ⟨taken, -, produced⟩ := bind_eq_ok_iff.mp result
            have saved : command.saving files config document =
                files.outcome (FileSystem.writeText out document config.encoding) := by
              simp only [GenerateCommand.saving, given]
            refine .inr ⟨refused, out, config, document,
              files.outcome (FileSystem.writeText out document config.encoding), rfl, produced, ?_,
              ?_, ?_⟩
            · rw [GenerateCommand.files_of_produced refused result given]
              exact FileSystem.written_writeComputed out _ files
            · intro exits
              obtain ⟨-, _, _, succeeds, saves, -⟩ := success.mp exits
              obtain ⟨rfl, rfl⟩ := Prod.mk.inj (Except.ok.inj (result.symm.trans succeeds))
              exact saved.symm.trans saves
            · intro saves
              refine success.mpr ⟨refused, _, _, result, saved.trans saves, fun noOutput => ?_⟩
              cases given.symm.trans noOutput

/-- What a command that generates leaves of the files.  An output that is there is not touched
unless it is to be replaced; a command that does not succeed leaves every file as it was, and no new
one unless a temporary file could not be filled; a command that succeeds leaves its document. -/
structure GenerateCommand.LeavesFiles (environment : Option Text) (files : FileSystem)
    (command : GenerateCommand) (report : Report) : Prop where
  refused : ∀ out, command.out = some out → files.pathExists out = true → command.force = false →
    report.files = files ∧ report.exitCode = errorCode
  printed : command.out = none → report.files = files
  failed : report.exitCode ≠ 0 → files.KeepsFiles report.files ∧
    (.fill ∉ files.faults → report.files.KeepsFiles files)
  written : report.exitCode = 0 → ∀ out, command.out = some out →
    ∃ config document, command.produced environment files = .ok (config, document) ∧
      FileSystem.Written out (FileSystem.encoded files.codecs config.encoding document) files
        report.files (.ok ())
  kept : command.force = false → files.IsTree →
    (∀ out, command.out = some out →
      files.isDirectory out.parent = true ∨ Path.upward ∉ out.parts) →
    files.KeepsFiles report.files

theorem leavesFiles {environment : Option Text} {files : FileSystem} {words : List Text}
    {verbose : Bool} {command : GenerateCommand}
    (read : Invocation.ofWords? files words = some ⟨verbose, .generate command⟩) :
    command.LeavesFiles environment files (run environment files words) := by
  have shows := Report.shows_run read (GenerateCommand.ends_course environment files command)
  have codes := GenerateCommand.exitCodes shows (Invocation.given_of_ofWords? read)
  constructor
  · intro out given there unforced
    have refused := GenerateCommand.refused_of_pathExists given there unforced
    refine ⟨?_, codes.codes.resolve_left fun exits => (codes.success.mp exits).1 refused⟩
    exact (files_run read).trans (GenerateCommand.files_of_refused environment refused)
  · intro noOutput
    rcases files_cases read with ⟨same, -⟩ | ⟨-, out, _, _, _, given, -⟩
    · exact same
    · cases noOutput.symm.trans given
  · intro fails
    rcases files_cases read with ⟨same, -⟩ | ⟨-, _, _, _, outcome, -, -, written, exits⟩
    · rw [same]
      exact ⟨fun _ _ => id, fun _ _ _ => id⟩
    · cases outcome with
      | ok done => exact absurd (exits.mpr rfl) fails
      | error error => exact written.keepsFiles
  · intro succeeds out given
    rcases files_cases read with ⟨-, fails⟩ | ⟨-, _, config, document, _, given', produced, rest⟩
    · exact absurd succeeds (fails (given ▸ nofun))
    · obtain ⟨written, exits⟩ := rest
      obtain rfl := Option.some.inj (given.symm.trans given')
      obtain rfl := exits.mp succeeds
      exact ⟨config, document, produced, written⟩
  · intro unforced tree direct
    rcases files_cases read with ⟨same, -⟩ | ⟨proceeds, out, _, _, _, given, -, written, -⟩
    · rw [same]
      exact fun _ _ => id
    · refine written.keepsFiles_of_absent tree (direct out given) ?_
      refine Bool.eq_false_iff.mpr fun there => proceeds ?_
      exact GenerateCommand.refused_of_pathExists given there unforced

/-- Output is atomic.  A text or a value is written as a whole, or every file stays as it was; only
a failure while the temporary file is filled leaves it behind.  Hence generating does not touch an
output that is there unless it is to be replaced, and a command line that does not succeed leaves
every file as it was. -/
theorem atomic_output (environment : Option Text) (files : FileSystem) (words : List Text) :
    (∀ path text name,
      let ended := (FileSystem.writeText path text name).run.run files
      FileSystem.Written path (FileSystem.encoded files.codecs name text) files ended.2 ended.1) ∧
    (∀ path value,
      let ended := (FileSystem.writeJson path value).run.run files
      FileSystem.Written path (FileSystem.jsonBytes value) files ended.2 ended.1) ∧
    (∀ (ε : Type) path (content : Except ε Bytes) files' error,
      FileSystem.Written path content files files' (.error error) →
        files.KeepsFiles files' ∧ (.fill ∉ files.faults → files'.KeepsFiles files)) ∧
    (∀ verbose command,
      Invocation.ofWords? files words = some ⟨verbose, .generate command⟩ →
        command.LeavesFiles environment files (run environment files words)) ∧
    (Invocation.ofWords? files words = none → (run environment files words).files = files) := by
  refine ⟨?_, ?_, ?_, ?_, ?_⟩
  · intro path text name
    exact FileSystem.written_writeComputed path _ files
  · intro path value
    exact FileSystem.written_writeComputed path _ files
  · intro ε path content files' error written
    exact written.keepsFiles
  · intro verbose command read
    exact leavesFiles read
  · intro misused
    rw [run, misused]

namespace Sample

/-- The output that is given is the file of the public key. -/
def taken : GenerateCommand :=
  { saving with out := some publicPath }

def takenWords : List Text :=
  ["generate".text, "--private-key".text, "priv".text, "--data".text, "x".text,
    "--out".text, "pub".text]

/-- The key pair where the system fails at one step of writing. -/
def faultyFiles (step : WriteStep) : FileSystem :=
  { keyFiles with faults := [step] }

def temporary : Location :=
  ["doc.XXXXXXXX.tmp".text]

theorem run_createAll_faulty (step : WriteStep) :
    ((FileSystem.createAll documentPath.parent).adapt TextFileError.file).run.run
        (faultyFiles step) = (.ok (), faultyFiles step) := by
  have creates : (FileSystem.createAll documentPath.parent).run.run (faultyFiles step) =
      (.ok (), faultyFiles step) := by
    change (FileSystem.createNamed [] []).run.run (faultyFiles step) = _
    rw [FileSystem.createNamed]
    rfl
  rw [FileSystem.run_adapt_eq, creates]
  rfl

end Sample

/-- Nothing changes if the output is there, if a misused command line is given, or if the system
does not put the temporary file in its place. -/
theorem atomic_output_unchanged :
    Invocation.ofWords? Sample.keyFiles Sample.takenWords =
        some ⟨false, .generate Sample.taken⟩ ∧
      (run none Sample.keyFiles Sample.takenWords).files = Sample.keyFiles ∧
      (run none Sample.keyFiles Sample.takenWords).exitCode = 1 ∧
      (run none Sample.keyFiles ["generate".text]).files = Sample.keyFiles ∧
      ∃ error files', (FileSystem.writeText Sample.documentPath "x".text "utf-8".text).run.run
          (Sample.faultyFiles .replace) = (.error error, files') ∧
        (Sample.faultyFiles .replace).KeepsFiles files' ∧
        files'.KeepsFiles (Sample.faultyFiles .replace) := by
  have read : Invocation.ofWords? Sample.keyFiles Sample.takenWords =
      some ⟨false, .generate Sample.taken⟩ := by decide +kernel
  have misused : Invocation.ofWords? Sample.keyFiles ["generate".text] = none := by
    decide +kernel
  obtain ⟨-, -, -, generates, -⟩ := atomic_output none Sample.keyFiles Sample.takenWords
  have leaves := (generates _ _ read).refused _ rfl (by decide +kernel) rfl
  obtain ⟨-, -, -, -, misuses⟩ := atomic_output none Sample.keyFiles ["generate".text]
  have ended : (FileSystem.writeText Sample.documentPath "x".text "utf-8".text).run.run
      (Sample.faultyFiles .replace) = (.error (.file (.refused .inputOutput
        (Path.absoluteText Sample.temporary) (some "doc".text))), Sample.faultyFiles .replace) := by
    refine (run_bind_of_ok (Sample.run_createAll_faulty .replace)).trans ?_
    rfl
  obtain ⟨texts, -, failures, -⟩ := atomic_output none (Sample.faultyFiles .replace) []
  have written := texts Sample.documentPath "x".text "utf-8".text
  rw [ended] at written
  obtain ⟨kept, kept'⟩ := failures _ _ _ _ _ written
  exact ⟨read, leaves.1, leaves.2, misuses misused, _, _, ended, kept, kept' (by decide)⟩

namespace Sample

/-- A path to the file of the public key, through a directory that is not there. -/
def upwardPath : Path :=
  Path.ofText "a/../pub".text

def upward : GenerateCommand :=
  { saving with out := some upwardPath }

def upwardWords : List Text :=
  ["generate".text, "--private-key".text, "priv".text, "--data".text, "x".text,
    "--out".text, "a/../pub".text]

/-- What is left of the key pair when a document takes the place of the public key. -/
def overwrittenFiles (document : Text) : FileSystem :=
  { current := []
    entries := [(["priv".text], .file (Encoding.Utf8.bytesOf LicenseSeal.Sample.privateKeyText)),
      (["pub".text], .file (Encoding.Utf8.bytesOf document)), (["a".text], .directory)] }

theorem run_writeText_upward {document : Text} (plain : ∀ c ∈ document, c.isSurrogate = false) :
    (FileSystem.writeText upwardPath document Config.builtIn.encoding).run.run keyFiles =
      (.ok (), overwrittenFiles document) := by
  have creates : (FileSystem.createAll upwardPath.parent).run.run keyFiles =
      (.ok (), keyFiles.put ["a".text] .directory) := by
    have above : (FileSystem.createNamed [] ["a".text]).run.run keyFiles =
        (.ok (), keyFiles.put ["a".text] .directory) := by
      rw [FileSystem.createNamed]
      rfl
    have absent : (liftM (FileSystem.create ⟨[], ["a".text, Path.upward]⟩) :
        FileSystem.Action FileError _).run.run keyFiles = (.ok (.error .missing), keyFiles) := rfl
    change (FileSystem.createNamed [] ["a".text, Path.upward]).run.run keyFiles = _
    rw [FileSystem.createNamed]
    refine (run_bind_of_ok absent).trans ((run_bind_of_ok above).trans ?_)
    rfl
  have adapted := FileSystem.run_adapt_eq (FileSystem.createAll upwardPath.parent)
    TextFileError.file keyFiles
  rw [creates] at adapted
  change (FileSystem.writeComputed upwardPath
    (FileSystem.encoded keyFiles.codecs Config.builtIn.encoding document)).run.run keyFiles = _
  rw [encoded_builtIn plain]
  refine (run_bind_of_ok adapted).trans ?_
  rfl

theorem isTree_keyFiles : keyFiles.IsTree := by
  intro location name there
  obtain ⟨entry, here⟩ := Option.ne_none_iff_exists'.mp there
  have noRoot : (location ++ [name]).isEmpty = false := by simp
  simp only [FileSystem.entryAt?, noRoot, Bool.false_eq_true, if_false] at here
  have member := FileSystem.mem_of_find? here
  have top : location = [] := by
    simp only [keyFiles, List.mem_cons, Prod.mk.injEq, List.append_eq_singleton_iff] at member
    grind
  subst top
  rfl

theorem result_upward {document : Text}
    (generated : (sealedRequest.run Config.builtIn keyFiles).outcome = .ok document) :
    upward.result none keyFiles = .ok (Config.builtIn, document) := by
  change ((sealedRequest.run Config.builtIn keyFiles).outcome >>= _) = _
  rw [generated]
  rfl

theorem head?_document (serial : Text) :
    (sealedDraft.document Config.builtIn.names serial).head? = some (.char '=') := by
  rw [document_sealed]
  rfl

theorem read_upwardWords :
    Invocation.ofWords? keyFiles upwardWords = some ⟨false, .generate upward⟩ := by
  decide +kernel

theorem run_upwardWords :
    (run none keyFiles upwardWords).exitCode = 0 ∧
      ∃ document, (∀ c ∈ document, c.isSurrogate = false) ∧ document.head? = some (.char '=') ∧
        (run none keyFiles upwardWords).files = overwrittenFiles document := by
  have shows := Report.shows_run read_upwardWords
    (GenerateCommand.ends_course none keyFiles upward)
  have codes := GenerateCommand.exitCodes shows (Invocation.given_of_ofWords? read_upwardWords)
  have proceeds : ¬ upward.Refused keyFiles := by
    rintro (same | ⟨taken, -⟩)
    · cases same
    · cases taken
  obtain ⟨serial, issued⟩ := exists_issues
  have generated := generate_outcome_eq_ok_iff.mpr ⟨_, _, _, issued, rfl⟩
  rw [generate_of_accepted ofOptions_generatePath] at generated
  have result := result_upward generated
  have plain := plain_document issued.signed
  have writes := run_writeText_upward plain
  have produced := GenerateCommand.files_of_produced proceeds result rfl
  refine ⟨codes.success.mpr ⟨proceeds, _, _, result, congrArg Prod.fst writes, nofun⟩, _, plain,
    head?_document serial, ?_⟩
  exact (files_run read_upwardWords).trans (produced.trans (congrArg Prod.snd writes))

end Sample

/-- Two ways in which files change all the same.  An output through a directory that is not there,
and up again, is not seen before the directory is created: the file that is there is replaced.  A
failure to fill the temporary file leaves it. -/
theorem exists_changed_files :
    (∃ files words command location content,
      Invocation.ofWords? files words = some ⟨false, .generate command⟩ ∧
        command.force = false ∧ files.IsTree ∧ (run none files words).exitCode = 0 ∧
        files.entryAt? location = some (.file content) ∧
        (run none files words).files.entryAt? location ≠ some (.file content)) ∧
    ∃ files error files',
      (FileSystem.writeText Sample.documentPath "x".text "utf-8".text).run.run files =
          (.error error, files') ∧
        files.entryAt? Sample.temporary = none ∧
        files'.entryAt? Sample.temporary = some (.file []) := by
  constructor
  · obtain ⟨exits, document, plain, begins, left⟩ := Sample.run_upwardWords
    refine ⟨_, _, _, ["pub".text], _, Sample.read_upwardWords, rfl, Sample.isTree_keyFiles, exits,
      rfl, fun same => ?_⟩
    rw [left] at same
    have sameBytes := Entry.file.inj (Option.some.inj same)
    have encoded := Encoding.Utf8.encode_of_plain plain
    rw [sameBytes] at encoded
    rw [Encoding.Utf8.encode_injective encoded LicenseSeal.Sample.encode_publicKeyText] at begins
    cases begins
  · have ended : (FileSystem.writeText Sample.documentPath "x".text "utf-8".text).run.run
        (Sample.faultyFiles .fill) = (.error (.file (.refused .inputOutput
          (Path.absoluteText Sample.temporary) none)),
            (Sample.faultyFiles .fill).put Sample.temporary (.file [])) := by
      refine (run_bind_of_ok (Sample.run_createAll_faulty .fill)).trans ?_
      rfl
    exact ⟨_, _, _, ended, rfl, rfl⟩

end CommandLine

end LicenseSeal
