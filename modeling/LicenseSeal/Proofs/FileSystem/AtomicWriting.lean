import LicenseSeal.Proofs.FileSystem.ActionFailures
import LicenseSeal.Proofs.FileSystem.EntriesAndPaths

/-!
# Writing files as a whole

Writing a file puts all of its content where its path leads, or changes no file at all.  The
exception is a failure while the temporary file is filled, which leaves it with a front of the
content.
Directories above the file that were created stay in any case.  Main statements:
`written_writeComputed`, and `read_of_writeComputed` for reading what was written.
-/

namespace LicenseSeal

section Steps

variable {σ ε α β : Type} {first : ExceptT ε (StateM σ) α} {second : α → ExceptT ε (StateM σ) β}
  {state state' : σ}

theorem run_bind_of_ok {result : α} (ends : first.run.run state = (.ok result, state')) :
    (first >>= second).run.run state = (second result).run.run state' := by
  rw [run_bind_eq, ends]

theorem run_bind_of_error {error : ε} (ends : first.run.run state = (.error error, state')) :
    (first >>= second).run.run state = (.error error, state') := by
  rw [run_bind_eq, ends]

end Steps

theorem run_bind_eq_ok_iff {σ ε α β : Type} {first : ExceptT ε (StateM σ) α}
    {second : α → ExceptT ε (StateM σ) β} {state state' : σ} {result : β} :
    (first >>= second).run.run state = (.ok result, state') ↔
      ∃ between state'', first.run.run state = (.ok between, state'') ∧
        (second between).run.run state'' = (.ok result, state') := by
  rw [run_bind_eq]
  rcases first.run.run state with ⟨outcome, left⟩
  cases outcome with
  | error error =>
      constructor
      · intro ends
        cases ends
      · rintro ⟨between, state'', ends, -⟩
        cases ends
  | ok found =>
      constructor
      · exact fun ends => ⟨found, left, rfl, ends⟩
      · rintro ⟨between, state'', ends, rest⟩
        cases ends
        exact rest

namespace FileSystem

/-! ### Temporary files -/

theorem temporaryName_injective (name : Text) : Function.Injective (temporaryName name) := by
  intro count count' same
  have lengths := congrArg List.length same
  simp only [temporaryName, List.length_append, List.length_replicate] at lengths
  omega

theorem freshLocation_spec (files : FileSystem) (directory : Location) (name : Text) :
    files.entryAt? (files.freshLocation directory name) = none ∧
      ∃ count, files.freshLocation directory name = directory ++ [temporaryName name count] := by
  have distinct : Function.Injective fun count => directory ++ [temporaryName name count] := by
    intro count count' same
    exact temporaryName_injective name (List.cons.inj (List.append_cancel_left same)).1
  obtain ⟨count, counted, free⟩ := files.exists_free distinct fun count => by simp
  refine ⟨?_, _, rfl⟩
  rw [freshLocation]
  cases found : (List.range (files.entries.length + 1)).find? fun count =>
      (files.entryAt? (directory ++ [temporaryName name count])).isNone with
  | none => exact absurd free (List.find?_eq_none.mp found count counted)
  | some count' =>
      have isFree := @List.find?_some _ _ _ _ found
      exact Option.isNone_iff_eq_none.mp isFree

/-! ### What else changes -/

/-- Files after others: nothing but some locations has changed, and the directories that are new are
on the way of a path. -/
structure Frame (path : Path) (changed : List Location) (files files' : FileSystem) : Prop where
  current : files'.current = files.current
  faults : files'.faults = files.faults
  codecs : files'.codecs = files.codecs
  others : ∀ location, location ∉ changed →
    files'.entryAt? location = files.entryAt? location ∨
      (files.entryAt? location = none ∧ files'.entryAt? location = some .directory ∧
        ∃ count, files'.locate ⟨path.root, path.parts.take count⟩ = .ok location)

namespace Frame

variable {path : Path} {changed : List Location} {files files' files'' : FileSystem}

theorem refl (path : Path) (changed : List Location) (files : FileSystem) :
    Frame path changed files files :=
  ⟨rfl, rfl, rfl, fun _ _ => .inl rfl⟩

theorem keepsDirectories (frame : Frame path changed files files')
    (noDirectory : ∀ location ∈ changed, files.entryAt? location ≠ some .directory) :
    KeepsDirectories files files' := by
  intro location isDirectory
  have unchanged : location ∉ changed := fun member => noDirectory location member isDirectory
  rcases frame.others location unchanged with same | ⟨-, new, -⟩
  · rw [same, isDirectory]
  · exact new

/-- Directories are created first, and then some locations change. -/
theorem trans (frame : Frame path [] files files') (keeps : KeepsDirectories files' files'')
    (frame' : Frame path changed files' files'') : Frame path changed files files'' := by
  refine ⟨frame'.current.trans frame.current, frame'.faults.trans frame.faults,
    frame'.codecs.trans frame.codecs, ?_⟩
  intro location unchanged
  rcases frame'.others location unchanged with same' | ⟨absent, new, above⟩
  · rcases frame.others location List.not_mem_nil with same | ⟨absent, new, count, above⟩
    · exact .inl (same'.trans same)
    · exact .inr ⟨absent, same'.trans new, count, keeps.locate_eq frame'.current above⟩
  · rcases frame.others location List.not_mem_nil with same | ⟨-, here, -⟩
    · exact .inr ⟨same ▸ absent, new, above⟩
    · cases absent.symm.trans here

end Frame

/-! ### Creating directories -/

section Creating

variable {ε α β : Type} {path : Path}

/-- Whatever comes of an action, it has only created directories on the way of a path. -/
def OnlyCreates (path : Path) (action : Action ε α) : Prop :=
  ∀ files, Frame path [] files (action.run.run files).2

theorem onlyCreates_pure (result : α) : OnlyCreates path (pure result : Action ε α) :=
  fun files => .refl path [] files

theorem onlyCreates_throw (error : ε) : OnlyCreates path (throw error : Action ε α) :=
  fun files => .refl path [] files

theorem onlyCreates_get : OnlyCreates path (get : Action ε FileSystem) :=
  fun files => .refl path [] files

theorem onlyCreates_bind {first : Action ε α} {second : α → Action ε β}
    (creates : OnlyCreates path first) (creates' : ∀ result, OnlyCreates path (second result)) :
    OnlyCreates path (first >>= second) := by
  intro files
  have frame := creates files
  rw [run_bind_eq]
  generalize first.run.run files = ended at frame
  obtain ⟨outcome, files'⟩ := ended
  cases outcome with
  | error error => exact frame
  | ok result =>
      have frame' := creates' result files'
      exact frame.trans (frame'.keepsDirectories (List.forall_mem_nil _)) frame'

omit ε in
theorem run_create (path : Path) (files : FileSystem) :
    (create path).run files =
      match files.locate path with
      | .error problem => (.error problem, files)
      | .ok location =>
          if (files.entryAt? location).isSome then (.error .present, files)
          else if files.faults.contains .directory then (.error .inputOutput, files)
          else (.ok (), files.put location .directory) := by
  change (match files.locate path with
    | .error problem => pure (.error problem)
    | .ok location =>
        if (files.entryAt? location).isSome then pure (.error .present)
        else if files.faults.contains .directory then pure (.error .inputOutput)
        else do
          set (files.put location .directory)
          pure (.ok ()) : StateM FileSystem (Except FileProblem Unit)).run files = _
  cases files.locate path with
  | error problem => rfl
  | ok location =>
      dsimp only
      split
      · rfl
      · split <;> rfl

/-- A directory that is created where a path leads is on the way of the path. -/
theorem Frame.of_put {files : FileSystem} {location : Location} {count : Nat}
    (free : files.entryAt? location = none)
    (leads : files.locate ⟨path.root, path.parts.take count⟩ = .ok location) :
    Frame path [] files (files.put location .directory) := by
  have keeps : KeepsDirectories files (files.put location .directory) := by
    intro other isDirectory
    have differs : other ≠ location := by
      rintro rfl
      cases free.symm.trans isDirectory
    rw [entryAt?_put_of_ne differs, isDirectory]
  refine ⟨rfl, rfl, rfl, fun other _ => ?_⟩
  by_cases same : other = location
  · subst same
    exact .inr ⟨free, entryAt?_put_self (ne_nil_of_free free), count, keeps.locate_eq rfl leads⟩
  · exact .inl (entryAt?_put_of_ne same)

theorem onlyCreates_create (count : Nat) :
    OnlyCreates path
      (liftM (create ⟨path.root, path.parts.take count⟩) : Action ε (Except FileProblem Unit)) := by
  intro files
  change Frame path [] files ((create ⟨path.root, path.parts.take count⟩).run files).2
  rw [run_create]
  cases leads : files.locate ⟨path.root, path.parts.take count⟩ with
  | error problem => exact .refl path [] files
  | ok location =>
      dsimp only
      split
      · exact .refl path [] files
      · next free =>
          split
          · exact .refl path [] files
          · exact .of_put (by simpa using free) leads

theorem onlyCreates_unlessDirectory (problem : FileProblem) (path' : Path) :
    OnlyCreates path (unlessDirectory problem path') := by
  refine onlyCreates_bind onlyCreates_get fun files => ?_
  split
  · exact onlyCreates_pure ()
  · exact onlyCreates_throw _

theorem onlyCreates_createNamed {parts : List Text} (count : Nat)
    (front : parts = path.parts.take count) :
    OnlyCreates path (createNamed path.root parts) := by
  -- Each call is for names at the front of those of the path.
  induction parts using createNamed.induct generalizing count with
  | root => exact path.root
  | case1 parts above =>
      have creates := @onlyCreates_create FileError path count
      rw [← front] at creates
      rw [createNamed]
      refine onlyCreates_bind creates fun ended => ?_
      split
      · exact onlyCreates_pure ()
      · split
        · exact onlyCreates_throw _
        · next more =>
            have shorter : parts.dropLast = path.parts.take (parts.length - 1) := by
              rw [List.dropLast_eq_take, front, List.take_take, List.length_take]
              congr 1
              omega
            refine onlyCreates_bind (above more _ shorter) fun _ => ?_
            refine onlyCreates_bind creates fun ended' => ?_
            split
            · exact onlyCreates_pure ()
            · exact onlyCreates_throw _
            · exact onlyCreates_unlessDirectory _ _
      · exact onlyCreates_unlessDirectory _ _

theorem onlyCreates_createAll : OnlyCreates path (createAll path.parent) := by
  rw [createAll]
  split
  · exact onlyCreates_throw _
  · exact onlyCreates_createNamed (path.parts.length - 1) List.dropLast_eq_take

end Creating

/-! ### Writing -/

/-- What can come of writing a content where a path leads: all of it is there, or no file has
changed, or a failure to fill the temporary file has left it with a front of the content. -/
inductive Written {ε : Type} (path : Path) (content : Except ε Bytes) (files files' : FileSystem) :
    Except ε Unit → Prop where
  | whole {bytes : Bytes} {location : Location} :
      path.fault? = none → content = .ok bytes → files.entryAt? location ≠ some .directory →
      files'.locate path = .ok location → files'.entryAt? location = some (.file bytes) →
      Frame path [location] files files' → Written path content files files' (.ok ())
  | unchanged {error : ε} :
      Frame path [] files files' → Written path content files files' (.error error)
  | leftover {bytes front : Bytes} {temporary : Location} {count : Nat} {error : ε} :
      content = .ok bytes → .fill ∈ files.faults →
      temporary = path.parent.absolute files.current ++ [temporaryName path.name count] →
      files.entryAt? temporary = none → front <+: bytes →
      files'.entryAt? temporary = some (.file front) →
      Frame path [temporary] files files' → Written path content files files' (.error error)

section Writing

variable {ε ε' : Type} {path : Path} {files files' files'' : FileSystem}

theorem Written.mapError {content : Except ε Bytes} {outcome : Except ε Unit}
    (written : Written path content files files' outcome) (image : ε → ε') :
    Written path (content.mapError image) files files' (outcome.mapError image) := by
  cases written with
  | whole usable computed noDirectory leads there frame =>
      exact .whole usable (congrArg _ computed) noDirectory leads there frame
  | unchanged frame => exact .unchanged frame
  | leftover computed faulty named free front there frame =>
      exact .leftover (congrArg _ computed) faulty named free front there frame

theorem Written.of_created {content : Except ε Bytes} {outcome : Except ε Unit}
    (created : Frame path [] files files') (written : Written path content files' files'' outcome) :
    Written path content files files'' outcome := by
  have keeps := created.keepsDirectories (List.forall_mem_nil _)
  cases written with
  | @whole bytes location usable computed noDirectory leads there frame =>
      have keeps' := frame.keepsDirectories (List.forall_mem_singleton.mpr noDirectory)
      refine .whole usable computed (fun isDirectory => ?_) leads there (created.trans keeps' frame)
      exact noDirectory (keeps location isDirectory)
  | unchanged frame =>
      exact .unchanged (created.trans (frame.keepsDirectories (List.forall_mem_nil _)) frame)
  | @leftover bytes part temporary count error computed faulty named free front there frame =>
      have noDirectory : files'.entryAt? temporary ≠ some .directory := by rw [free]; nofun
      have keeps' := frame.keepsDirectories (List.forall_mem_singleton.mpr noDirectory)
      refine .leftover computed (created.faults ▸ faulty) (created.current ▸ named) ?_ front there
        (created.trans keeps' frame)
      rcases created.others temporary List.not_mem_nil with same | ⟨absent, -, -⟩
      · rw [← same, free]
      · exact absent

theorem run_atStep_eq (step : WriteStep) (failure : FileError) (files : FileSystem) :
    (atStep step failure).run.run files =
      if files.faults.contains step then (.error failure, files) else (.ok (), files) := by
  change (if files.faults.contains step then throw failure else pure () :
    Action FileError Unit).run.run files = _
  split <;> rfl

theorem createTemporary_cases (path : Path) (files : FileSystem) :
    (∃ error, (createTemporary path).run.run files = (.error error, files)) ∨
      ∃ temporary, (createTemporary path).run.run files =
          (.ok temporary, files.put temporary (.file [])) ∧
        PathFault.IsUsableName path.name ∧ files.entryAt? temporary = none ∧
        ∃ count,
          temporary = path.parent.absolute files.current ++ [temporaryName path.name count] := by
  have looked : (get : Action FileError FileSystem).run.run files = (.ok files, files) := rfl
  obtain ⟨free, count, named⟩ :=
    files.freshLocation_spec (path.parent.absolute files.current) path.name
  rw [createTemporary, run_bind_eq, looked]
  dsimp only
  split
  · exact .inl ⟨_, rfl⟩
  · next usable =>
    split
    · exact .inl ⟨_, rfl⟩
    · rw [run_bind_eq, run_atStep_eq]
      by_cases faulty : files.faults.contains .create = true
      · rw [if_pos faulty]
        exact .inl ⟨_, rfl⟩
      · rw [if_neg faulty]
        have usableNames :=
          (Path.fault?_eq_none_iff.mp (Option.eq_none_iff_forall_ne_some.mpr usable)).2
        have usableName : PathFault.IsUsableName (temporaryName path.name count) :=
          usableNames _ (by rw [named]; exact List.mem_append_right _ List.mem_cons_self)
        refine .inr ⟨_, rfl, fun c member => usableName c ?_, free, count, named⟩
        rw [temporaryName, List.append_assoc, List.append_assoc]
        exact List.mem_append_left _ member

theorem run_fill_eq (location : Location) (content : Bytes) (files : FileSystem) :
    (fill location content).run.run files =
      if files.faults.contains .fill then
        (.error (.refused .inputOutput (Path.absoluteText location) none),
          files.put location (.file (content.take files.written)))
      else (.ok (), files.put location (.file content)) := by
  have looked : (get : Action FileError FileSystem).run.run files = (.ok files, files) := rfl
  rw [fill, run_bind_eq, looked]
  dsimp only
  split <;> rfl

theorem run_replaceWith_eq {temporary : Location} {entry : Entry} (path : Path)
    (there : files.entryAt? temporary = some entry) :
    (replaceWith temporary path).run.run files =
      match obstacle? files path with
      | .ok location => (.ok (), (files.remove temporary).put location entry)
      | .error problem =>
          (.error (.refused problem (Path.absoluteText temporary) (some path.text)),
            files.remove temporary) := by
  have looked : (get : Action FileError FileSystem).run.run files = (.ok files, files) := rfl
  rw [replaceWith, run_bind_eq, looked]
  dsimp only
  rw [there]
  cases obstacle? files path <;> rfl

/-- A file that takes the place of what a path leads to takes that of no directory. -/
theorem leads_of_obstacle? {location : Location} (free : obstacle? files path = .ok location) :
    files.locate path = .ok location ∧ files.entryAt? location ≠ some .directory := by
  rw [obstacle?] at free
  split at free
  · cases free
  · split at free
    · cases free
    · next leads =>
        split at free
        · cases free
        · next noDirectory =>
            split at free
            · cases free
            · obtain rfl := Except.ok.inj free
              exact ⟨leads, noDirectory⟩

/-- A filled temporary file beside which nothing has changed comes where the path leads, or is
removed. -/
theorem written_replaceWith {temporary : Location} {content : Bytes}
    (usable : path.fault? = none) (free : files.entryAt? temporary = none) :
    let ended := (replaceWith temporary path).run.run (files.put temporary (.file content))
    Written path (.ok content) files ended.2 ended.1 := by
  have below := ne_nil_of_free free
  have there : (files.put temporary (.file content)).entryAt? temporary = some (.file content) :=
    entryAt?_put_self below
  have others {location : Location} (differs : location ≠ temporary) :
      (files.put temporary (.file content)).entryAt? location = files.entryAt? location :=
    entryAt?_put_of_ne differs
  have removed (location : Location) :
      ((files.put temporary (.file content)).remove temporary).entryAt? location =
        files.entryAt? location := by
    by_cases same : location = temporary
    · rw [same, entryAt?_remove_self below, free]
    · rw [entryAt?_remove_of_ne same, others same]
  intro ended
  dsimp only [ended]
  rw [run_replaceWith_eq path there]
  cases possible : obstacle? (files.put temporary (.file content)) path with
  | error problem => exact .unchanged ⟨rfl, rfl, rfl, fun location _ => .inl (removed location)⟩
  | ok location =>
      obtain ⟨leads, noDirectory⟩ := leads_of_obstacle? possible
      have keeps : KeepsDirectories (files.put temporary (.file content))
          (((files.put temporary (.file content)).remove temporary).put location
            (.file content)) := by
        intro directory isDirectory
        have notTarget : directory ≠ location := fun same => noDirectory (same ▸ isDirectory)
        have notTemporary : directory ≠ temporary := by
          rintro rfl
          cases there.symm.trans isDirectory
        rw [entryAt?_put_of_ne notTarget, entryAt?_remove_of_ne notTemporary, isDirectory]
      refine .whole usable rfl ?_ (keeps.locate_eq rfl leads)
        (entryAt?_put_self (ne_nil_of_entryAt? noDirectory))
        ⟨rfl, rfl, rfl, fun other differs => .inl ?_⟩
      · intro isDirectory
        refine noDirectory ((others ?_).trans isDirectory)
        rintro rfl
        cases free.symm.trans isDirectory
      · rw [entryAt?_put_of_ne (fun same => differs (List.mem_singleton.mpr same)), removed]

theorem written_writeWhole (content : Bytes) (files : FileSystem)
    (above : path.parent.fault? = none) :
    let ended := (writeWhole path content).run.run files
    Written path (.ok content) files ended.2 ended.1 := by
  intro ended
  dsimp only [ended]
  rw [writeWhole]
  rcases createTemporary_cases path files with
    ⟨error, fails⟩ | ⟨temporary, creates, usableName, free, count, named⟩
  · rw [run_bind_of_error fails]
    exact .unchanged (.refl path [] files)
  · rw [run_bind_of_ok creates]
    have fills := run_fill_eq temporary content (files.put temporary (.file []))
    by_cases faulty : (files.put temporary (.file [])).faults.contains .fill = true
    · rw [if_pos faulty, put_put] at fills
      rw [run_bind_of_error fills]
      refine .leftover rfl (List.contains_iff_mem.mp faulty) named free (List.take_prefix _ content)
        (entryAt?_put_self (ne_nil_of_free free)) ⟨rfl, rfl, rfl, fun location differs => .inl ?_⟩
      exact entryAt?_put_of_ne fun same => differs (List.mem_singleton.mpr same)
    · rw [if_neg faulty, put_put] at fills
      rw [run_bind_of_ok fills]
      exact written_replaceWith (Path.fault?_of_parent above usableName) free

theorem run_adapt_eq (action : Action ε Unit) (image : ε → ε') (files : FileSystem) :
    (action.adapt image).run.run files =
      ((action.run.run files).1.mapError image, (action.run.run files).2) :=
  rfl

theorem fault?_of_createAll
    (creates : (((createAll path).adapt TextFileError.file).run.run files).1 = .ok ()) :
    path.fault? = none := by
  rw [createAll] at creates
  split at creates
  · cases creates
  · next usable => exact usable

theorem written_writeComputed (path : Path) (content : Except TextFileError Bytes)
    (files : FileSystem) :
    let ended := (writeComputed path content).run.run files
    Written path content files ended.2 ended.1 := by
  intro ended
  dsimp only [ended]
  rw [writeComputed]
  have created : Frame path [] files ((createAll path.parent).run.run files).2 :=
    onlyCreates_createAll files
  have creates := run_adapt_eq (createAll path.parent) TextFileError.file files
  generalize (createAll path.parent).run.run files = directories at created creates
  obtain ⟨outcome, files'⟩ := directories
  cases outcome with
  | error error =>
      rw [run_bind_of_error creates]
      exact .unchanged created
  | ok _ =>
      rw [run_bind_of_ok creates]
      cases content with
      | error error => exact .unchanged created
      | ok bytes =>
          have above := fault?_of_createAll (congrArg Prod.fst creates)
          exact ((written_writeWhole bytes files' above).mapError TextFileError.file).of_created
            created

/-! ### What is kept -/

/-- Every file is still there with its content. -/
def KeepsFiles (files files' : FileSystem) : Prop :=
  ∀ location content, files.entryAt? location = some (.file content) →
    files'.entryAt? location = some (.file content)

theorem Frame.keepsFiles {changed : List Location} (frame : Frame path changed files files')
    (free : ∀ location ∈ changed, files.entryAt? location = none) : KeepsFiles files files' := by
  intro location content there
  have unchanged : location ∉ changed := fun member => by
    cases there.symm.trans (free location member)
  rcases frame.others location unchanged with same | ⟨absent, -, -⟩
  · rw [same, there]
  · cases there.symm.trans absent

theorem Frame.keepsFiles_before (frame : Frame path [] files files') : KeepsFiles files' files := by
  intro location content there
  rcases frame.others location List.not_mem_nil with same | ⟨-, new, -⟩
  · rw [← same, there]
  · cases there.symm.trans new

/-- A failure to write leaves every file as it was; only a failure while the temporary file is
filled leaves a new one. -/
theorem Written.keepsFiles {content : Except ε Bytes} {error : ε}
    (written : Written path content files files' (.error error)) :
    KeepsFiles files files' ∧ (.fill ∉ files.faults → KeepsFiles files' files) := by
  cases written with
  | unchanged frame =>
      exact ⟨frame.keepsFiles (List.forall_mem_nil _), fun _ => frame.keepsFiles_before⟩
  | leftover _ faulty _ free _ _ frame =>
      exact ⟨frame.keepsFiles (List.forall_mem_singleton.mpr free), absurd faulty⟩

/-- Nothing that was there is replaced if the path led to nothing, and if it does not go through
directories that are created and up again. -/
theorem Written.keepsFiles_of_absent {content : Except ε Bytes} {outcome : Except ε Unit}
    (written : Written path content files files' outcome) (tree : files.IsTree)
    (direct : files.isDirectory path.parent ∨ Path.upward ∉ path.parts)
    (absent : files.pathExists path = false) : KeepsFiles files files' := by
  cases written with
  | @whole bytes location usable _ noDirectory leads _ frame =>
      refine frame.keepsFiles (List.forall_mem_singleton.mpr ?_)
      cases here : files.entryAt? location with
      | none => rfl
      | some entry =>
          have keeps := frame.keepsDirectories (List.forall_mem_singleton.mpr noDirectory)
          have led : files.locate path = .ok location := by
            rcases direct with inDirectory | noUpward
            · exact locate_eq_of_parent keeps frame.current inDirectory leads
            · exact tree.locate_eq frame.current noUpward (by rw [here]; nofun) leads
          rw [pathExists, usable, lookUp_eq_ok_iff.mpr ⟨_, led, here⟩] at absent
          cases absent
  | unchanged frame => exact frame.keepsFiles (List.forall_mem_nil _)
  | leftover _ _ _ free _ _ frame => exact frame.keepsFiles (List.forall_mem_singleton.mpr free)

theorem read_of_writeComputed {content : Except TextFileError Bytes}
    (succeeds : (writeComputed path content).run.run files = (.ok (), files')) :
    ∃ bytes, content = .ok bytes ∧ files'.read path = .ok bytes := by
  have written := written_writeComputed path content files
  rw [succeeds] at written
  cases written with
  | whole usable computed _ leads there _ =>
      refine ⟨_, computed, ?_⟩
      rw [read, usable, lookUp_eq_ok_iff.mpr ⟨_, leads, there⟩]

theorem codecs_of_writeComputed {content : Except TextFileError Bytes}
    {outcome : Except TextFileError Unit}
    (ends : (writeComputed path content).run.run files = (outcome, files')) :
    files'.codecs = files.codecs := by
  have written := written_writeComputed path content files
  rw [ends] at written
  cases written with
  | unchanged frame => exact frame.codecs
  | leftover _ _ _ _ _ _ frame => exact frame.codecs
  | whole _ _ _ _ _ frame => exact frame.codecs

end Writing

end FileSystem

end LicenseSeal
