import LicenseSeal.FileSystem.TextFile
import LicenseSeal.Proofs.FileSystem.UsablePaths

/-!
# Failures of actions on files

An action fails where one of its steps fails.  Writing a file fails because the system refuses a
step, because it cannot take the path, or because the content cannot be computed.
-/

namespace LicenseSeal

theorem run_bind_eq {σ ε α β : Type} (first : ExceptT ε (StateM σ) α)
    (second : α → ExceptT ε (StateM σ) β) (state : σ) :
    (first >>= second).run.run state =
      match first.run.run state with
      | (.ok result, state') => (second result).run.run state'
      | (.error error, state') => (.error error, state') := by
  simp only [ExceptT.run_bind, StateT.run_bind]
  rcases first.run.run state with ⟨outcome, state'⟩
  cases outcome <;> rfl

namespace FileSystem

section Failing

variable {ε ε' α β : Type} {kind : ε → Prop}

/-- Every failure of an action is of a kind. -/
def FailsAs (kind : ε → Prop) (action : Action ε α) : Prop :=
  ∀ files error, (action.run.run files).1 = .error error → kind error

theorem failsAs_pure (result : α) : FailsAs kind (pure result) := by
  intro files error fails
  cases fails

theorem failsAs_throw {error : ε} (ofKind : kind error) :
    FailsAs kind (throw error : Action ε α) := by
  intro files error' fails
  cases fails
  exact ofKind

theorem failsAs_lift (step : StateM FileSystem α) : FailsAs kind (liftM step : Action ε α) := by
  intro files error fails
  cases fails

theorem failsAs_bind {first : Action ε α} {second : α → Action ε β} (fails : FailsAs kind first)
    (fails' : ∀ result, FailsAs kind (second result)) : FailsAs kind (first >>= second) := by
  intro files error ends
  rw [run_bind_eq] at ends
  have fails := fails files
  generalize first.run.run files = ended at ends fails
  obtain ⟨outcome, files'⟩ := ended
  cases outcome with
  | ok result => exact fails' result files' error ends
  | error error' =>
      obtain rfl := Except.error.inj ends
      exact fails error' rfl

theorem failsAs_adapt {kind' : ε' → Prop} {image : ε → ε'} {action : Action ε α}
    (fails : FailsAs kind action) (ofKind : ∀ error, kind error → kind' (image error)) :
    FailsAs kind' (action.adapt image) := by
  intro files error ends
  have fails := fails files
  change (action.run.run files).1.mapError image = .error error at ends
  generalize (action.run.run files).1 = outcome at ends fails
  cases outcome with
  | ok result => cases ends
  | error error' =>
      obtain rfl := Except.error.inj ends
      exact ofKind error' (fails error' rfl)

end Failing

/-! ### Writing -/

/-- The system refuses an operation. -/
abbrev IsRefusal (error : FileError) : Prop :=
  error.isRefusal = true

theorem refuse_refuses {α : Type} (problem : FileProblem) (path : Path) :
    FailsAs IsRefusal (refuse problem path : Action FileError α) :=
  failsAs_throw rfl

theorem unlessDirectory_refuses (problem : FileProblem) (path : Path) :
    FailsAs IsRefusal (unlessDirectory problem path) := by
  refine failsAs_bind (failsAs_lift _) fun files => ?_
  split
  · exact failsAs_pure ()
  · exact refuse_refuses problem path

theorem createNamed_refuses (root : Text) (parts : List Text) :
    FailsAs IsRefusal (createNamed root parts) := by
  induction parts using createNamed.induct with
  | root => exact root
  | case1 parts above =>
      rw [createNamed]
      refine failsAs_bind (failsAs_lift _) fun ended => ?_
      split
      · exact failsAs_pure ()
      · split
        · exact refuse_refuses _ _
        · next more =>
            refine failsAs_bind (above more) fun _ => ?_
            refine failsAs_bind (failsAs_lift _) fun ended' => ?_
            split
            · exact failsAs_pure ()
            · exact refuse_refuses _ _
            · exact unlessDirectory_refuses _ _
      · exact unlessDirectory_refuses _ _

section Writing

variable {path : Path} (usable : path.fault? = none)

include usable

theorem createAll_refuses : FailsAs IsRefusal (createAll path) := by
  rw [createAll, usable]
  exact createNamed_refuses path.root path.parts

omit usable in
theorem atStep_refuses (step : WriteStep) {failure : FileError}
    (refusal : failure.isRefusal = true) :
    FailsAs IsRefusal (atStep step failure) := by
  refine failsAs_bind (failsAs_lift _) fun files => ?_
  split
  · exact failsAs_throw refusal
  · exact failsAs_pure ()

theorem createTemporary_refuses : FailsAs IsRefusal (createTemporary path) := by
  refine failsAs_bind (failsAs_lift _) fun files => ?_
  dsimp only
  rw [ofText?_freshLocation files usable]
  dsimp only
  split
  · exact failsAs_bind (failsAs_throw rfl) fun _ =>
      failsAs_bind (atStep_refuses _ rfl) fun _ =>
        failsAs_bind (failsAs_lift _) fun _ => failsAs_pure _
  · exact failsAs_bind (atStep_refuses _ rfl) fun _ =>
      failsAs_bind (failsAs_lift _) fun _ => failsAs_pure _

omit usable in
theorem fill_refuses (location : Location) (content : Bytes) :
    FailsAs IsRefusal (fill location content) := by
  refine failsAs_bind (failsAs_lift _) fun files => ?_
  split
  · exact failsAs_bind (failsAs_lift _) fun _ => failsAs_throw rfl
  · exact failsAs_lift _

omit usable in
theorem replaceWith_refuses (temporary : Location) (path : Path) :
    FailsAs IsRefusal (replaceWith temporary path) := by
  refine failsAs_bind (failsAs_lift _) fun files => ?_
  split
  · exact failsAs_lift _
  · refine failsAs_bind (failsAs_lift _) fun _ => ?_
    exact failsAs_throw rfl
  · exact failsAs_throw rfl

theorem writeWhole_refuses (content : Bytes) : FailsAs IsRefusal (writeWhole path content) := by
  refine failsAs_bind (createTemporary_refuses usable) fun temporary => ?_
  refine failsAs_bind (fill_refuses temporary content) fun _ => ?_
  exact replaceWith_refuses temporary path

/-- A write is refused, or its content cannot be computed. -/
theorem writeComputed_failsAs (content : Except TextFileError Bytes) :
    FailsAs (fun error => error.isRefusal = true ∨ content = .error error)
      (writeComputed path content) := by
  have refusal (error : FileError) (refuses : IsRefusal error) :
      (TextFileError.file error).isRefusal = true ∨ content = .error (.file error) := .inl refuses
  have creates := createAll_refuses (Path.fault?_parent usable)
  refine failsAs_bind (failsAs_adapt creates refusal) fun _ => ?_
  cases content with
  | error error => exact failsAs_throw (.inr rfl)
  | ok bytes => exact failsAs_adapt (writeWhole_refuses usable bytes) refusal

end Writing

end FileSystem

end LicenseSeal
