import LicenseSeal.FileSystem.Write

/-!
# Usable paths

The system takes a path if every code point of it is usable.  Those of a usable path and of the
current directory make up every path that writing a file needs.
-/

namespace LicenseSeal

namespace PathFault

/-- A code point that the system takes: neither the null character nor a surrogate that stands for
no byte. -/
def IsUsable (c : CodePoint) : Prop :=
  (c.isSurrogate = true → Encoding.Utf8.isEscapedByte c = true) ∧ c ≠ CodePoint.ofNat 0

/-- A name all of whose code points the system takes. -/
def IsUsableName (name : Text) : Prop :=
  ∀ c ∈ name, IsUsable c

theorem ofText?_eq_none_iff {text : Text} : ofText? text = none ↔ IsUsableName text := by
  have split : IsUsableName text ↔
      Encoding.Utf8.systemError? 0 text = none ∧ CodePoint.ofNat 0 ∉ text := by
    rw [Encoding.Utf8.systemError?_eq_none_iff]
    constructor
    · intro usable
      exact ⟨fun c member => (usable c member).1, fun member => (usable _ member).2 rfl⟩
    · rintro ⟨encodable, noNull⟩ c member
      exact ⟨encodable c member, fun null => noNull (null ▸ member)⟩
  rw [split, ofText?]
  cases Encoding.Utf8.systemError? 0 text <;> simp

theorem isUsable_char {c : Char} (visible : c ≠ Char.ofNat 0) : IsUsable c := by
  refine ⟨fun surrogate => ?_, fun null => visible ?_⟩
  · cases surrogate
  · exact CodePoint.char.inj null

end PathFault

open PathFault

namespace Path

private theorem isUsableName_join {parts : List Text} :
    IsUsableName (Text.join ['/'] parts) ↔ ∀ part ∈ parts, IsUsableName part := by
  induction parts using Text.join.induct with
  | case1 => simp [Text.join, IsUsableName]
  | case2 only => simp [Text.join]
  | case3 first second rest ih =>
      have slash : IsUsable '/' := isUsable_char (by decide)
      rw [Text.join, List.forall_mem_cons, ← ih]
      simp only [IsUsableName, List.mem_append, List.mem_singleton, or_imp, forall_and,
        forall_eq, slash, and_true]

theorem fault?_eq_none_iff {path : Path} :
    path.fault? = none ↔ IsUsableName path.root ∧ ∀ part ∈ path.parts, IsUsableName part := by
  have dot : IsUsable '.' := isUsable_char (by decide)
  rw [fault?, ofText?_eq_none_iff, text]
  split
  · next empty =>
      simp only [Bool.and_eq_true, List.isEmpty_iff] at empty
      simp [empty.1, empty.2, IsUsableName, dot]
  · rw [← isUsableName_join]
    simp only [IsUsableName, List.mem_append, or_imp, forall_and]

variable {path : Path} (usable : path.fault? = none)

include usable

theorem fault?_parent : path.parent.fault? = none := by
  rw [fault?_eq_none_iff] at usable ⊢
  exact ⟨usable.1, fun part member => usable.2 part (List.dropLast_subset path.parts member)⟩

theorem isUsableName_name : IsUsableName path.name := by
  rw [fault?_eq_none_iff] at usable
  rw [name]
  cases last : path.parts.getLast? with
  | none =>
      intro c member
      cases member
  | some part => exact usable.2 part (List.mem_of_getLast? last)

omit usable in
theorem fault?_of_parent (above : path.parent.fault? = none) (named : IsUsableName path.name) :
    path.fault? = none := by
  rw [fault?_eq_none_iff] at above ⊢
  refine ⟨above.1, fun part member => ?_⟩
  have nonempty : path.parts ≠ [] := List.ne_nil_of_mem member
  rw [← List.dropLast_concat_getLast nonempty] at member
  rcases List.mem_append.mp member with earlier | last
  · exact above.2 part earlier
  · rw [name, List.getLast?_eq_some_getLast nonempty, Option.getD_some] at named
    rw [List.mem_singleton.mp last]
    exact named

theorem isUsableName_of_mem_absolute {current : List Text}
    (named : ∀ name ∈ current, IsUsableName name) :
    ∀ name ∈ path.absolute current, IsUsableName name := by
  have proper := (fault?_eq_none_iff.mp usable).2
  have begins : ∀ name ∈ if path.root.isEmpty then current else [], IsUsableName name := by
    split
    · exact named
    · simp
  rw [absolute]
  generalize (if path.root.isEmpty then current else []) = start at begins
  generalize path.parts = parts at proper
  clear usable
  induction parts generalizing start with
  | nil => exact begins
  | cons part rest ih =>
      rw [List.forall_mem_cons] at proper
      refine ih _ (fun name member => ?_) proper.2
      rw [descend] at member
      split at member
      · exact begins name (List.dropLast_subset _ member)
      · rcases List.mem_append.mp member with earlier | last
        · exact begins name earlier
        · rw [List.mem_singleton.mp last]
          exact proper.1

end Path

/-- A path for a temporary file is usable if the one that the file is for is. -/
theorem FileSystem.ofText?_freshLocation (files : FileSystem) {path : Path}
    (usable : path.fault? = none) :
    ofText? (Path.absoluteText
      (files.freshLocation (path.parent.absolute files.current) path.name)) = none := by
  have directory := Path.isUsableName_of_mem_absolute (Path.fault?_parent usable) fun name member =>
    ofText?_eq_none_iff.mp (files.usable name member)
  refine Path.fault?_eq_none_iff.mpr ⟨?_, fun name member => ?_⟩
  · intro c member
    obtain rfl := List.mem_singleton.mp member
    exact isUsable_char (by decide)
  · rcases List.mem_append.mp member with above | last
    · exact directory name above
    · rw [List.mem_singleton.mp last]
      intro c member
      simp only [temporaryName, List.mem_append, List.mem_replicate] at member
      rcases member with ((named | dot) | ⟨-, rfl⟩) | ending
      · exact Path.isUsableName_name usable c named
      · obtain rfl := List.mem_singleton.mp dot
        exact isUsable_char (by decide)
      · exact isUsable_char (by decide)
      · simp only [String.text, List.mem_map] at ending
        obtain ⟨letter, letters, rfl⟩ := ending
        refine isUsable_char ?_
        rintro rfl
        exact absurd letters (by decide)

end LicenseSeal
