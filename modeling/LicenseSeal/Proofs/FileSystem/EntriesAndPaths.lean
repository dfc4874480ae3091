import LicenseSeal.FileSystem
import Mathlib.Data.List.Induction
import Mathlib.Data.List.Nodup
import Mathlib.Data.List.Perm.Subperm

/-!
# Entries and paths

What is at a location after an entry was put at another one or removed, and where a path leads in
files that have the same directories, or more.
-/

namespace LicenseSeal.FileSystem

/-! ### Entries -/

section Entries

variable {location other : Location} {entry : Entry} {entries : List (Location × Entry)}
  {files : FileSystem}

theorem find?_putEntry_self : find? location (putEntry location entry entries) = some entry := by
  induction entries with
  | nil => rw [putEntry, find?, if_pos rfl]
  | cons first rest ih =>
      rw [putEntry]
      split
      · rw [find?, if_pos rfl]
      · next differs => rw [find?, if_neg differs, ih]

theorem find?_putEntry_of_ne (differs : other ≠ location) :
    find? other (putEntry location entry entries) = find? other entries := by
  induction entries with
  | nil => simp only [putEntry, find?, if_neg differs.symm]
  | cons first rest ih =>
      rw [putEntry]
      split
      · next same =>
          rw [find?, if_neg differs.symm, find?, if_neg (same ▸ differs.symm)]
      · rw [find?, find?, ih]

theorem find?_filter_of_ne (differs : other ≠ location) :
    find? other (entries.filter fun entry => entry.1 ≠ location) = find? other entries := by
  induction entries with
  | nil => rfl
  | cons first rest ih =>
      rw [List.filter_cons]
      split
      · rw [find?, find?, ih]
      · next same =>
          have here : first.1 = location := by simpa using same
          rw [ih, find?, if_neg (here ▸ differs.symm)]

theorem putEntry_putEntry {entry' : Entry} :
    putEntry location entry' (putEntry location entry entries) =
      putEntry location entry' entries := by
  induction entries with
  | nil => simp only [putEntry, if_true]
  | cons first rest ih =>
      rw [putEntry]
      split
      · next same => rw [putEntry, if_pos rfl, putEntry, if_pos same]
      · next differs => rw [putEntry, if_neg differs, ih, putEntry, if_neg differs]

theorem put_put {entry' : Entry} :
    (files.put location entry).put location entry' = files.put location entry' := by
  rw [put, put, put, putEntry_putEntry]

theorem entryAt?_put_self (below : location ≠ []) :
    (files.put location entry).entryAt? location = some entry := by
  have noRoot : location.isEmpty = false := List.isEmpty_eq_false_iff.mpr below
  simp only [entryAt?, put, noRoot, Bool.false_eq_true, if_false, find?_putEntry_self]

theorem entryAt?_put_of_ne (differs : other ≠ location) :
    (files.put location entry).entryAt? other = files.entryAt? other := by
  simp only [entryAt?, put, find?_putEntry_of_ne differs]

theorem entryAt?_remove_of_ne (differs : other ≠ location) :
    (files.remove location).entryAt? other = files.entryAt? other := by
  simp only [entryAt?, remove, find?_filter_of_ne differs]

theorem ne_nil_of_entryAt? (noDirectory : files.entryAt? location ≠ some .directory) :
    location ≠ [] := by
  rintro rfl
  exact noDirectory rfl

end Entries

theorem mem_of_find? {location : Location} {entry : Entry} {entries : List (Location × Entry)}
    (found : find? location entries = some entry) : (location, entry) ∈ entries := by
  induction entries with
  | nil => cases found
  | cons first rest ih =>
      rw [find?] at found
      split at found
      · next here =>
          obtain rfl := Option.some.inj found
          exact here ▸ List.mem_cons_self
      · exact List.mem_cons_of_mem _ (ih found)

theorem entryAt?_remove_self {files : FileSystem} {location : Location} (below : location ≠ []) :
    (files.remove location).entryAt? location = none := by
  have noRoot : location.isEmpty = false := List.isEmpty_eq_false_iff.mpr below
  simp only [entryAt?, noRoot, Bool.false_eq_true, if_false]
  cases found : find? location (files.remove location).entries with
  | none => rfl
  | some entry =>
      have member := mem_of_find? found
      simp [remove] at member

/-- One of so many locations is free that there are not as many entries. -/
theorem exists_free (files : FileSystem) {candidate : Nat → Location}
    (distinct : Function.Injective candidate) (below : ∀ count, candidate count ≠ []) :
    ∃ count ∈ List.range (files.entries.length + 1),
      (files.entryAt? (candidate count)).isNone = true := by
  by_contra none
  have covered : (List.range (files.entries.length + 1)).map candidate ⊆
      files.entries.map Prod.fst := by
    intro location member
    obtain ⟨count, counted, rfl⟩ := List.mem_map.mp member
    have noRoot : (candidate count).isEmpty = false := List.isEmpty_eq_false_iff.mpr (below count)
    cases found : files.entryAt? (candidate count) with
    | none => exact absurd ⟨count, counted, by rw [found]; rfl⟩ none
    | some entry =>
        simp only [entryAt?, noRoot, Bool.false_eq_true, if_false] at found
        exact List.mem_map.mpr ⟨_, mem_of_find? found, rfl⟩
  have few := (List.subperm_of_subset (List.nodup_range.map distinct) covered).length_le
  rw [List.length_map, List.length_map, List.length_range] at few
  exact Nat.not_succ_le_self _ few

theorem ne_nil_of_free {files : FileSystem} {location : Location}
    (free : files.entryAt? location = none) : location ≠ [] := by
  rintro rfl
  cases free

/-! ### Paths -/

section Following

variable {files files' : FileSystem} {path : Path} {location location' : Location}

theorem step_eq_ok_iff {part : Text} :
    files.step location part = .ok location' ↔
      files.entryAt? location = some .directory ∧
        ¬ nameLimit < (Encoding.Utf8.systemBytes part).length ∧
        Path.descend location part = location' := by
  rw [step]
  split
  · next absent => simp [absent]
  · next here => simp [here]
  · next here =>
      split
      · next long => simp [long]
      · next short => simp [here, short]

theorem foldlM_step_cons {part : Text} {parts : List Text} {start : Location} :
    (part :: parts).foldlM files.step start = .ok location ↔
      ∃ next, files.step start part = .ok next ∧ parts.foldlM files.step next = .ok location := by
  rw [List.foldlM_cons]
  cases files.step start part <;> simp [bind, Except.bind]

theorem foldlM_step_concat {last : Text} {parts : List Text} {start : Location} :
    (parts ++ [last]).foldlM files.step start = .ok location ↔
      ∃ next, parts.foldlM files.step start = .ok next ∧ files.step next last = .ok location := by
  rw [List.foldlM_append]
  simp only [List.foldlM_cons, List.foldlM_nil, bind_pure]
  cases parts.foldlM files.step start <;> simp [bind, Except.bind]

theorem lookUp_eq_ok_iff {entry : Entry} :
    files.lookUp path = .ok entry ↔
      ∃ location, files.locate path = .ok location ∧ files.entryAt? location = some entry := by
  rw [lookUp]
  cases files.locate path with
  | error problem => simp
  | ok location =>
      dsimp only
      cases here : files.entryAt? location <;> simp [here]

/-- Everything that is a directory in some files is one in others. -/
def KeepsDirectories (files files' : FileSystem) : Prop :=
  ∀ location, files.entryAt? location = some .directory →
    files'.entryAt? location = some .directory

section Keeping

variable (keeps : KeepsDirectories files files')

include keeps

theorem KeepsDirectories.step_eq {part : Text}
    (follows : files.step location part = .ok location') :
    files'.step location part = .ok location' := by
  obtain ⟨isDirectory, short, leads⟩ := step_eq_ok_iff.mp follows
  exact step_eq_ok_iff.mpr ⟨keeps location isDirectory, short, leads⟩

theorem KeepsDirectories.foldlM_step_eq {parts : List Text} {start : Location}
    (follows : parts.foldlM files.step start = .ok location) :
    parts.foldlM files'.step start = .ok location := by
  induction parts generalizing start with
  | nil => exact follows
  | cons part parts ih =>
      obtain ⟨next, first, rest⟩ := foldlM_step_cons.mp follows
      exact foldlM_step_cons.mpr ⟨next, keeps.step_eq first, ih rest⟩

theorem KeepsDirectories.locate_eq (sameCurrent : files'.current = files.current)
    (leads : files.locate path = .ok location) : files'.locate path = .ok location := by
  rw [locate] at leads ⊢
  split at leads
  · cases leads
  · next short =>
      rw [if_neg short, sameCurrent]
      exact keeps.foldlM_step_eq leads

end Keeping

/-! ### Paths that led there before -/

theorem locate_eq_of_parent (keeps : KeepsDirectories files files')
    (sameCurrent : files'.current = files.current) (inDirectory : files.isDirectory path.parent)
    (leads : files'.locate path = .ok location) : files.locate path = .ok location := by
  rw [isDirectory, Bool.and_eq_true, decide_eq_true_eq] at inDirectory
  obtain ⟨directory, leadsAbove, here⟩ : ∃ directory,
      files.locate path.parent = .ok directory ∧ files.entryAt? directory = some .directory := by
    refine lookUp_eq_ok_iff.mp ?_
    cases looked : files.lookUp path.parent <;> simp_all [Except.toOption]
  rw [locate] at leads leadsAbove ⊢
  split at leads
  · cases leads
  · next short =>
      split at leadsAbove
      · cases leadsAbove
      · rw [if_neg short]
        rw [sameCurrent] at leads
        rcases List.eq_nil_or_concat path.parts with none | ⟨above, last, parts⟩
        · rw [none] at leads ⊢
          exact leads
        · have dropped : path.parent.parts = above := by
            rw [Path.parent, parts, List.concat_eq_append, List.dropLast_concat]
          rw [dropped] at leadsAbove
          rw [parts, List.concat_eq_append] at leads ⊢
          obtain ⟨directory', leadsAbove', ends⟩ := foldlM_step_concat.mp leads
          obtain rfl : directory = directory' :=
            Except.ok.inj ((keeps.foldlM_step_eq leadsAbove).symm.trans leadsAbove')
          obtain ⟨-, short, same⟩ := step_eq_ok_iff.mp ends
          exact foldlM_step_concat.mpr ⟨_, leadsAbove, step_eq_ok_iff.mpr ⟨here, short, same⟩⟩

/-- Everything that is there is in a directory. -/
def IsTree (files : FileSystem) : Prop :=
  ∀ location name, files.entryAt? (location ++ [name]) ≠ none →
    files.entryAt? location = some .directory

theorem IsTree.directory_of_below (tree : files.IsTree) {name : Text} {names : List Text}
    (there : files.entryAt? (location ++ name :: names) ≠ none) :
    files.entryAt? location = some .directory := by
  induction names using List.reverseRecOn with
  | nil => exact tree location name there
  | append_singleton names last ih =>
      have above : files.entryAt? (location ++ name :: names) = some .directory :=
        tree _ last (by simpa using there)
      exact ih (by rw [above]; nofun)

theorem eq_append_of_foldlM_step {parts : List Text} {start : Location}
    (noUpward : Path.upward ∉ parts) (leads : parts.foldlM files.step start = .ok location) :
    location = start ++ parts := by
  induction parts generalizing start with
  | nil =>
      cases leads
      exact (List.append_nil location).symm
  | cons part parts ih =>
      rw [List.mem_cons, not_or] at noUpward
      obtain ⟨next, first, rest⟩ := foldlM_step_cons.mp leads
      obtain ⟨-, -, rfl⟩ := step_eq_ok_iff.mp first
      rw [ih noUpward.2 rest, Path.descend, if_neg (Ne.symm noUpward.1), List.append_assoc]
      rfl

/-- Names lead to what is there in a tree if they lead there in other files. -/
theorem IsTree.foldlM_step_eq (tree : files.IsTree) {parts : List Text} {start : Location}
    (noUpward : Path.upward ∉ parts) (there : files.entryAt? location ≠ none)
    (leads : parts.foldlM files'.step start = .ok location) :
    parts.foldlM files.step start = .ok location := by
  induction parts generalizing start with
  | nil => exact leads
  | cons part parts ih =>
      have names := eq_append_of_foldlM_step noUpward leads
      rw [List.mem_cons, not_or] at noUpward
      obtain ⟨next, first, rest⟩ := foldlM_step_cons.mp leads
      obtain ⟨-, short, same⟩ := step_eq_ok_iff.mp first
      have here := tree.directory_of_below (names ▸ there)
      exact foldlM_step_cons.mpr
        ⟨next, step_eq_ok_iff.mpr ⟨here, short, same⟩, ih noUpward.2 rest⟩

/-- A path without the parent's name led to what is there before the directories on the way were
created. -/
theorem IsTree.locate_eq (tree : files.IsTree) (sameCurrent : files'.current = files.current)
    (noUpward : Path.upward ∉ path.parts) (there : files.entryAt? location ≠ none)
    (leads : files'.locate path = .ok location) : files.locate path = .ok location := by
  rw [locate] at leads ⊢
  split at leads
  · cases leads
  · next short =>
      rw [if_neg short]
      rw [sameCurrent] at leads
      exact tree.foldlM_step_eq noUpward there leads

end Following

end LicenseSeal.FileSystem
