import LicenseSeal.Template.Scan
import Mathlib.Data.List.Induction
import Mathlib.Data.List.Nodup

/-!
# Names of tokens

A scan keeps each name of its tokens once, at the place where the name appears first, and keeps
apart the names that come again.
-/

namespace LicenseSeal.Scan

variable {scan : Scan} {name : Text}

private theorem count_secondTimes {seen names : List Text} :
    (secondTimes seen names).count name =
      if seen.count name ≤ 1 ∧ 2 ≤ seen.count name + names.count name then 1 else 0 := by
  induction names generalizing seen with
  | nil =>
      have never : ¬ (seen.count name ≤ 1 ∧ 2 ≤ seen.count name + [].count name) := by
        rw [List.count_nil]
        omega
      rw [if_neg never]
      rfl
  | cons first names ih =>
      by_cases same : first = name
      · subst same
        by_cases second : seen.count first = 1
        · rw [secondTimes, if_pos second, List.count_cons_self, ih, List.count_cons_self,
            List.count_cons_self, if_neg (by omega), if_pos (by omega)]
        · rw [secondTimes, if_neg second, ih, List.count_cons_self, List.count_cons_self]
          exact if_congr (by omega) rfl rfl
      · have later : (secondTimes seen (first :: names)).count name =
            (secondTimes (first :: seen) names).count name := by
          rw [secondTimes]
          split
          · exact List.count_cons_of_ne same
          · rfl
        rw [later, ih, List.count_cons_of_ne same, List.count_cons_of_ne same]

theorem count_duplicates :
    scan.duplicates.count name = if 2 ≤ scan.names.count name then 1 else 0 := by
  rw [duplicates, count_secondTimes, List.count_nil]
  exact if_congr (by omega) rfl rfl

theorem mem_duplicates_iff : name ∈ scan.duplicates ↔ 2 ≤ scan.names.count name := by
  rw [← List.count_pos_iff, count_duplicates]
  split <;> omega

theorem nodup_duplicates (scan : Scan) : scan.duplicates.Nodup := by
  rw [List.nodup_iff_count_le_one]
  intro name
  rw [count_duplicates]
  split <;> omega

theorem duplicates_eq_nil_iff : scan.duplicates = [] ↔ scan.names.Nodup := by
  rw [List.eq_nil_iff_forall_not_mem, List.nodup_iff_count_le_one]
  refine forall_congr' fun name => ?_
  rw [mem_duplicates_iff]
  omega

private theorem eraseDups_append_singleton (names : List Text) (name : Text) :
    (names ++ [name]).eraseDups =
      if name ∈ names then names.eraseDups else names.eraseDups ++ [name] := by
  rw [List.eraseDups_append]
  split
  · next known => simp [List.removeAll, known]
  · next new => simp [List.removeAll, new, List.eraseDups_cons]

/-- Names that are kept once stand in the order of their first appearance. -/
private theorem eraseDups_pairwise (names : List Text) :
    names.eraseDups.Pairwise fun earlier later => names.idxOf earlier < names.idxOf later := by
  induction names using List.reverseRecOn with
  | nil => exact .nil
  | append_singleton names name ih =>
      have kept : names.eraseDups.Pairwise fun earlier later =>
          (names ++ [name]).idxOf earlier < (names ++ [name]).idxOf later := by
        refine ih.imp_of_mem fun earlierMember laterMember before => ?_
        rw [List.idxOf_append_of_mem (List.mem_eraseDups.mp earlierMember),
          List.idxOf_append_of_mem (List.mem_eraseDups.mp laterMember)]
        exact before
      rw [eraseDups_append_singleton]
      split
      · exact kept
      · next new =>
          refine List.pairwise_append.mpr ⟨kept, List.pairwise_singleton _ _, ?_⟩
          intro earlier member later last
          obtain rfl := List.mem_singleton.mp last
          have known := List.mem_eraseDups.mp member
          have inside := List.idxOf_lt_length_iff.mpr known
          rw [List.idxOf_append_of_mem known, List.idxOf_append_of_notMem new]
          omega

theorem mem_fields_iff : name ∈ scan.fields ↔ name ∈ scan.names :=
  List.mem_eraseDups

theorem fields_pairwise (scan : Scan) :
    scan.fields.Pairwise fun earlier later =>
      scan.names.idxOf earlier < scan.names.idxOf later :=
  eraseDups_pairwise scan.names

theorem nodup_fields (scan : Scan) : scan.fields.Nodup := by
  refine scan.fields_pairwise.imp fun before same => ?_
  rw [same] at before
  exact Nat.lt_irrefl _ before

private theorem eraseDups_eq_self {names : List Text} (distinct : names.Nodup) :
    names.eraseDups = names := by
  induction names with
  | nil => rfl
  | cons name names ih =>
      obtain ⟨first, distinct⟩ := List.nodup_cons.mp distinct
      have kept : names.filter (fun other => !other == name) = names := by
        rw [List.filter_eq_self]
        intro other member
        have different : other ≠ name := fun same => first (same ▸ member)
        simpa using different
      rw [List.eraseDups_cons, kept, ih distinct]

theorem fields_eq_names (distinct : scan.names.Nodup) : scan.fields = scan.names :=
  eraseDups_eq_self distinct

end LicenseSeal.Scan
