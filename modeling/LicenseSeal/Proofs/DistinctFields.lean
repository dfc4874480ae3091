import LicenseSeal.Fields
import Mathlib.Data.List.Basic

/-!
# Fields with distinct names

Entries whose names are distinct are the entries of the fields that they build.  What a name reads,
and what the operations on fields do to the entries, follows from that.
-/

namespace LicenseSeal.Fields

variable {ν μ : Type}

theorem eq_of_entries_eq {first second : Fields ν} (same : first.entries = second.entries) :
    first = second := by
  cases first
  cases second
  simp only at same
  subst same
  rfl

theorem mem_names_of_mem_entries {fields : Fields ν} {name : Text} {value : ν}
    (member : (name, value) ∈ fields.entries) : name ∈ fields.names :=
  List.mem_map.mpr ⟨(name, value), member, rfl⟩

theorem contains_iff {fields : Fields ν} {name : Text} :
    fields.contains name ↔ name ∈ fields.names :=
  List.contains_iff_mem

private theorem putEntry_of_not_mem {name : Text} {value : ν} {entries : List (Text × ν)}
    (absent : name ∉ entries.map Prod.fst) :
    putEntry name value entries = entries ++ [(name, value)] := by
  induction entries with
  | nil => rfl
  | cons entry rest ih =>
      obtain ⟨first, content⟩ := entry
      simp only [List.map_cons, List.mem_cons, not_or] at absent
      rw [putEntry, if_neg (Ne.symm absent.1), ih absent.2, List.cons_append]

private theorem entries_foldl_put {entries : List (Text × ν)} {fields : Fields ν}
    (distinct : (fields.entries ++ entries).map Prod.fst |>.Nodup) :
    (entries.foldl (fun fields entry => fields.put entry.1 entry.2) fields).entries =
      fields.entries ++ entries := by
  induction entries generalizing fields with
  | nil => simp
  | cons entry rest ih =>
      have absent : entry.1 ∉ fields.entries.map Prod.fst := by
        intro member
        rw [List.map_append, List.map_cons, List.nodup_append] at distinct
        exact distinct.2.2 _ member _ List.mem_cons_self rfl
      have put : (fields.put entry.1 entry.2).entries = fields.entries ++ [entry] :=
        putEntry_of_not_mem absent
      rw [List.foldl_cons, ih, put, List.append_assoc, List.singleton_append]
      rw [put, List.append_assoc, List.singleton_append]
      exact distinct

theorem entries_ofList {entries : List (Text × ν)} (distinct : (entries.map Prod.fst).Nodup) :
    (ofList entries).entries = entries :=
  entries_foldl_put distinct

private theorem lookup_eq_none_iff {name : Text} {entries : List (Text × ν)} :
    lookup name entries = none ↔ name ∉ entries.map Prod.fst := by
  induction entries with
  | nil => simp [lookup]
  | cons entry rest ih =>
      obtain ⟨first, content⟩ := entry
      by_cases same : first = name
      · simp [lookup, same]
      · simp [lookup, same, ih, Ne.symm same]

private theorem mem_of_lookup_eq_some {name : Text} {value : ν} {entries : List (Text × ν)}
    (found : lookup name entries = some value) : (name, value) ∈ entries := by
  induction entries with
  | nil => cases found
  | cons entry rest ih =>
      obtain ⟨first, content⟩ := entry
      rw [lookup] at found
      split at found
      · next same =>
          subst same
          cases found
          exact List.mem_cons_self
      · exact List.mem_cons_of_mem _ (ih found)

private theorem lookup_eq_some_of_mem {name : Text} {value : ν} {entries : List (Text × ν)}
    (distinct : (entries.map Prod.fst).Nodup) (member : (name, value) ∈ entries) :
    lookup name entries = some value := by
  induction entries with
  | nil => cases member
  | cons entry rest ih =>
      rw [List.map_cons, List.nodup_cons] at distinct
      rcases List.mem_cons.mp member with rfl | later
      · simp [lookup]
      · have other : entry.1 ≠ name := by
          intro same
          exact distinct.1 (same ▸ List.mem_map.mpr ⟨_, later, rfl⟩)
        rw [lookup, if_neg other]
        exact ih distinct.2 later

theorem get?_eq_some_iff {fields : Fields ν} {name : Text} {value : ν} :
    fields.get? name = some value ↔ (name, value) ∈ fields.entries :=
  ⟨mem_of_lookup_eq_some, lookup_eq_some_of_mem fields.distinct⟩

theorem get?_eq_none_iff {fields : Fields ν} {name : Text} :
    fields.get? name = none ↔ name ∉ fields.names :=
  lookup_eq_none_iff

theorem exists_get?_of_mem_names {fields : Fields ν} {name : Text} (member : name ∈ fields.names) :
    ∃ value, fields.get? name = some value := by
  cases found : fields.get? name with
  | none => exact (get?_eq_none_iff.mp found member).elim
  | some value => exact ⟨value, rfl⟩

theorem entries_eq_filterMap (fields : Fields ν) :
    fields.entries =
      fields.names.filterMap fun name => (fields.get? name).map fun value => (name, value) := by
  have same : ∀ entry ∈ fields.entries,
      (fields.get? entry.1).map (fun value => (entry.1, value)) = some entry := by
    intro entry member
    rw [get?_eq_some_iff.mpr member, Option.map_some]
  rw [names, List.filterMap_map]
  exact ((List.filterMap_congr same).trans List.filterMap_some).symm

/-- Fields with the same names are the same if every name reads the same. -/
theorem eq_of_get?_eq {first second : Fields ν} (sameNames : first.names = second.names)
    (same : ∀ name, first.get? name = second.get? name) : first = second := by
  apply eq_of_entries_eq
  rw [entries_eq_filterMap, entries_eq_filterMap second, sameNames]
  simp only [same]

/-- Of some names, those that have a field remain when the fields are looked up. -/
theorem map_fst_filterMap_get? (fields : Fields ν) (names : List Text) :
    (names.filterMap fun name => (fields.get? name).map fun value => (name, value)).map Prod.fst =
      names.filter fields.contains := by
  induction names with
  | nil => rfl
  | cons name names ih =>
      cases found : fields.get? name with
      | none =>
          have absent : ¬ fields.contains name = true :=
            fun present => get?_eq_none_iff.mp found (contains_iff.mp present)
          rw [List.filterMap_cons_none (by rw [found, Option.map_none]),
            List.filter_cons_of_neg absent, ih]
      | some value =>
          have present : fields.contains name = true :=
            contains_iff.mpr (mem_names_of_mem_entries (get?_eq_some_iff.mp found))
          rw [List.filterMap_cons_some (by rw [found, Option.map_some]),
            List.filter_cons_of_pos present, List.map_cons, ih]

theorem names_map (image : ν → μ) (fields : Fields ν) :
    (fields.map image).names = fields.names := by
  simp only [names, map, List.map_map, Function.comp_def]

theorem get?_map (image : ν → μ) (fields : Fields ν) (name : Text) :
    (fields.map image).get? name = (fields.get? name).map image := by
  cases found : fields.get? name with
  | none =>
      rw [Option.map_none, get?_eq_none_iff, names_map]
      exact get?_eq_none_iff.mp found
  | some value =>
      rw [Option.map_some, get?_eq_some_iff]
      exact List.mem_map.mpr ⟨(name, value), get?_eq_some_iff.mp found, rfl⟩

theorem entries_filterNames (fields : Fields ν) (keeps : Text → Bool) :
    (fields.filterNames keeps).entries = fields.entries.filter fun entry => keeps entry.1 :=
  rfl

theorem names_filterNames (fields : Fields ν) (keeps : Text → Bool) :
    (fields.filterNames keeps).names = fields.names.filter keeps := by
  simp only [names, entries_filterNames, List.filter_map, Function.comp_def]

theorem get?_filterNames {keeps : Text → Bool} {name : Text} (kept : keeps name = true)
    (fields : Fields ν) : (fields.filterNames keeps).get? name = fields.get? name := by
  cases found : fields.get? name with
  | none =>
      rw [get?_eq_none_iff, names_filterNames]
      intro member
      exact get?_eq_none_iff.mp found (List.mem_filter.mp member).1
  | some value =>
      rw [get?_eq_some_iff, entries_filterNames, List.mem_filter]
      exact ⟨get?_eq_some_iff.mp found, kept⟩

theorem entries_erase (fields : Fields ν) (name : Text) :
    (fields.erase name).entries = fields.entries.filter fun entry => entry.1 ≠ name :=
  rfl

theorem names_erase (fields : Fields ν) (name : Text) :
    (fields.erase name).names = fields.names.filter (· ≠ name) :=
  names_filterNames fields _

theorem not_mem_names_erase (fields : Fields ν) (name : Text) :
    name ∉ (fields.erase name).names := by
  simp [names_erase]

theorem erase_eq_self {fields : Fields ν} {name : Text} (absent : name ∉ fields.names) :
    fields.erase name = fields := by
  apply eq_of_entries_eq
  rw [entries_erase, List.filter_eq_self]
  intro entry member
  have other : entry.1 ≠ name := fun same =>
    absent (same ▸ List.mem_map.mpr ⟨entry, member, rfl⟩)
  exact decide_eq_true other

theorem erase_erase (fields : Fields ν) (name : Text) :
    (fields.erase name).erase name = fields.erase name :=
  erase_eq_self (not_mem_names_erase fields name)

theorem get?_erase (fields : Fields ν) (name other : Text) :
    (fields.erase name).get? other = if other = name then none else fields.get? other := by
  split
  · next same =>
      rw [same]
      exact get?_eq_none_iff.mpr (not_mem_names_erase fields name)
  · next different => exact get?_filterNames (decide_eq_true different) fields

/-- One field and the others determine the fields, once their names are known. -/
theorem eq_of_erase_eq {first second : Fields ν} {name : Text}
    (sameNames : first.names = second.names) (sameValue : first.get? name = second.get? name)
    (sameOthers : first.erase name = second.erase name) : first = second := by
  refine eq_of_get?_eq sameNames fun other => ?_
  by_cases same : other = name
  · rw [same, sameValue]
  · have read := congrArg (fun fields => fields.get? other) sameOthers
    simpa only [get?_erase, if_neg same] using read

end LicenseSeal.Fields
