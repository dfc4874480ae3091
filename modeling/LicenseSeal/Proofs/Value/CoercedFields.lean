import LicenseSeal.Proofs.DistinctFields
import LicenseSeal.Value.Coercion
import Mathlib.Data.List.Forall2

/-!
# Coerced fields

Fields are coerced value by value, and only if every value has a text.  What a name reads is then
the text of its value.
-/

namespace LicenseSeal

/-- The text of a value, if it has one. -/
def Value.text? (value : Value) : Option Text :=
  value.coerced.toOption

theorem Value.text?_eq_some_iff {value : Value} {text : Text} :
    value.text? = some text ↔ value.coerced = .ok text := by
  rw [text?]
  cases value.coerced <;> simp [Except.toOption]

@[simp] theorem Value.text?_text (content : Text) : (Value.text content).text? = some content :=
  rfl

/-- An entry and the same one with its value coerced. -/
def CoercesTo {κ : Type} (entry : κ × Value) (coerced : κ × Text) : Prop :=
  entry.1 = coerced.1 ∧ entry.2.coerced = .ok coerced.2

theorem coerceEntries_eq_ok_iff {κ : Type} {entries : List (κ × Value)}
    {texts : List (κ × Text)} :
    coerceEntries entries = .ok texts ↔ List.Forall₂ CoercesTo entries texts := by
  induction entries generalizing texts with
  | nil => cases texts <;> simp [coerceEntries]
  | cons entry entries ih =>
      obtain ⟨key, value⟩ := entry
      rw [coerceEntries]
      cases found : value.coerced with
      | error error => cases texts <;> simp [CoercesTo, found, bind, Except.bind]
      | ok text =>
          cases others : coerceEntries entries with
          | error error =>
              cases texts <;> simp [bind, Except.bind, ← ih, others]
          | ok rest =>
              rw [others] at ih
              cases texts <;>
                simp [CoercesTo, found, bind, Except.bind, pure, Except.pure, ← ih, Prod.ext_iff,
                  and_assoc]

theorem exists_coerceEntries_iff {κ : Type} {entries : List (κ × Value)} :
    (∃ texts, coerceEntries entries = .ok texts) ↔
      ∀ entry ∈ entries, ∃ text, entry.2.coerced = .ok text := by
  simp only [coerceEntries_eq_ok_iff]
  induction entries with
  | nil => simp
  | cons entry entries ih =>
      rw [List.forall_mem_cons, ← ih]
      constructor
      · rintro ⟨texts, coerced⟩
        cases coerced with
        | cons first others => exact ⟨⟨_, first.2⟩, _, others⟩
      · rintro ⟨⟨text, first⟩, texts, others⟩
        exact ⟨(entry.1, text) :: texts, .cons ⟨rfl, first⟩ others⟩

theorem exists_uncoercible_of_coerceEntries {κ : Type} {entries : List (κ × Value)}
    {error : Uncoercible} (fails : coerceEntries entries = .error error) :
    ∃ entry ∈ entries, entry.2.coerced = .error error := by
  induction entries with
  | nil => cases fails
  | cons first entries ih =>
      rw [coerceEntries] at fails
      cases found : first.2.coerced with
      | error error' =>
          rw [found] at fails
          obtain rfl := Except.error.inj fails
          exact ⟨first, List.mem_cons_self, found⟩
      | ok text =>
          cases others : coerceEntries entries with
          | error error' =>
              rw [found, others] at fails
              obtain rfl := Except.error.inj fails
              obtain ⟨entry, member, uncoercible⟩ := ih others
              exact ⟨entry, List.mem_cons_of_mem _ member, uncoercible⟩
          | ok texts =>
              rw [found, others] at fails
              cases fails

theorem map_fst_of_coerces {κ : Type} {entries : List (κ × Value)} {texts : List (κ × Text)}
    (coerced : List.Forall₂ CoercesTo entries texts) :
    texts.map Prod.fst = entries.map Prod.fst := by
  induction coerced with
  | nil => rfl
  | cons first _ ih => rw [List.map_cons, List.map_cons, ih, first.1]

namespace Fields

variable {fields : Fields Value} {texts : Fields Text}

theorem coerced_eq_ok_iff :
    fields.coerced = .ok texts ↔ List.Forall₂ CoercesTo fields.entries texts.entries := by
  rw [← coerceEntries_eq_ok_iff, coerced]
  cases same : coerceEntries fields.entries with
  | error error => simp [Except.map]
  | ok entries =>
      have distinct : (entries.map Prod.fst).Nodup := by
        rw [map_fst_of_coerces (coerceEntries_eq_ok_iff.mp same)]
        exact fields.distinct
      simp only [Except.map, Except.ok.injEq]
      constructor
      · rintro rfl
        exact (entries_ofList distinct).symm
      · rintro rfl
        exact eq_of_entries_eq (entries_ofList distinct)

theorem exists_uncoercible_of_coerced {error : Uncoercible}
    (fails : fields.coerced = .error error) :
    ∃ entry ∈ fields.entries, entry.2.coerced = .error error := by
  rw [coerced] at fails
  cases coerces : coerceEntries fields.entries with
  | error error' =>
      rw [coerces] at fails
      obtain rfl := Except.error.inj fails
      exact exists_uncoercible_of_coerceEntries coerces
  | ok texts =>
      rw [coerces] at fails
      cases fails

theorem exists_coerced_iff :
    (∃ texts, fields.coerced = .ok texts) ↔
      ∀ entry ∈ fields.entries, ∃ text, entry.2.coerced = .ok text := by
  rw [← exists_coerceEntries_iff, coerced]
  cases coerceEntries fields.entries <;> simp [Except.map]

theorem exists_coerced_iff_get? :
    (∃ texts, fields.coerced = .ok texts) ↔
      ∀ name value, fields.get? name = some value → ∃ text, value.coerced = .ok text := by
  simp only [exists_coerced_iff, get?_eq_some_iff, Prod.forall]

theorem names_of_coerced (coerced : fields.coerced = .ok texts) : texts.names = fields.names :=
  map_fst_of_coerces (coerced_eq_ok_iff.mp coerced)

theorem get?_of_coerced (coerced : fields.coerced = .ok texts) (name : Text) :
    texts.get? name = (fields.get? name).bind Value.text? := by
  have entries := coerced_eq_ok_iff.mp coerced
  rw [get?, get?]
  generalize fields.entries = values, texts.entries = written at entries
  induction entries with
  | nil => rfl
  | cons first _ ih =>
      obtain ⟨same, found⟩ := first
      rw [lookup, lookup, same]
      split
      · exact (Value.text?_eq_some_iff.mpr found).symm
      · exact ih

theorem coerced_erase (coerced : fields.coerced = .ok texts) (name : Text) :
    (fields.erase name).coerced = .ok (texts.erase name) := by
  rw [coerced_eq_ok_iff] at coerced ⊢
  rw [entries_erase, entries_erase]
  generalize fields.entries = values, texts.entries = written at coerced
  induction coerced with
  | nil => exact .nil
  | cons first _ ih =>
      rw [List.filter_cons, List.filter_cons, first.1]
      split
      · exact .cons first ih
      · exact ih

theorem coerced_map_text (texts : Fields Text) : (texts.map Value.text).coerced = .ok texts := by
  refine coerced_eq_ok_iff.mpr (List.forall₂_map_left_iff.mpr ?_)
  exact List.forall₂_same.mpr fun _ _ => ⟨rfl, rfl⟩

end Fields

end LicenseSeal
