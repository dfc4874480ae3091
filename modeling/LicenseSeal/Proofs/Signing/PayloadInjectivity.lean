import LicenseSeal.Proofs.DistinctFields
import LicenseSeal.Proofs.Encoding.Utf8RoundTrip
import LicenseSeal.Proofs.Json.StringRoundTrip
import LicenseSeal.Signing.Payload

/-!
# What a payload determines

Fields with the same names are signed in the same mode, and then the signed bytes determine the
fields.  Fields that leave out some names can be signed in another mode; their bytes still differ as
long as the fuller ones are longer by more than the braces of an object.
-/

namespace LicenseSeal

/-- The number of characters in all values together. -/
def Fields.totalLength (fields : Fields Text) : Nat :=
  (fields.entries.flatMap Prod.snd).length

private theorem length_flatMap_erase {entries : List (Text × Text)} {name value : Text}
    (distinct : (entries.map Prod.fst).Nodup) (member : (name, value) ∈ entries) :
    ((entries.filter fun entry => entry.1 ≠ name).flatMap Prod.snd).length + value.length =
      (entries.flatMap Prod.snd).length := by
  induction entries with
  | nil => cases member
  | cons entry entries ih =>
      rw [List.map_cons, List.nodup_cons] at distinct
      rcases List.mem_cons.mp member with rfl | later
      · have others : entries.filter (fun entry => entry.1 ≠ name) = entries := by
          rw [List.filter_eq_self]
          intro entry member
          have different : entry.1 ≠ name := fun same =>
            distinct.1 (same ▸ List.mem_map.mpr ⟨entry, member, rfl⟩)
          exact decide_eq_true different
        rw [List.filter_cons_of_neg (by simp), others, List.flatMap_cons, List.length_append]
        exact Nat.add_comm _ _
      · have different : entry.1 ≠ name := fun same =>
          distinct.1 (same ▸ List.mem_map.mpr ⟨_, later, rfl⟩)
        have rest := ih distinct.2 later
        rw [List.filter_cons, if_pos (decide_eq_true different), List.flatMap_cons,
          List.flatMap_cons, List.length_append, List.length_append]
        omega

theorem Fields.totalLength_erase_add {fields : Fields Text} {name value : Text}
    (found : fields.get? name = some value) :
    (fields.erase name).totalLength + value.length = fields.totalLength :=
  length_flatMap_erase fields.distinct (Fields.get?_eq_some_iff.mp found)

namespace Signed

variable {names : FieldNames} {fields first second : Fields Text}

theorem text_eq_of_bytes_eq {signed signed' : Signed} {bytes : Bytes}
    (written : signed.bytes = .ok bytes) (written' : signed'.bytes = .ok bytes) :
    signed.text = signed'.text :=
  Encoding.Utf8.encode_injective written written'

theorem text_structured (entries : List (Text × Text)) :
    (structured entries).text = Json.textObject entries :=
  rfl

theorem ofFields_of_raw {value : Text}
    (alone : (fields.erase names.serial).entries = [(names.raw, value)]) :
    ofFields names fields = .raw value := by
  have isAlone : isRaw names.raw (fields.erase names.serial).names = true := by
    simp [isRaw, Fields.names, alone]
  have found : (fields.erase names.serial).get? names.raw = some value :=
    Fields.get?_eq_some_iff.mpr (by simp [alone])
  simp only [ofFields, isAlone, if_true, found, Option.getD_some]

theorem ofFields_of_not_raw (mixed : (fields.erase names.serial).names ≠ [names.raw]) :
    ofFields names fields = .structured (fields.erase names.serial).entries := by
  simp only [ofFields, isRaw, mixed, decide_false, if_false, Bool.false_eq_true]

theorem ofFields_erase (names : FieldNames) (fields : Fields Text) :
    ofFields names (fields.erase names.serial) = ofFields names fields := by
  rw [ofFields, ofFields, Fields.erase_erase]

/-- Fields are signed as one text or as an object of texts, and only the raw field alone is signed
as one text. -/
theorem ofFields_cases (names : FieldNames) (fields : Fields Text) :
    (∃ value, (fields.erase names.serial).entries = [(names.raw, value)] ∧
      ofFields names fields = .raw value) ∨
    ((fields.erase names.serial).names ≠ [names.raw] ∧
      ofFields names fields = .structured (fields.erase names.serial).entries) := by
  by_cases alone : (fields.erase names.serial).names = [names.raw]
  · left
    obtain ⟨⟨name, value⟩, single, rfl⟩ := List.map_eq_singleton_iff.mp alone
    exact ⟨value, single, ofFields_of_raw single⟩
  · exact .inr ⟨alone, ofFields_of_not_raw alone⟩

theorem erase_eq_of_names_eq
    (sameNames : (first.erase names.serial).names = (second.erase names.serial).names)
    (sameText : (ofFields names first).text = (ofFields names second).text) :
    first.erase names.serial = second.erase names.serial := by
  apply Fields.eq_of_entries_eq
  rcases ofFields_cases names first with ⟨value, alone, signed⟩ | ⟨mixed, signed⟩
  · have alone' : (second.erase names.serial).names = [names.raw] := by
      rw [← sameNames, Fields.names, alone]
      rfl
    rcases ofFields_cases names second with ⟨value', single', signed'⟩ | ⟨mixed', -⟩
    · rw [signed, signed'] at sameText
      rw [alone, single']
      exact congrArg (fun value => [(names.raw, value)]) sameText
    · exact (mixed' alone').elim
  · rcases ofFields_cases names second with ⟨value', single', -⟩ | ⟨-, signed'⟩
    · refine (mixed ?_).elim
      rw [sameNames, Fields.names, single']
      rfl
    · rw [signed, signed', text_structured, text_structured] at sameText
      exact Json.textObject_injective sameText

/-- Fields that leave out some names of others are signed by another text than these, provided that
the values of the others are longer by more than the braces of an object. -/
theorem erase_eq_of_text_eq
    (among : (first.erase names.serial).names.Sublist (second.erase names.serial).names)
    (longer : (first.erase names.serial).names ≠ (second.erase names.serial).names →
      (first.erase names.serial).totalLength + 2 < (second.erase names.serial).totalLength)
    (sameText : (ofFields names first).text = (ofFields names second).text) :
    first.erase names.serial = second.erase names.serial := by
  refine erase_eq_of_names_eq ?_ sameText
  refine Classical.byContradiction fun differ => ?_
  have longer := longer differ
  simp only [Fields.totalLength] at longer
  rcases ofFields_cases names first with ⟨value, single, signed⟩ | ⟨mixed, signed⟩
  · rcases ofFields_cases names second with ⟨value', single', -⟩ | ⟨-, signed'⟩
    · exact differ (by simp [Fields.names, single, single'])
    · -- One text of the first fields would have to hold all texts of the second ones.
      have bound := Json.length_texts_lt_length_textObject (second.erase names.serial).entries
      rw [signed, signed', text_structured] at sameText
      rw [← sameText] at bound
      simp only [single, List.flatMap_cons, List.flatMap_nil, List.append_nil, text]
        at longer bound
      omega
  · rcases ofFields_cases names second with ⟨value', single', signed'⟩ | ⟨-, signed'⟩
    · -- The first fields lack the only name of the second ones, so that nothing but braces is left.
      have alone' : (second.erase names.serial).names = [names.raw] := by
        simp [Fields.names, single']
      rw [alone'] at among
      have none : (first.erase names.serial).entries = [] := by
        rcases List.sublist_cons_iff.mp among with empty | ⟨rest, full, empty⟩
        · exact List.map_eq_nil_iff.mp (List.sublist_nil.mp empty)
        · rw [List.sublist_nil.mp empty] at full
          exact (mixed full).elim
      have braces : value'.length = 2 := by
        rw [signed, signed', text_structured, none] at sameText
        rw [show value' = Json.textObject [] from sameText.symm]
        rfl
      simp only [none, single', List.flatMap_cons, List.flatMap_nil, List.append_nil,
        List.length_nil, braces]
        at longer
      omega
    · rw [signed, signed', text_structured, text_structured] at sameText
      exact differ (congrArg (List.map Prod.fst) (Json.textObject_injective sameText))

end Signed

end LicenseSeal
