import LicenseSeal.Proofs.Encoding.EscapeRoundTrip
import LicenseSeal.Proofs.Encoding.Utf8RoundTrip
import LicenseSeal.Proofs.Signing.PayloadInjectivity

/-!
# Texts that can be signed

JSON writes a surrogate as it stands and writes none of its own.  So what is signed for fields has
bytes exactly if no value of them holds a surrogate.
-/

namespace LicenseSeal

namespace Json

variable {c : CodePoint} (surrogate : c.isSurrogate = true)

include surrogate

private theorem ne_char (letter : Char) : c ≠ .char letter := by
  rintro rfl
  cases surrogate

private theorem mem_cons_char_iff {letter : Char} {rest : Text} :
    c ∈ .char letter :: rest ↔ c ∈ rest := by
  rw [List.mem_cons, or_iff_right (ne_char surrogate letter)]

theorem mem_escape_iff {d : CodePoint} : c ∈ escape d ↔ c = d := by
  have code := CodePoint.isSurrogate_iff.mp surrogate
  have noDigit : c ∉ Text.hexDigits 4 d.toNat := fun member => by
    have digit := Encoding.Escaped.isSome_hexValue?_of_mem member
    have small := Encoding.Escaped.toNat_lt_of_hexValue? digit
    omega
  rw [escape]
  split_ifs with quote backslash feed ret tab backspace form control
  case neg => exact List.mem_singleton
  -- Every other character is written in ASCII, and is no surrogate itself.
  all_goals
    refine iff_of_false ?_ ?_
    · simp [mem_cons_char_iff surrogate, noDigit]
    · rintro rfl
      first
        | exact ne_char surrogate _ ‹_›
        | omega

theorem mem_string_iff {text : Text} : c ∈ string text ↔ c ∈ text := by
  simp only [string, mem_cons_char_iff surrogate, List.mem_append, List.mem_flatMap,
    mem_escape_iff surrogate, List.not_mem_nil, or_false, exists_eq_right']

theorem mem_join_iff {parts : List Text} :
    c ∈ Text.join [','] parts ↔ ∃ part ∈ parts, c ∈ part := by
  induction parts using Text.join.induct with
  | case1 => simp [Text.join]
  | case2 only => simp [Text.join]
  | case3 first second rest ih =>
      simp only [Text.join, List.mem_append, mem_cons_char_iff surrogate, List.not_mem_nil,
        or_false, ih, List.mem_cons, exists_eq_or_imp]

theorem mem_textObject_iff {entries : List (Text × Text)} :
    c ∈ textObject entries ↔ ∃ entry ∈ entries, c ∈ entry.1 ∨ c ∈ entry.2 := by
  simp only [textObject, object, mem_cons_char_iff surrogate, List.mem_append,
    mem_join_iff surrogate, List.not_mem_nil, or_false, List.mem_map,
    exists_exists_and_eq_and, mem_string_iff surrogate]

end Json

/-- No value of some fields holds a surrogate. -/
def Fields.Encodable (fields : Fields Text) : Prop :=
  ∀ entry ∈ fields.entries, ∀ c ∈ entry.2, c.isSurrogate = false

namespace Signed

/-- Fields with proper names have a payload if no value, the serial aside, holds a surrogate. -/
theorem exists_bytes_iff {names : FieldNames} {fields : Fields Text}
    (named : ∀ name ∈ fields.names, ∀ c ∈ name, c.isSurrogate = false) :
    (∃ payload, (ofFields names fields).bytes = .ok payload) ↔
      (fields.erase names.serial).Encodable := by
  have plain : (∃ payload, (ofFields names fields).bytes = .ok payload) ↔
      ∀ c ∈ (ofFields names fields).text, c.isSurrogate = false := by
    simp only [bytes, Encoding.Utf8.encode_eq_ok_iff, exists_and_left, exists_eq', and_true]
  rw [plain, Fields.Encodable]
  rcases ofFields_cases names fields with ⟨value, alone, signed⟩ | ⟨-, signed⟩
  · rw [signed, alone]
    simp [text]
  · rw [signed, text_structured]
    constructor
    · intro plain entry member c inside
      rw [Bool.eq_false_iff]
      intro surrogate
      have written := (Json.mem_textObject_iff surrogate).mpr ⟨entry, member, .inr inside⟩
      rw [plain c written] at surrogate
      cases surrogate
    · intro encodable c written
      rw [Bool.eq_false_iff]
      intro surrogate
      obtain ⟨entry, member, inside | inside⟩ := (Json.mem_textObject_iff surrogate).mp written
      · rw [Fields.entries_erase, List.mem_filter] at member
        rw [named _ (Fields.mem_names_of_mem_entries member.1) c inside] at surrogate
        cases surrogate
      · rw [encodable entry member c inside] at surrogate
        cases surrogate

end Signed

end LicenseSeal
