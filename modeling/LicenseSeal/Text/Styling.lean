import LicenseSeal.Text

/-!
# Styling sequences

A terminal changes its colours and its styles at an escape character, a bracket, parameters and a
letter.  `Text.withoutStyling` leaves a text that can be shown anywhere.
-/

namespace LicenseSeal.Text

/-- The character that begins a styling sequence. -/
def escapeCharacter : CodePoint := CodePoint.ofNat 0x1B

/-- A letter of ASCII. -/
def isLetter (c : CodePoint) : Bool :=
  ('a' ≤ c && c ≤ 'z') || ('A' ≤ c && c ≤ 'Z')

/-- A character of the parameters of a styling sequence. -/
def isStyleParameter (c : CodePoint) : Bool :=
  isDigit c || c = ';' || c = '?'

/-- What follows the parameters and the letter of a styling sequence. -/
def dropStyle? (text : Text) : Option Text :=
  match text.dropWhile isStyleParameter with
  | c :: rest => if isLetter c then some rest else none
  | [] => none

theorem length_dropStyle? {text rest : Text} (found : dropStyle? text = some rest) :
    rest.length < text.length := by
  have shorter : (text.dropWhile isStyleParameter).length ≤ text.length :=
    (List.dropWhile_sublist isStyleParameter).length_le
  unfold dropStyle? at found
  split at found
  · rename_i c others front
    split at found
    · cases found
      rw [front, List.length_cons] at shorter
      omega
    · cases found
  · cases found

/-- What follows the styling sequence that a character and the text behind it begin with. -/
def dropSequence? (c : CodePoint) (rest : Text) : Option Text :=
  if c = escapeCharacter then (dropLead? "[".text rest).bind dropStyle? else none

theorem length_dropSequence? {c : CodePoint} {rest behind : Text}
    (found : dropSequence? c rest = some behind) : behind.length < rest.length := by
  unfold dropSequence? at found
  split at found
  · obtain ⟨parameters, front, style⟩ := Option.bind_eq_some_iff.mp found
    have shorter := length_dropStyle? style
    rw [dropLead?_eq_some_iff] at front
    simp only [front, List.length_append]
    omega
  · cases found

/-- The text without its styling sequences. -/
def withoutStyling : Text → Text
  | [] => []
  | c :: rest =>
      match _found : dropSequence? c rest with
      | some behind => withoutStyling behind
      | none => c :: withoutStyling rest
termination_by text => text.length
decreasing_by
  · have shorter := length_dropSequence? _found
    simp only [List.length_cons]
    omega
  · simp only [List.length_cons]
    omega

theorem withoutStyling_of_some {c : CodePoint} {rest behind : Text}
    (found : dropSequence? c rest = some behind) :
    withoutStyling (c :: rest) = withoutStyling behind := by
  rw [withoutStyling]
  split
  · next behind' found' =>
      obtain rfl := Option.some.inj (found.symm.trans found')
      rfl
  · next unfound =>
      rw [found] at unfound
      cases unfound

theorem withoutStyling_of_none {c : CodePoint} {rest : Text}
    (unfound : dropSequence? c rest = none) :
    withoutStyling (c :: rest) = c :: withoutStyling rest := by
  rw [withoutStyling]
  split
  · next behind found =>
      rw [unfound] at found
      cases found
  · rfl

theorem withoutStyling_append {front : Text} (plain : escapeCharacter ∉ front) (back : Text) :
    (front ++ back).withoutStyling = front ++ back.withoutStyling := by
  induction front with
  | nil => rfl
  | cons c front ih =>
      have unstyled : dropSequence? c (front ++ back) = none := by
        rw [dropSequence?, if_neg]
        rintro rfl
        exact plain List.mem_cons_self
      rw [List.cons_append, withoutStyling_of_none unstyled,
        ih fun member => plain (List.mem_cons_of_mem c member), List.cons_append]

end LicenseSeal.Text
