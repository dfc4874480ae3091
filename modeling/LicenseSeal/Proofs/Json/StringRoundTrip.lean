import LicenseSeal.Json.Reader
import LicenseSeal.Json.Writer
import Mathlib.Tactic.SplitIfs

/-!
# JSON strings read back

What is written for a text is read back as that text, whatever follows the closing quote.  Hence a
written string ends where its text ends, and an object of written strings determines its members.
-/

namespace LicenseSeal.Json

theorem hexValue?_hexDigit {value : Nat} (small : value < 16) :
    Text.hexValue? (Text.hexDigit value) = some value := by
  have all : ∀ value : Fin 16, Text.hexValue? (Text.hexDigit value) = some value.val := by decide
  exact all ⟨value, small⟩

private theorem fourHex?_hexDigits {code : Nat} (small : code < 0x10000) (rest : Text) :
    fourHex? (Text.hexDigits 4 code ++ rest) = some (code, rest) := by
  have digit (number : Nat) : Text.hexValue? (Text.hexDigit (number % 16)) = some (number % 16) :=
    hexValue?_hexDigit (Nat.mod_lt _ (by decide))
  simp only [Text.hexDigits, List.nil_append, List.cons_append, fourHex?, digit,
    Option.bind_eq_bind, Option.bind_some, Option.some.injEq, Prod.mk.injEq, and_true]
  omega

private theorem escape?_code {c : CodePoint} (control : c.toNat < 0x20) (rest : Text) :
    escape? ((('u' : CodePoint) :: Text.hexDigits 4 c.toNat) ++ rest) = some (c, rest) := by
  have code : fourHex? (Text.hexDigits 4 c.toNat ++ rest) = some (c.toNat, rest) :=
    fourHex?_hexDigits (by omega) rest
  have notHigh : ¬ 0xD800 ≤ c.toNat := by omega
  rw [List.cons_append]
  simp [escape?, codeEscape?, code, notHigh, CodePoint.ofNat_toNat]

/-- A character stands for itself, or it is read back from what follows a backslash. -/
private theorem escape_cases (c : CodePoint) :
    (escape c = [c] ∧ c ≠ '"' ∧ c ≠ '\\' ∧ 0x20 ≤ c.toNat) ∨
      ∃ escaped, escape c = ('\\' : CodePoint) :: escaped ∧
        ∀ rest, escape? (escaped ++ rest) = some (c, rest) := by
  have named {code : Nat} (same : c.toNat = code) : CodePoint.ofNat code = c := by
    rw [← same, CodePoint.ofNat_toNat]
  unfold escape
  split_ifs with quote backslash feed ret tab backspace form control
  · exact .inr ⟨['"'], rfl, fun rest => by rw [quote]; rfl⟩
  · exact .inr ⟨['\\'], rfl, fun rest => by rw [backslash]; rfl⟩
  · exact .inr ⟨['n'], rfl, fun rest => by rw [feed]; rfl⟩
  · exact .inr ⟨['r'], rfl, fun rest => by rw [ret]; rfl⟩
  · exact .inr ⟨['t'], rfl, fun rest => by rw [tab]; rfl⟩
  · exact .inr ⟨['b'], rfl, fun rest => by rw [← named backspace]; rfl⟩
  · exact .inr ⟨['f'], rfl, fun rest => by rw [← named form]; rfl⟩
  · exact .inr ⟨_, rfl, escape?_code control⟩
  · exact .inl ⟨rfl, quote, backslash, Nat.not_lt.mp control⟩

theorem readString_escape {fuel : Nat} {text : Text} (enough : text.length < fuel) (rest : Text) :
    readString fuel (text.flatMap escape ++ ('"' : CodePoint) :: rest) = some (text, rest) := by
  induction text generalizing fuel with
  | nil =>
      obtain ⟨fuel, rfl⟩ : ∃ count, fuel = count + 1 := ⟨fuel - 1, by
        simp only [List.length_nil] at enough
        omega⟩
      simp [readString]
  | cons c text ih =>
      rw [List.length_cons] at enough
      obtain ⟨fuel, rfl⟩ : ∃ count, fuel = count + 1 := ⟨fuel - 1, by omega⟩
      have behind : readString fuel (text.flatMap escape ++ ('"' : CodePoint) :: rest) =
          some (text, rest) := ih (by omega)
      rw [List.flatMap_cons, List.append_assoc]
      rcases escape_cases c with ⟨plain, notQuote, notBackslash, printable⟩ | ⟨escaped, same, read⟩
      · have notControl : ¬ c.toNat < 0x20 := by omega
        simp [plain, readString, notQuote, notBackslash, notControl, behind]
      · have notQuote : '\\' ≠ '"' := by decide
        simp [same, readString, notQuote, read, behind]

/-- A written string ends where its text ends. -/
theorem string_append_inj {first second rest rest' : Text}
    (same : string first ++ rest = string second ++ rest') : first = second ∧ rest = rest' := by
  have content : first.flatMap escape ++ ('"' : CodePoint) :: rest =
      second.flatMap escape ++ ('"' : CodePoint) :: rest' := by
    simpa [string] using same
  have read := congrArg (readString (first.length + second.length + 1)) content
  rw [readString_escape (by omega), readString_escape (by omega)] at read
  simpa using read

private theorem length_le_length_flatMap_escape (text : Text) :
    text.length ≤ (text.flatMap escape).length := by
  induction text with
  | nil => exact Nat.le_refl _
  | cons c text ih =>
      have nonempty : 1 ≤ (escape c).length := by
        rcases escape_cases c with ⟨plain, -⟩ | ⟨escaped, same, -⟩
        · simp [plain]
        · simp [same]
      rw [List.flatMap_cons, List.length_cons, List.length_append]
      omega

theorem length_add_two_le_length_string (text : Text) : text.length + 2 ≤ (string text).length := by
  have := length_le_length_flatMap_escape text
  simp only [string, List.length_append, List.length_cons, List.length_nil]
  omega

private theorem join_cons (separator first : Text) (rest : List Text) :
    Text.join separator (first :: rest) = first ++ rest.flatMap (separator ++ ·) := by
  induction rest generalizing first with
  | nil => simp [Text.join]
  | cons second rest ih =>
      rw [Text.join, ih, List.flatMap_cons, List.append_assoc, List.append_assoc]

section Arrays

variable {α κ : Type} {write : α → Text} {key : α → κ}

/-- A writer of items whose text ends where the item ends, so that it determines the item's key, and
never begins like the end of an array. -/
structure Delimited (write : α → Text) (key : α → κ) : Prop where
  ends : ∀ {first second : α} {rest rest' : Text}, write first ++ rest = write second ++ rest' →
    key first = key second ∧ rest = rest'
  opens : ∀ (item : α) (rest rest' : Text), write item ++ rest ≠ (']' : CodePoint) :: rest'

private theorem following_items_inj (delimited : Delimited write key) {first second : List α}
    {rest rest' : Text}
    (same : first.flatMap (fun item => (',' : CodePoint) :: write item) ++
      (']' : CodePoint) :: rest =
        second.flatMap (fun item => (',' : CodePoint) :: write item) ++
          (']' : CodePoint) :: rest') :
    first.map key = second.map key ∧ rest = rest' := by
  induction first generalizing second with
  | nil =>
      cases second with
      | nil => exact ⟨rfl, (List.cons.inj same).2⟩
      | cons item second => simp at same
  | cons item first ih =>
      cases second with
      | nil => simp at same
      | cons item' second =>
          simp only [List.flatMap_cons, List.cons_append, List.append_assoc, List.cons.injEq,
            true_and] at same
          obtain ⟨sameKey, behind⟩ := delimited.ends same
          obtain ⟨sameKeys, sameRest⟩ := ih behind
          exact ⟨by rw [List.map_cons, List.map_cons, sameKey, sameKeys], sameRest⟩

/-- A written array ends where its items end and determines their keys. -/
theorem array_append_inj (delimited : Delimited write key) {first second : List α}
    {rest rest' : Text}
    (same : array (first.map write) ++ rest = array (second.map write) ++ rest') :
    first.map key = second.map key ∧ rest = rest' := by
  have written (item : α) (items : List α) (rest : Text) :
      array ((item :: items).map write) ++ rest =
        ('[' : CodePoint) :: (write item ++
          (items.flatMap (fun item => (',' : CodePoint) :: write item) ++
            (']' : CodePoint) :: rest)) := by
    simp only [array, List.map_cons, join_cons, List.flatMap_map, List.cons_append,
      List.append_assoc, List.nil_append]
  have none (rest : Text) :
      array (([] : List α).map write) ++ rest =
        ('[' : CodePoint) :: (']' : CodePoint) :: rest := rfl
  cases first with
  | nil =>
      cases second with
      | nil =>
          rw [none, none] at same
          exact ⟨rfl, (List.cons.inj (List.cons.inj same).2).2⟩
      | cons item second =>
          rw [none, written] at same
          exact (delimited.opens _ _ _ (List.cons.inj same).2.symm).elim
  | cons item first =>
      cases second with
      | nil =>
          rw [none, written] at same
          exact (delimited.opens _ _ _ (List.cons.inj same).2).elim
      | cons item' second =>
          rw [written, written] at same
          obtain ⟨sameKey, behind⟩ := delimited.ends (List.cons.inj same).2
          obtain ⟨sameKeys, sameRest⟩ := following_items_inj delimited behind
          exact ⟨by rw [List.map_cons, List.map_cons, sameKey, sameKeys], sameRest⟩

end Arrays

/-- The object whose members are texts. -/
def textObject (entries : List (Text × Text)) : Text :=
  object (entries.map fun entry => (entry.1, string entry.2))

/-- What follows the first member of an object of texts. -/
private def following (entries : List (Text × Text)) : Text :=
  entries.flatMap (fun entry =>
    (',' : CodePoint) :: string entry.1 ++ (':' : CodePoint) :: string entry.2)
    ++ [('\x7d' : CodePoint)]

private theorem textObject_nil : textObject [] = "\x7b\x7d".text := rfl

private theorem textObject_cons (entry : Text × Text) (entries : List (Text × Text)) :
    textObject (entry :: entries) =
      ('\x7b' : CodePoint) :: (string entry.1 ++
        ((':' : CodePoint) :: string entry.2 ++ following entries)) := by
  simp only [textObject, object, following, List.map_cons, join_cons, List.map_map,
    List.flatMap_map, Function.comp_apply, List.cons_append, List.append_assoc, List.nil_append]

private theorem following_injective {first second : List (Text × Text)}
    (same : following first = following second) : first = second := by
  induction first generalizing second with
  | nil =>
      cases second with
      | nil => rfl
      | cons entry second => simp [following] at same
  | cons entry first ih =>
      cases second with
      | nil => simp [following] at same
      | cons entry' second =>
          have members :
              string entry.1 ++ ((':' : CodePoint) :: string entry.2 ++ following first) =
                string entry'.1 ++ ((':' : CodePoint) :: string entry'.2 ++ following second) := by
            simpa [following] using same
          obtain ⟨sameName, behind⟩ := string_append_inj members
          obtain ⟨sameValue, behind⟩ := string_append_inj (List.cons.inj behind).2
          rw [Prod.ext sameName sameValue, ih behind]

theorem textObject_injective {first second : List (Text × Text)}
    (same : textObject first = textObject second) : first = second := by
  have noQuote (text rest : Text) : string text ++ rest ≠ [('\x7d' : CodePoint)] := by
    simp [string]
  cases first with
  | nil =>
      cases second with
      | nil => rfl
      | cons entry second =>
          rw [textObject_nil, textObject_cons] at same
          exact (noQuote _ _ (List.cons.inj same).2.symm).elim
  | cons entry first =>
      cases second with
      | nil =>
          rw [textObject_nil, textObject_cons] at same
          exact (noQuote _ _ (List.cons.inj same).2).elim
      | cons entry' second =>
          rw [textObject_cons, textObject_cons] at same
          have members := (List.cons.inj same).2
          apply following_injective
          simpa [following] using members

theorem length_texts_lt_length_textObject (entries : List (Text × Text)) :
    (entries.flatMap Prod.snd).length + 2 ≤ (textObject entries).length := by
  have rest (entries : List (Text × Text)) :
      (entries.flatMap Prod.snd).length + 1 ≤ (following entries).length := by
    induction entries with
    | nil => exact Nat.le_refl _
    | cons entry entries ih =>
        have := length_add_two_le_length_string entry.2
        simp only [following, List.flatMap_cons, List.length_append,
          List.length_cons] at ih ⊢
        omega
  cases entries with
  | nil => exact Nat.le_refl _
  | cons entry entries =>
      have := rest entries
      have := length_add_two_le_length_string entry.2
      simp only [textObject_cons, List.flatMap_cons, List.length_append,
        List.length_cons]
      omega

end LicenseSeal.Json
