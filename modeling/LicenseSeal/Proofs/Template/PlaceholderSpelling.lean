import LicenseSeal.Template.Placeholder
import Mathlib.Data.List.TakeWhile

/-!
# Reading what is spelled

`Placeholder.read?` finds a placeholder exactly where a spelling stands at the front of a text.  A
brace, a blank, an ampersand and a name character are never the same character, so that a text has
at most one way of beginning with a spelling.
-/

namespace LicenseSeal

private theorem toNat_of_isNameChar {c : CodePoint} (named : isNameChar c = true) :
    (0x30 ≤ c.toNat ∧ c.toNat ≤ 0x39) ∨ (0x41 ≤ c.toNat ∧ c.toNat ≤ 0x5A) ∨
      c.toNat = 0x5F ∨ (0x61 ≤ c.toNat ∧ c.toNat ≤ 0x7A) := by
  simp only [isNameChar, Bool.or_eq_true, Bool.and_eq_true, decide_eq_true_eq, beq_iff_eq,
    CodePoint.le_def] at named
  rcases named with ((lower | upper) | digit) | underscore
  · exact .inr (.inr (.inr lower))
  · exact .inr (.inl upper)
  · exact .inl digit
  · subst underscore
    exact .inr (.inr (.inl rfl))

theorem isBlank_eq_false_of_isNameChar {c : CodePoint} (named : isNameChar c = true) :
    Text.isBlank c = false := by
  have code := toNat_of_isNameChar named
  have notBlank : ¬ Text.isBlank c = true := by
    intro blank
    simp only [Text.isBlank, Bool.or_eq_true, Bool.and_eq_true, decide_eq_true_eq,
      beq_iff_eq] at blank
    omega
  simpa using notBlank

theorem isSurrogate_eq_false_of_isNameChar {c : CodePoint} (named : isNameChar c = true) :
    c.isSurrogate = false := by
  have code := toNat_of_isNameChar named
  rw [Bool.eq_false_iff, Ne, CodePoint.isSurrogate_iff]
  omega

theorem isSurrogate_eq_false_of_isBlank {c : CodePoint} (blank : Text.isBlank c = true) :
    c.isSurrogate = false := by
  rw [Bool.eq_false_iff, Ne, CodePoint.isSurrogate_iff]
  simp only [Text.isBlank, Bool.or_eq_true, Bool.and_eq_true, decide_eq_true_eq,
    beq_iff_eq] at blank
  omega

theorem Spelling.isSurrogate_of_mem {name raw : Text} {c : CodePoint} (spelled : Spelling name raw)
    (member : c ∈ raw) : c.isSurrogate = false := by
  have letter (mark : Char) : (CodePoint.char mark).isSurrogate = false := rfl
  have named (proper : IsName name) (inside : c ∈ name) : c.isSurrogate = false :=
    isSurrogate_eq_false_of_isNameChar (proper.2 c inside)
  cases spelled with
  | double before after proper =>
      simp only [Placeholder.opening, Placeholder.closing, List.mem_append, List.mem_cons] at member
      grind [isSurrogate_eq_false_of_isBlank]
  | ampersand first before after proper =>
      simp only [Placeholder.opening, Placeholder.closing, List.mem_append, List.mem_cons] at member
      grind [isSurrogate_eq_false_of_isBlank]
  | triple before after proper =>
      simp only [Placeholder.opening, Placeholder.closing, List.mem_append, List.mem_cons] at member
      grind [isSurrogate_eq_false_of_isBlank]

/-- What stands at the front of a text up to the first character outside a class is taken, and the
rest is left. -/
private theorem span_append {p : CodePoint → Bool} {front back : Text}
    (inside : ∀ c ∈ front, p c = true) (outside : ∀ c ∈ back.head?, p c = false) :
    (front ++ back).takeWhile p = front ∧ (front ++ back).dropWhile p = back := by
  rw [List.takeWhile_append_of_pos inside, List.dropWhile_append_of_pos inside]
  cases back with
  | nil => simp
  | cons c back =>
      have stops : ¬ p c = true := by
        simpa using outside c rfl
      rw [List.takeWhile_cons_of_neg stops, List.dropWhile_cons_of_neg stops]
      exact ⟨List.append_nil front, rfl⟩

private theorem head?_cons_outside {p : CodePoint → Bool} {c : CodePoint} {back : Text}
    (outside : p c = false) : ∀ d ∈ (c :: back).head?, p d = false := by
  intro d head
  obtain rfl : c = d := by simpa using head
  exact outside

namespace Placeholder

variable {name before after mark inner following rest : Text}

private theorem exists_nameChar_append (named : IsName name) (following : Text) :
    ∃ c others, name ++ following = c :: others ∧ isNameChar c = true := by
  obtain ⟨nonempty, chars⟩ := named
  cases name with
  | nil => exact (nonempty rfl).elim
  | cons first others =>
      exact ⟨first, others ++ following, rfl, chars first List.mem_cons_self⟩

private theorem isBlank_head_name (named : IsName name) (following : Text) :
    ∀ c ∈ (name ++ following).head?, Text.isBlank c = false := by
  obtain ⟨first, others, same, nameChar⟩ := exists_nameChar_append named following
  rw [same]
  exact head?_cons_outside (isBlank_eq_false_of_isNameChar nameChar)

private theorem body?_append (named : IsName name)
    (blankBefore : ∀ c ∈ before, Text.isBlank c = true)
    (blankAfter : ∀ c ∈ after, Text.isBlank c = true) (rest : Text) :
    body? (before ++ (name ++ (after ++ ('\x7d' : CodePoint) :: rest))) =
      some ⟨before, name, after, ('\x7d' : CodePoint) :: rest⟩ := by
  have first := span_append blankBefore
    (isBlank_head_name named (after ++ ('\x7d' : CodePoint) :: rest))
  have nameStops : ∀ c ∈ (after ++ ('\x7d' : CodePoint) :: rest).head?, isNameChar c = false := by
    cases after with
    | nil => exact head?_cons_outside (by decide)
    | cons blank others =>
        apply head?_cons_outside
        apply Bool.eq_false_iff.mpr
        intro nameChar
        have isBlank := blankAfter blank List.mem_cons_self
        rw [isBlank_eq_false_of_isNameChar nameChar] at isBlank
        cases isBlank
  have second := span_append named.2 nameStops
  have braceStops : ∀ c ∈ List.head? (('\x7d' : CodePoint) :: rest), Text.isBlank c = false :=
    head?_cons_outside (by decide)
  have third := span_append blankAfter braceStops
  have nonempty : ¬ name.isEmpty = true := by simpa using named.1
  simp only [body?, first, second, third, nonempty, if_false, Bool.false_eq_true]

private theorem ampersand_append_mark {first : Text}
    (blankFirst : ∀ c ∈ first, Text.isBlank c = true) (following : Text) :
    ampersand (first ++ ('&' : CodePoint) :: following) =
      (first ++ [('&' : CodePoint)], following) := by
  have markStops : ∀ c ∈ List.head? (('&' : CodePoint) :: following), Text.isBlank c = false :=
    head?_cons_outside (by decide)
  have found := span_append blankFirst markStops
  simp only [ampersand, found]

private theorem ampersand_of_name (named : IsName name)
    (blankBefore : ∀ c ∈ before, Text.isBlank c = true) (following : Text) :
    ampersand (before ++ (name ++ following)) = ([], before ++ (name ++ following)) := by
  have found := span_append blankBefore (isBlank_head_name named following)
  have noMark : ∀ rest, name ++ following ≠ ('&' : CodePoint) :: rest := by
    intro rest marked
    obtain ⟨first, others, same, nameChar⟩ := exists_nameChar_append named following
    rw [same] at marked
    rw [(List.cons.inj marked).1] at nameChar
    exact absurd nameChar (by decide)
  rw [ampersand, found.2]
  split
  · next rest same => exact (noMark rest same).elim
  · rfl

private theorem dropLead?_append (lead list : Text) :
    Text.dropLead? lead (lead ++ list) = some list :=
  Text.dropLead?_eq_some_iff.mpr rfl

private theorem double?_append (marked : ampersand inner = (mark, following))
    (body : body? following = some ⟨before, name, after, closing ++ rest⟩) :
    double? (opening ++ inner) =
      some ⟨name, opening ++ mark ++ before ++ name ++ after ++ closing, rest⟩ := by
  rw [double?, dropLead?_append]
  simp only [Option.bind_eq_bind, Option.bind_some, marked, body, dropLead?_append]

private theorem triple?_append
    (body : body? inner = some ⟨before, name, after, ('\x7d' : CodePoint) :: closing ++ rest⟩) :
    triple? (('\x7b' : CodePoint) :: opening ++ inner) =
      some ⟨name, ('\x7b' : CodePoint) :: opening ++ before ++ name ++ after ++
        ('\x7d' : CodePoint) :: closing, rest⟩ := by
  rw [triple?, dropLead?_append]
  simp only [Option.bind_eq_bind, Option.bind_some, body, dropLead?_append]

private theorem triple?_eq_none (noBrace : inner.head? ≠ some (.char '\x7b')) :
    triple? (opening ++ inner) = none := by
  have unopened : Text.dropLead? (('\x7b' : CodePoint) :: opening) (opening ++ inner) = none := by
    apply Option.eq_none_iff_forall_ne_some.mpr
    intro list dropped
    have whole := Text.dropLead?_eq_some_iff.mp dropped
    have behind : inner = ('\x7b' : CodePoint) :: list := by
      simpa [opening] using whole
    exact noBrace (by rw [behind]; rfl)
  rw [triple?, unopened]
  rfl

private theorem head?_ne_brace {first : Text}
    (blankFirst : ∀ c ∈ first, Text.isBlank c = true)
    (noBrace : following.head? ≠ some (.char '\x7b')) :
    (first ++ following).head? ≠ some (.char '\x7b') := by
  cases first with
  | nil => exact noBrace
  | cons c others =>
      intro same
      have isBrace : c = '\x7b' := by simpa using same
      have isBlank := blankFirst c List.mem_cons_self
      rw [isBrace] at isBlank
      exact absurd isBlank (by decide)

private theorem head?_name_ne_brace (named : IsName name) (following : Text) :
    (name ++ following).head? ≠ some (.char '\x7b') := by
  obtain ⟨first, others, same, nameChar⟩ := exists_nameChar_append named following
  rw [same]
  intro brace
  rw [List.head?_cons, Option.some.injEq] at brace
  rw [brace] at nameChar
  exact absurd nameChar (by decide)

theorem read?_append {raw : Text} (spelled : Spelling name raw) (rest : Text) :
    read? (raw ++ rest) = some ⟨name, raw, rest⟩ := by
  cases spelled with
  | double before after named blankBefore blankAfter =>
      have whole : opening ++ before ++ name ++ after ++ closing ++ rest =
          opening ++ (before ++ (name ++ (after ++ (closing ++ rest)))) := by
        simp only [List.append_assoc]
      have noBrace := head?_ne_brace blankBefore
        (head?_name_ne_brace named (after ++ (closing ++ rest)))
      have unmarked := ampersand_of_name named blankBefore (after ++ (closing ++ rest))
      have body := body?_append named blankBefore blankAfter ('\x7d' :: rest)
      rw [whole, read?, triple?_eq_none noBrace, Option.none_or, double?_append unmarked body,
        List.append_nil]
  | ampersand first before after named blankFirst blankBefore blankAfter =>
      have whole :
          opening ++ first ++ ('&' : CodePoint) :: before ++ name ++ after ++ closing ++ rest =
            opening ++ (first ++ ('&' : CodePoint) ::
              (before ++ (name ++ (after ++ (closing ++ rest))))) := by
        simp only [List.append_assoc, List.cons_append]
      have noBrace :
          (first ++ ('&' : CodePoint) ::
            (before ++ (name ++ (after ++ (closing ++ rest))))).head? ≠ some (.char '\x7b') := by
        apply head?_ne_brace blankFirst
        simp
      have marked := ampersand_append_mark blankFirst
        (before ++ (name ++ (after ++ (closing ++ rest))))
      have body := body?_append named blankBefore blankAfter ('\x7d' :: rest)
      rw [whole, read?, triple?_eq_none noBrace, Option.none_or, double?_append marked body]
      simp only [List.append_assoc, List.cons_append, List.nil_append]
  | triple before after named blankBefore blankAfter =>
      have whole :
          ('\x7b' : CodePoint) :: opening ++ before ++ name ++ after ++
              ('\x7d' : CodePoint) :: closing ++ rest =
            ('\x7b' : CodePoint) :: opening ++
              (before ++ (name ++ (after ++ ('\x7d' : CodePoint) :: (closing ++ rest)))) := by
        simp only [List.append_assoc, List.cons_append]
      have body := body?_append named blankBefore blankAfter (closing ++ rest)
      rw [whole, read?, triple?_append body, Option.some_or]

private theorem body?_parts {text : Text} {body : Body} (found : body? text = some body) :
    IsName body.name ∧ (∀ c ∈ body.before, Text.isBlank c = true) ∧
      ∀ c ∈ body.after, Text.isBlank c = true := by
  simp only [body?] at found
  split at found
  · cases found
  · next nonempty =>
      cases found
      refine ⟨⟨by simpa using nonempty, ?_⟩, ?_, ?_⟩
      · intro c member
        exact List.mem_takeWhile_imp member
      · intro c member
        exact List.mem_takeWhile_imp member
      · intro c member
        exact List.mem_takeWhile_imp member

/-- What is read as the mark in front of a name is nothing, or an ampersand behind blanks. -/
private theorem ampersand_cases (text : Text) :
    (ampersand text).1 = [] ∨
      ∃ first, (ampersand text).1 = first ++ [('&' : CodePoint)] ∧
        ∀ c ∈ first, Text.isBlank c = true := by
  unfold ampersand
  split
  · right
    refine ⟨text.takeWhile Text.isBlank, rfl, ?_⟩
    intro c member
    exact List.mem_takeWhile_imp member
  · left
    rfl

theorem spelling_of_read? {text : Text} {found : Placeholder} (read : read? text = some found) :
    Spelling found.name found.raw := by
  simp only [read?, Option.or_eq_some_iff, triple?, double?, Option.bind_eq_bind,
    Option.bind_eq_some_iff, Option.some.injEq] at read
  rcases read with ⟨inner, -, body, named, -, -, rfl⟩ | ⟨-, inner, -, body, named, -, -, rfl⟩
  · obtain ⟨isName, blankBefore, blankAfter⟩ := body?_parts named
    exact .triple body.before body.after isName blankBefore blankAfter
  · obtain ⟨isName, blankBefore, blankAfter⟩ := body?_parts named
    rcases ampersand_cases inner with unmarked | ⟨first, marked, blankFirst⟩
    · rw [unmarked, List.append_nil]
      exact .double body.before body.after isName blankBefore blankAfter
    · have spelled :=
        Spelling.ampersand first body.before body.after isName blankFirst blankBefore blankAfter
      rw [marked]
      simpa using spelled

/-- A placeholder is read from a text exactly if its spelling stands at the front. -/
theorem read?_eq_some_iff {text : Text} {found : Placeholder} :
    read? text = some found ↔
      Spelling found.name found.raw ∧ text = found.raw ++ found.rest := by
  constructor
  · intro read
    exact ⟨spelling_of_read? read, read?_eq_append read⟩
  · rintro ⟨spelled, rfl⟩
    exact read?_append spelled found.rest

theorem read?_eq_none_iff {text : Text} :
    read? text = none ↔ ∀ name raw, Spelling name raw → ¬ raw <+: text := by
  constructor
  · rintro unread name raw spelled ⟨rest, rfl⟩
    rw [read?_append spelled] at unread
    cases unread
  · intro unspelled
    cases read : read? text with
    | none => rfl
    | some found =>
        have front : found.raw <+: text := ⟨found.rest, (read?_eq_append read).symm⟩
        exact (unspelled _ _ (spelling_of_read? read) front).elim

end Placeholder

namespace Spelling

theorem isName {name raw : Text} (spelled : Spelling name raw) : IsName name := by
  cases spelled with
  | double _ _ named => exact named
  | ampersand _ _ _ named => exact named
  | triple _ _ named => exact named

theorem ne_nil {name raw : Text} (spelled : Spelling name raw) : raw ≠ [] := by
  cases spelled <;> simp [Placeholder.opening]

theorem unique {name name' raw raw' rest rest' : Text} (spelled : Spelling name raw)
    (spelled' : Spelling name' raw') (same : raw ++ rest = raw' ++ rest') :
    name = name' ∧ raw = raw' ∧ rest = rest' := by
  have read := Placeholder.read?_append spelled rest
  rw [same, Placeholder.read?_append spelled' rest'] at read
  injection read with read
  injection read with sameName sameRaw sameRest
  exact ⟨sameName.symm, sameRaw.symm, sameRest.symm⟩

end Spelling

end LicenseSeal
