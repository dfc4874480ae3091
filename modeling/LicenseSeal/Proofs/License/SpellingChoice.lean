import LicenseSeal.Proofs.License.Interchange
import LicenseSeal.Proofs.Template.Tokenization

/-!
# The choice of a spelling

A placeholder has its opening braces in front of everything else, so that none that starts in front
of another one can reach into it, unless the text in between ends in a brace itself.  A template is
then read up to a placeholder, at it and behind it independently, and any other spelling of the
placeholder makes the same template.
-/

namespace LicenseSeal

namespace Spelling

/-- A spelling is opening braces, followed by a text that has none. -/
theorem exists_braces_append {name raw : Text} (spelled : Spelling name raw) :
    ∃ braces body, raw = braces ++ body ∧ (∀ c ∈ braces, c = .char '\x7b') ∧
      .char '\x7b' ∉ body := by
  have noBlank {blanks : Text} (blank : ∀ c ∈ blanks, Text.isBlank c) :
      .char '\x7b' ∉ blanks :=
    fun member => absurd (blank _ member) (by decide)
  have noName (named : IsName name) : .char '\x7b' ∉ name :=
    fun member => absurd (named.2 _ member) (by decide)
  cases spelled with
  | double before after named blankBefore blankAfter =>
      refine ⟨Placeholder.opening, before ++ name ++ after ++ Placeholder.closing, ?_, ?_, ?_⟩
      · simp only [List.append_assoc]
      · simp [Placeholder.opening]
      · simp [noBlank blankBefore, noName named, noBlank blankAfter, Placeholder.closing]
  | ampersand first before after named blankFirst blankBefore blankAfter =>
      refine ⟨Placeholder.opening,
        first ++ .char '&' :: before ++ name ++ after ++ Placeholder.closing, ?_, ?_, ?_⟩
      · simp only [List.append_assoc, List.cons_append]
      · simp [Placeholder.opening]
      · simp [noBlank blankFirst, noBlank blankBefore, noName named, noBlank blankAfter,
          Placeholder.closing]
  | triple before after named blankBefore blankAfter =>
      refine ⟨.char '\x7b' :: Placeholder.opening,
        before ++ name ++ after ++ .char '\x7d' :: Placeholder.closing, ?_, ?_, ?_⟩
      · simp only [List.append_assoc, List.cons_append]
      · simp [Placeholder.opening]
      · simp [noBlank blankBefore, noName named, noBlank blankAfter, Placeholder.closing]

theorem eq_brace_of_mem {name raw front back : Text} (spelled : Spelling name raw)
    (split : raw = front ++ .char '\x7b' :: back) : ∀ c ∈ front, c = .char '\x7b' := by
  obtain ⟨braces, body, rfl, areBraces, noBrace⟩ := spelled.exists_braces_append
  rcases List.append_eq_append_iff.mp split with ⟨middle, rfl, inBody⟩ | ⟨middle, inBraces, -⟩
  · -- The brace would stand in the body.
    rw [inBody] at noBrace
    exact (noBrace (by simp)).elim
  · intro c member
    exact areBraces c (inBraces ▸ List.mem_append_left _ member)

theorem head?_eq_brace {name raw : Text} (spelled : Spelling name raw) (rest : Text) :
    (raw ++ rest).head? = some (.char '\x7b') := by
  cases spelled <;> rfl

end Spelling

namespace Placeholder

/-- Whether a placeholder starts a text is not changed by what follows the text, if that begins with
a brace and the text does not end in one. -/
theorem read?_append_eq_none {text following : Text} (proper : text ≠ [])
    (closed : text.getLast? ≠ some (.char '\x7b')) (opens : following.head? = some (.char '\x7b'))
    (unread : read? text = none) : read? (text ++ following) = none := by
  cases read : read? (text ++ following) with
  | none => rfl
  | some found =>
      obtain ⟨spelled, whole⟩ := read?_eq_some_iff.mp read
      rcases List.append_eq_append_iff.mp whole.symm with ⟨rest, inside, -⟩ | ⟨back, across, same⟩
      · -- The placeholder ends inside the text, where it would have been read.
        rw [inside, read?_append spelled] at unread
        cases unread
      · cases back with
        | nil =>
            rw [List.append_nil] at across
            rw [← across, ← List.append_nil found.raw, read?_append spelled] at unread
            cases unread
        | cons c back =>
            -- The placeholder reaches the brace, so that the text would consist of braces.
            rw [same, List.cons_append, List.head?_cons, Option.some.injEq] at opens
            subst opens
            have areBraces := spelled.eq_brace_of_mem across
            obtain ⟨last, isLast⟩ := Option.isSome_iff_exists.mp (List.getLast?_isSome.mpr proper)
            rw [isLast, areBraces last (List.mem_of_getLast? isLast)] at closed
            exact (closed rfl).elim

end Placeholder

namespace Template

variable {name raw raw' before after : Text}

theorem tokenize_of_read? {text : Text} {found : Placeholder}
    (read : Placeholder.read? text = some found) :
    tokenize text = .token found.name found.raw :: tokenize found.rest := by
  cases text with
  | nil => cases read
  | cons c rest => rw [tokenize, read]

theorem consLiteral_append_token (c : CodePoint) (segments others : List Segment) :
    consLiteral c segments ++ .token name raw :: others =
      consLiteral c (segments ++ .token name raw :: others) := by
  cases segments with
  | nil => rfl
  | cons segment segments => cases segment <;> rfl

/-- A text that does not end in a brace is read up to a placeholder, and the placeholder and what
follows it are read for themselves. -/
theorem tokenize_append_placeholder (spelled : Spelling name raw)
    (closed : before.getLast? ≠ some (.char '\x7b')) :
    tokenize (before ++ (raw ++ after)) =
      tokenize before ++ .token name raw :: tokenize after := by
  induction before using tokenize.induct with
  | case1 =>
      rw [List.nil_append, tokenize_of_read? (Placeholder.read?_append spelled after), tokenize]
      rfl
  | case2 c rest found read ih =>
      obtain ⟨foundSpelled, whole⟩ := Placeholder.read?_eq_some_iff.mp read
      have closedRest : found.rest.getLast? ≠ some (.char '\x7b') := by
        intro last
        rw [whole, List.getLast?_append, last] at closed
        exact closed rfl
      have longer : Placeholder.read? (c :: rest ++ (raw ++ after)) =
          some ⟨found.name, found.raw, found.rest ++ (raw ++ after)⟩ := by
        rw [whole, List.append_assoc, Placeholder.read?_append foundSpelled]
      rw [tokenize_of_read? longer, tokenize_of_read? read, ih closedRest, List.cons_append]
  | case3 c rest unread ih =>
      have opens := spelled.head?_eq_brace after
      have unread' := Placeholder.read?_append_eq_none (List.cons_ne_nil c rest) closed opens unread
      have closedRest : rest.getLast? ≠ some (.char '\x7b') := by
        intro last
        rw [List.getLast?_cons, last] at closed
        exact closed rfl
      rw [List.cons_append] at unread' ⊢
      rw [tokenize, unread', tokenize, unread, ih closedRest, consLiteral_append_token]

theorem nodes_append_placeholder (spelled : Spelling name raw)
    (closed : before.getLast? ≠ some (.char '\x7b')) :
    nodes (before ++ (raw ++ after)) = nodes before ++ .capture name true :: nodes after := by
  rw [nodes, scan, tokenize_append_placeholder spelled closed, List.map_append, List.map_cons]
  rfl

/-- The spelling of a placeholder behind a text that does not end in a brace makes no difference.
The text in front and the text behind are read as they would be alone, so that with each of two
spellings a template has the same literal texts and names, the same fingerprint and the same
grammar, and gives the same document for fields that cover its tokens. -/
theorem spelling_irrelevant (spelled : Spelling name raw) (spelled' : Spelling name raw')
    (closed : before.getLast? ≠ some (.char '\x7b')) (after : Text) :
    (scan (before ++ (raw ++ after))).segments =
        (scan before).segments ++ .token name raw :: (scan after).segments ∧
      (scan (before ++ (raw' ++ after))).segments =
        (scan before).segments ++ .token name raw' :: (scan after).segments ∧
      nodes (before ++ (raw ++ after)) = nodes (before ++ (raw' ++ after)) ∧
      fingerprint (before ++ (raw ++ after)) = fingerprint (before ++ (raw' ++ after)) ∧
      SameCompiled (Template.grammar (before ++ (raw ++ after)))
        (Template.grammar (before ++ (raw' ++ after))) ∧
      ∀ fields : Fields Text,
        (∀ name ∈ (scan (before ++ (raw ++ after))).names, name ∈ fields.names) →
        render (before ++ (raw ++ after)) fields = render (before ++ (raw' ++ after)) fields := by
  have sameNodes : nodes (before ++ (raw ++ after)) = nodes (before ++ (raw' ++ after)) := by
    rw [nodes_append_placeholder spelled closed, nodes_append_placeholder spelled' closed]
  have interchangeable := interchangeable_of_nodes_eq sameNodes
  refine ⟨tokenize_append_placeholder spelled closed, tokenize_append_placeholder spelled' closed,
    sameNodes, ?_, interchangeable.grammar, interchangeable.render⟩
  rw [fingerprint, fingerprint, Scan.identity_eq_iff.mpr sameNodes]

/-- Half a placeholder in front and closing braces behind leave a token as it is spelled. -/
theorem spelling_irrelevant_half_open :
    Spelling "a".text "\x7b\x7b a\x7d\x7d".text ∧
      Spelling "a".text "\x7b\x7b\x7ba\x7d\x7d\x7d".text ∧
      (scan "\x7b\x7bb \x7b\x7b a\x7d\x7d\x7d".text).segments =
        [.literal "\x7b\x7bb ".text, .token "a".text "\x7b\x7b a\x7d\x7d".text,
          .literal "\x7d".text] ∧
      nodes "\x7b\x7bb \x7b\x7b a\x7d\x7d\x7d".text =
        nodes "\x7b\x7bb \x7b\x7b\x7ba\x7d\x7d\x7d\x7d".text ∧
      fingerprint "\x7b\x7bb \x7b\x7b a\x7d\x7d\x7d".text =
        fingerprint "\x7b\x7bb \x7b\x7b\x7ba\x7d\x7d\x7d\x7d".text := by
  have isName : IsName "a".text := ⟨by decide, by decide⟩
  have spelled : Spelling "a".text "\x7b\x7b a\x7d\x7d".text :=
    .double [' '] [] isName (by simp [Text.isBlank]) (by simp)
  have spelled' : Spelling "a".text "\x7b\x7b\x7ba\x7d\x7d\x7d".text :=
    .triple [] [] isName (by simp) (by simp)
  have front : (scan "\x7b\x7bb ".text).segments = [.literal "\x7b\x7bb ".text] := by decide +kernel
  have back : (scan "\x7d".text).segments = [.literal "\x7d".text] := by decide +kernel
  have closed : "\x7b\x7bb ".text.getLast? ≠ some (.char '\x7b') := by decide
  obtain ⟨segments, -, sameNodes, hashed, -, -⟩ :=
    spelling_irrelevant spelled spelled' closed "\x7d".text
  rw [front, back] at segments
  exact ⟨spelled, spelled', segments, sameNodes, hashed⟩

/-- Behind a brace the spelling tells which braces belong to the placeholder. -/
example : nodes "\x7b\x7b\x7ba\x7d\x7d\x7d".text = [.capture "a".text true] ∧
    nodes "\x7b\x7b\x7b&a\x7d\x7d\x7d".text =
      [.literal "\x7b".text, .capture "a".text true, .literal "\x7d".text] := by
  constructor <;> decide +kernel

end Template

end LicenseSeal
