import LicenseSeal.Proofs.DistinctFields
import LicenseSeal.Proofs.Template.MemoSoundness
import LicenseSeal.Proofs.Template.TokenTexts

/-!
# Rendering and capturing

Rendering a template with the texts captured from a document gives the document back.  In the other
direction a rendered document is always matched, although a value that holds literal text of the
template can make a capture end earlier than the value does.
-/

namespace LicenseSeal

theorem Segment.filterMap_tokenText?_eq {fields : Fields Text} {segments : List Segment}
    {texts : List Text} (oneEach : texts.length = (segments.filterMap name?).length)
    (read : ∀ name text, (name, text) ∈ (segments.filterMap name?).zip texts →
      fields.get? name = some text) :
    segments.filterMap (tokenText? fields) = texts := by
  induction segments generalizing texts with
  | nil => exact (List.eq_nil_of_length_eq_zero oneEach).symm
  | cons segment segments ih =>
      cases segment with
      | literal literal =>
          rw [List.filterMap_cons_none rfl]
          exact ih oneEach read
      | token name raw =>
          have named : (Segment.token name raw).name? = some name := rfl
          rw [List.filterMap_cons_some named] at oneEach read
          cases texts with
          | nil => cases oneEach
          | cons text texts =>
              have first : fields.get? name = some text := by
                apply read
                exact List.mem_cons_self
              have others := ih (Nat.succ.inj oneEach) fun name text member =>
                read name text (List.mem_cons_of_mem _ member)
              have own : tokenText? fields (.token name raw) = some text := by
                rw [tokenText?, first, Option.getD_some]
              rw [List.filterMap_cons_some own, others]

namespace Template

variable {template document : Text} {grammar : Grammar}

theorem tokenNames_eq_names (compiled : Template.grammar template = .ok grammar) :
    grammar.tokenNames = (scan template).names := by
  obtain ⟨distinct, rfl⟩ := grammar_eq_ok_iff.mp compiled
  exact Scan.fields_eq_names distinct

theorem captureNames_eq_names (compiled : Template.grammar template = .ok grammar) :
    grammar.captureNames = (scan template).names := by
  obtain ⟨-, rfl⟩ := grammar_eq_ok_iff.mp compiled
  exact Grammar.filterMap_name?_ofSegment (scan template).segments

theorem render_captures {captured : List Text}
    (compiled : Template.grammar template = .ok grammar)
    (matched : grammar.captures? document = some captured) :
    render template (Fields.ofList (grammar.tokenNames.zip captured)) = document := by
  have tokenNames := tokenNames_eq_names compiled
  have captureNames := captureNames_eq_names compiled
  obtain ⟨distinct, rfl⟩ := grammar_eq_ok_iff.mp compiled
  have decomposition := (Grammar.captures?_eq_some_iff.mp matched).decomposes
  have oneEach : captured.length = (scan template).names.length := by
    rw [← captureNames]
    exact decomposition.length_captured
  have entries : (Fields.ofList ((scan template).names.zip captured)).entries =
      (scan template).names.zip captured := by
    apply Fields.entries_ofList
    rw [List.map_fst_zip (Nat.le_of_eq oneEach.symm)]
    exact distinct
  have texts : (scan template).segments.filterMap
      (Segment.tokenText? (Fields.ofList ((scan template).names.zip captured))) = captured := by
    apply Segment.filterMap_tokenText?_eq oneEach
    intro name text member
    apply Fields.get?_eq_some_iff.mpr
    rw [entries]
    exact member
  rw [tokenNames, render, Segment.flatMap_rendered_eq_fill, texts]
  exact decomposition.eq_fill.symm

/-- A rendered document is matched, and none of its readings has shorter captures. -/
theorem exists_captures_render (compiled : Template.grammar template = .ok grammar)
    (fields : Fields Text) :
    ∃ captured, grammar.captures? (render template fields) = some captured ∧
      ((scan template).segments.filterMap (Segment.tokenText? fields) = captured ∨
        List.Lex (· < ·) (captured.map List.length)
          (((scan template).segments.filterMap (Segment.tokenText? fields)).map
            List.length)) := by
  have onlyLazy := Grammar.capture_false_not_mem_of_grammar compiled
  obtain ⟨-, rfl⟩ := grammar_eq_ok_iff.mp compiled
  have rendered := Grammar.decomposes_rendered fields (scan template).segments
  cases matched : (Grammar.mk _ _).captures? (render template fields) with
  | none => exact (Grammar.captures?_eq_none_iff.mp matched _ rendered).elim
  | some captured =>
      refine ⟨captured, rfl, ?_⟩
      have best := Grammar.captures?_eq_some_iff.mp matched
      rcases best.preferred _ rendered with same | preference
      · exact .inl same
      · exact .inr (preference.lengths_lex onlyLazy)

/-- Rendering undoes capturing, for every document that a template matches.  Conversely a template
matches every document rendered from it, whatever the fields hold or lack, with one capture for each
token and with lengths that are lexicographically at most those of the rendered texts. -/
theorem render_captures_inverse (compiled : Template.grammar template = .ok grammar) :
    (∀ document captured, grammar.captures? document = some captured →
      captured.length = grammar.tokenNames.length ∧
        render template (Fields.ofList (grammar.tokenNames.zip captured)) = document) ∧
    (∀ fields : Fields Text, ∃ captured texts,
      grammar.captures? (render template fields) = some captured ∧
      texts = (scan template).segments.filterMap (Segment.tokenText? fields) ∧
      captured.length = texts.length ∧
      (captured.map List.length = texts.map List.length ∨
        List.Lex (· < ·) (captured.map List.length) (texts.map List.length))) := by
  have oneEach : ∀ {document captured}, grammar.captures? document = some captured →
      captured.length = grammar.tokenNames.length := fun matched => by
    rw [tokenNames_eq_names compiled, ← captureNames_eq_names compiled]
    exact (Grammar.captures?_eq_some_iff.mp matched).decomposes.length_captured
  constructor
  · intro document captured matched
    exact ⟨oneEach matched, render_captures compiled matched⟩
  · intro fields
    obtain ⟨captured, matched, least⟩ := exists_captures_render compiled fields
    refine ⟨captured, _, matched, rfl, ?_, ?_⟩
    · rw [oneEach matched, tokenNames_eq_names compiled]
      exact (Segment.length_filterMap_tokenText? fields _).symm
    · exact least.imp (fun same => congrArg (List.map List.length) same.symm) id

namespace Sample

/-- Two tokens with a dash in between. -/
def pair : Text := "\x7b\x7ba\x7d\x7d-\x7b\x7bb\x7d\x7d".text

/-- The first field of the pair, with a dash in it, and a field that the pair does not name. -/
def pairFields : Fields Text :=
  Fields.ofList [("a".text, "1-2".text), ("c".text, "3".text)]

def pairGrammar : Grammar :=
  ⟨["a".text, "b".text],
    [.capture "a".text true, .literal "-".text, .capture "b".text true]⟩

end Sample

/-- A dash in a value ends the first capture early, and the placeholder that was left in place is
captured as text; rendering the captures still gives the document. -/
theorem render_captures_inverse_pair :
    Template.grammar Sample.pair = .ok Sample.pairGrammar ∧
      render Sample.pair Sample.pairFields = "1-2-\x7b\x7bb\x7d\x7d".text ∧
      Sample.pairGrammar.captures? "1-2-\x7b\x7bb\x7d\x7d".text =
        some ["1".text, "2-\x7b\x7bb\x7d\x7d".text] ∧
      render Sample.pair (Fields.ofList (Sample.pairGrammar.tokenNames.zip
        ["1".text, "2-\x7b\x7bb\x7d\x7d".text])) = "1-2-\x7b\x7bb\x7d\x7d".text ∧
      List.Lex (· < ·) [1, 7] [3, 5] := by
  have compiled : Template.grammar Sample.pair = .ok Sample.pairGrammar := by decide +kernel
  have rendered : render Sample.pair Sample.pairFields = "1-2-\x7b\x7bb\x7d\x7d".text := by
    decide +kernel
  have matched : Sample.pairGrammar.captures? "1-2-\x7b\x7bb\x7d\x7d".text =
      some ["1".text, "2-\x7b\x7bb\x7d\x7d".text] := by
    rw [Grammar.captures?_eq_search]
    decide +kernel
  have texts : (scan Sample.pair).segments.filterMap (Segment.tokenText? Sample.pairFields) =
      ["1-2".text, "\x7b\x7bb\x7d\x7d".text] := by
    decide +kernel
  obtain ⟨back, lengths⟩ := render_captures_inverse compiled
  refine ⟨compiled, rendered, matched, (back _ _ matched).2, ?_⟩
  obtain ⟨captured, texts', matched', rfl, -, least⟩ := lengths Sample.pairFields
  rw [rendered, matched, Option.some.injEq] at matched'
  subst matched'
  rw [texts] at least
  rcases least with equal | less
  · exact absurd equal (by decide)
  · exact less

end Template

end LicenseSeal
