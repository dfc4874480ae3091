import LicenseSeal.Proofs.Template.SearchInvariants

/-!
# Matching with a memo of failed states

A memo of states that have failed changes nothing about what is captured: the texts of the spans
that the search leaves are what the search without a memo finds.  The main statement
`captures?_spec` says what a grammar captures from a document, for every sequence of nodes.
-/

namespace LicenseSeal.Grammar

/-- The memo changes nothing about what is captured. -/
theorem captures?_eq_search (grammar : Grammar) (document : Text) :
    grammar.captures? document = search grammar.nodes (Place.start document) := by
  have valid : Progress.initial.memo.Valid grammar.nodes document [] := .empty
  have whole : grammar.nodes.drop 0 = grammar.nodes := rfl
  have ends := matchFrom_ends whole (Nat.zero_le document.length) valid (List.forall_mem_nil _)
  rw [show Place.behind document 0 = Place.start document from rfl] at ends
  rw [captures?]
  generalize matchFrom grammar.nodes 0 (Place.start document) Progress.initial = outcome at ends
  obtain ⟨found, after⟩ := outcome
  cases results : search grammar.nodes (Place.start document) with
  | none =>
      rw [results] at ends
      obtain ⟨rfl, -⟩ := ends
      rfl
  | some captured =>
      rw [results] at ends
      obtain ⟨rfl, ⟨spans, added, -, texts⟩, -, -⟩ := ends
      change some (after.spans.map (Span.textIn document)) = some captured
      rw [added, ← texts]
      rfl

theorem captures?_eq_some_iff {grammar : Grammar} {document : Text} {captured : List Text} :
    grammar.captures? document = some captured ↔
      IsMostPreferred grammar.nodes document captured := by
  rw [captures?_eq_search]
  constructor
  · exact isMostPreferred_of_search_eq_some
  · intro best
    cases found : search grammar.nodes (Place.start document) with
    | none => exact (search_eq_none_iff.mp found captured best.decomposes).elim
    | some captured' =>
        rw [(isMostPreferred_of_search_eq_some found).unique best]

theorem captures?_eq_none_iff {grammar : Grammar} {document : Text} :
    grammar.captures? document = none ↔
      ∀ captured, ¬ Decomposes grammar.nodes document captured := by
  rw [captures?_eq_search]
  exact search_eq_none_iff

theorem capture_false_not_mem_of_grammar {template : Text} {grammar : Grammar}
    (compiled : Template.grammar template = .ok grammar) (name : Text) :
    Node.capture name false ∉ grammar.nodes := by
  rw [Template.grammar] at compiled
  split at compiled
  · cases compiled
    intro member
    obtain ⟨segment, -, same⟩ := List.mem_map.mp member
    cases segment <;> cases same
  · cases compiled

/-- A match is the most preferred decomposition that covers the whole document, with one text for
each capture, and there is none exactly if there is no decomposition.  For the grammar of a template
the lengths of the captured texts are the lexicographically least ones. -/
theorem captures?_spec (grammar : Grammar) (document : Text) :
    (grammar.captures? document = none ↔
      ∀ captured, ¬ Decomposes grammar.nodes document captured) ∧
    (∀ captured, grammar.captures? document = some captured ↔
      IsMostPreferred grammar.nodes document captured) ∧
    (∀ captured, grammar.captures? document = some captured →
      captured.length = grammar.captureNames.length) ∧
    (∀ template captured, Template.grammar template = .ok grammar →
      grammar.captures? document = some captured →
      ∀ other, Decomposes grammar.nodes document other →
        other = captured ∨
          List.Lex (· < ·) (captured.map List.length) (other.map List.length)) := by
  refine ⟨captures?_eq_none_iff, fun captured => captures?_eq_some_iff, ?_, ?_⟩
  · intro captured found
    exact (captures?_eq_some_iff.mp found).decomposes.length_captured
  · intro template captured compiled found other decomposition
    rcases (captures?_eq_some_iff.mp found).preferred other decomposition with same | preference
    · exact .inl same
    · exact .inr (preference.lengths_lex (capture_false_not_mem_of_grammar compiled))

/-- Of the two readings of a document with two dashes, the first one is captured. -/
theorem captures?_spec_two_dashes :
    let grammar : Grammar :=
      ⟨["a".text, "b".text],
        [.capture "a".text true, .literal "-".text, .capture "b".text true]⟩
    Template.grammar "\x7b\x7ba\x7d\x7d-\x7b\x7bb\x7d\x7d".text = .ok grammar ∧
      grammar.captures? "1-2-3".text = some ["1".text, "2-3".text] ∧
      ∀ other, Decomposes grammar.nodes "1-2-3".text other →
        other = ["1".text, "2-3".text] ∨ List.Lex (· < ·) [1, 3] (other.map List.length) := by
  intro grammar
  have compiled : Template.grammar "\x7b\x7ba\x7d\x7d-\x7b\x7bb\x7d\x7d".text = .ok grammar := by
    dsimp only [grammar]
    decide +kernel
  have found : grammar.captures? "1-2-3".text = some ["1".text, "2-3".text] := by
    rw [captures?_eq_search]
    dsimp only [grammar]
    decide +kernel
  exact ⟨compiled, found, (captures?_spec grammar _).2.2.2 _ _ compiled found⟩

end LicenseSeal.Grammar
