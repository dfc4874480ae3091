import LicenseSeal.Proofs.Template.Decomposition
import LicenseSeal.Proofs.Template.Tokenization
import LicenseSeal.Template.Render

/-!
# Texts in place of tokens

`fill` puts one text in place of each token of a template.  The grammar of the template decomposes
such a document into exactly these texts, and rendering is filling with the texts of the fields.
-/

namespace LicenseSeal

namespace Segment

/-- A text in place of each token, the spelling of a token where there are too few texts. -/
def fill : List Segment → List Text → Text
  | [], _ => []
  | .literal text :: segments, texts => text ++ fill segments texts
  | .token _ raw :: segments, [] => raw ++ fill segments []
  | .token _ _ :: segments, text :: texts => text ++ fill segments texts

/-- What fields contribute to a document in place of a token. -/
def tokenText? (fields : Fields Text) : Segment → Option Text
  | .literal _ => none
  | .token name raw => some ((fields.get? name).getD raw)

theorem exists_token_of_mem_filterMap {segments : List Segment} {name : Text}
    (member : name ∈ segments.filterMap name?) : ∃ raw, .token name raw ∈ segments := by
  obtain ⟨segment, inSegments, named⟩ := List.mem_filterMap.mp member
  cases segment with
  | literal text => cases named
  | token other raw =>
      cases named
      exact ⟨raw, inSegments⟩

theorem length_filterMap_tokenText? (fields : Fields Text) (segments : List Segment) :
    (segments.filterMap (tokenText? fields)).length = (segments.filterMap name?).length := by
  induction segments with
  | nil => rfl
  | cons segment segments ih =>
      cases segment with
      | literal text => exact ih
      | token name raw => exact congrArg (· + 1) ih

theorem mem_zip_filterMap_tokenText? (fields : Fields Text) {segments : List Segment}
    {name raw : Text} (member : .token name raw ∈ segments) :
    (name, (fields.get? name).getD raw) ∈
      (segments.filterMap name?).zip (segments.filterMap (tokenText? fields)) := by
  induction segments with
  | nil => cases member
  | cons segment segments ih =>
      rcases List.mem_cons.mp member with rfl | later
      · exact List.mem_cons_self
      · cases segment with
        | literal text => exact ih later
        | token other otherRaw => exact List.mem_cons_of_mem _ (ih later)

theorem flatMap_rendered_eq_fill (fields : Fields Text) (segments : List Segment) :
    segments.flatMap (rendered fields) =
      fill segments (segments.filterMap (tokenText? fields)) := by
  induction segments with
  | nil => rfl
  | cons segment segments ih =>
      cases segment with
      | literal text => exact congrArg (text ++ ·) ih
      | token name raw => exact congrArg ((fields.get? name).getD raw ++ ·) ih

end Segment

namespace Grammar

theorem filterMap_name?_ofSegment (segments : List Segment) :
    (segments.map Node.ofSegment).filterMap Node.name? = segments.filterMap Segment.name? := by
  rw [List.filterMap_map]
  congr 1
  funext segment
  cases segment <;> rfl

theorem decomposes_fill {segments : List Segment} {texts : List Text}
    (enough : texts.length = (segments.filterMap Segment.name?).length) :
    Decomposes (segments.map Node.ofSegment) (Segment.fill segments texts) texts := by
  induction segments generalizing texts with
  | nil =>
      rw [List.eq_nil_of_length_eq_zero enough]
      exact .nil
  | cons segment segments ih =>
      cases segment with
      | literal text => exact .literal text (ih enough)
      | token name raw =>
          cases texts with
          | nil => cases enough
          | cons text texts => exact .capture name true text (ih (Nat.succ.inj enough))

theorem decomposes_rendered (fields : Fields Text) (segments : List Segment) :
    Decomposes (segments.map Node.ofSegment) (segments.flatMap (Segment.rendered fields))
      (segments.filterMap (Segment.tokenText? fields)) := by
  rw [Segment.flatMap_rendered_eq_fill]
  exact decomposes_fill (Segment.length_filterMap_tokenText? fields segments)

/-- Every document of a template's grammar is the template filled with the captured texts. -/
theorem Decomposes.eq_fill {segments : List Segment} {document : Text} {captured : List Text}
    (decomposition : Decomposes (segments.map Node.ofSegment) document captured) :
    document = Segment.fill segments captured := by
  refine decomposition.document_eq (decomposes_fill ?_)
  rw [decomposition.length_captured, filterMap_name?_ofSegment]

end Grammar

theorem Spelling.four_le_length {name raw : Text} (spelled : Spelling name raw) :
    4 ≤ raw.length := by
  cases spelled <;>
    simp only [Placeholder.opening, Placeholder.closing, List.length_append, List.length_cons,
      List.length_nil] <;>
    omega

namespace Template

/-- A token is spelled with at least the two braces on either side. -/
theorem four_le_length_raw_of_mem {template name raw : Text}
    (member : .token name raw ∈ (scan template).segments) : 4 ≤ raw.length :=
  ((isTokenization_scan template).spelled name raw member).four_le_length

theorem grammar_eq_ok_iff {template : Text} {grammar : Grammar} :
    Template.grammar template = .ok grammar ↔
      (scan template).names.Nodup ∧
        grammar = ⟨(scan template).fields,
          (scan template).segments.map Grammar.Node.ofSegment⟩ := by
  rw [← Scan.duplicates_eq_nil_iff, Template.grammar]
  split
  · next none =>
      rw [List.isEmpty_iff] at none
      constructor
      · intro compiled
        exact ⟨none, (Except.ok.inj compiled).symm⟩
      · rintro ⟨-, rfl⟩
        rfl
  · next some =>
      rw [List.isEmpty_iff] at some
      constructor
      · intro compiled
        cases compiled
      · rintro ⟨none, -⟩
        exact (some none).elim

end Template

end LicenseSeal
