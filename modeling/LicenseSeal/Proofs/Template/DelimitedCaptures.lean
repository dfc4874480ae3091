import LicenseSeal.Proofs.Template.TokenTexts

/-!
# Delimited captures

A lazy capture ends at the first place where the following literal stands.  If that is nowhere
earlier than where the rendered text ends, every token is captured with the text that was rendered
for it.
-/

namespace LicenseSeal

namespace Segment

/-- No two tokens stand directly next to each other. -/
def Separated (segments : List Segment) : Prop :=
  ∀ name raw name' raw' after,
    ¬ .token name raw :: .token name' raw' :: after <:+ segments

/-- The literal behind a token, where another token follows, does not occur in the token's text
and itself without its last character. -/
def Delimited (fields : Fields Text) (segments : List Segment) : Prop :=
  ∀ name raw delimiter after,
    .token name raw :: .literal delimiter :: after <:+ segments →
    after.filterMap name? ≠ [] →
    ¬ delimiter <:+: (fields.get? name).getD raw ++ delimiter.dropLast

theorem Separated.tail {segment : Segment} {segments : List Segment}
    (separated : Separated (segment :: segments)) : Separated segments :=
  fun name raw name' raw' after suffix =>
    separated name raw name' raw' after (suffix.trans (List.suffix_cons _ _))

theorem Delimited.tail {fields : Fields Text} {segment : Segment} {segments : List Segment}
    (delimited : Delimited fields (segment :: segments)) : Delimited fields segments :=
  fun name raw delimiter after suffix =>
    delimited name raw delimiter after (suffix.trans (List.suffix_cons _ _))

end Segment

/-- A text that is not longer than another one and is followed by a delimiter is the other one, if
the delimiter cannot start inside that one. -/
theorem eq_of_first_delimiter {value span delimiter rest rest' : Text}
    (same : span ++ (delimiter ++ rest') = value ++ (delimiter ++ rest))
    (short : span.length ≤ value.length)
    (apart : ¬ delimiter <:+: value ++ delimiter.dropLast) : span = value := by
  have front : span ++ delimiter <+: value ++ (delimiter ++ rest) :=
    ⟨rest', by rw [List.append_assoc, same]⟩
  have front' : value ++ delimiter.dropLast <+: value ++ (delimiter ++ rest) :=
    (List.prefix_append_right_inj value).mpr
      ((List.dropLast_prefix delimiter).trans (List.prefix_append delimiter rest))
  by_cases shorter : span.length < value.length
  · have within : (span ++ delimiter).length ≤ (value ++ delimiter.dropLast).length := by
      simp only [List.length_append, List.length_dropLast]
      omega
    obtain ⟨behind, whole⟩ := List.prefix_of_prefix_length_le front front' within
    exact (apart ⟨span, behind, whole⟩).elim
  · have sameLength : span.length = value.length := by omega
    exact List.append_inj_left same sameLength

namespace Grammar

private theorem span_eq_of_delimited {fields : Fields Text} {name raw span rest : Text}
    {segments : List Segment} {others : List Text}
    (separated : Segment.Separated (.token name raw :: segments))
    (delimited : Segment.Delimited fields (.token name raw :: segments))
    (same : span ++ rest =
      (fields.get? name).getD raw ++ segments.flatMap (Segment.rendered fields))
    (behind : Decomposes (segments.map Node.ofSegment) rest others)
    (short : span.length ≤ ((fields.get? name).getD raw).length) :
    span = (fields.get? name).getD raw := by
  have rendered := decomposes_rendered fields segments
  by_cases final : segments.filterMap Segment.name? = []
  · -- Behind the last token there is only literal text.
    have none : others = [] := by
      rw [← List.length_eq_zero_iff, behind.length_captured, filterMap_name?_ofSegment, final]
      rfl
    have none' : segments.filterMap (Segment.tokenText? fields) = [] := by
      rw [← List.length_eq_zero_iff, Segment.length_filterMap_tokenText?, final]
      rfl
    rw [none] at behind
    rw [none'] at rendered
    rw [behind.document_eq rendered] at same
    exact List.append_cancel_right same
  · cases segments with
    | nil => exact (final rfl).elim
    | cons next after =>
        cases next with
        | token name' raw' => exact (separated _ _ _ _ _ List.suffix_rfl).elim
        | literal delimiter =>
            obtain ⟨rest', rfl, -⟩ := decomposes_literal_iff.mp behind
            have apart := delimited name raw delimiter after List.suffix_rfl final
            exact eq_of_first_delimiter same short apart

theorem captured_eq_of_delimited {fields : Fields Text} {segments : List Segment}
    {captured : List Text} (separated : Segment.Separated segments)
    (delimited : Segment.Delimited fields segments)
    (best : IsMostPreferred (segments.map Node.ofSegment)
      (segments.flatMap (Segment.rendered fields)) captured) :
    captured = segments.filterMap (Segment.tokenText? fields) := by
  induction segments generalizing captured with
  | nil => exact (decomposes_nil_iff.mp best.decomposes).2
  | cons segment segments ih =>
      cases segment with
      | literal text =>
          exact ih separated.tail delimited.tail (IsMostPreferred.of_literal best)
      | token name raw =>
          obtain ⟨span, rest, others, same, rfl, behind⟩ :=
            decomposes_capture_iff.mp best.decomposes
          have short := best.length_le (decomposes_rendered fields (.token name raw :: segments))
          have sameSpan := span_eq_of_delimited separated delimited same.symm behind short
          subst sameSpan
          have inner := ih separated.tail delimited.tail (IsMostPreferred.of_capture best)
          rw [inner]
          rfl

end Grammar

end LicenseSeal
