import LicenseSeal.Proofs.Template.CandidateEnds

/-!
# Ordered search for a decomposition

`search` tries the ends of each capture in their order and keeps no memo.  The ends leave out none
that a decomposition uses and stand in the order of preference, so that the first success is the
most preferred decomposition.
-/

namespace LicenseSeal.Grammar

/-- The text between a place and a later one. -/
def Place.textTo (place later : Place) : Text :=
  place.rest.take (later.offset - place.offset)

theorem Place.textTo_advance (place : Place) (count : Nat) :
    place.textTo (place.advance count) = place.rest.take count := by
  simp [textTo, advance]

/-- The texts that nodes capture from a place on, searched without a memo. -/
def search : List Node → Place → Option (List Text)
  | [], place => if place.rest.isEmpty then some [] else none
  | .literal text :: nodes, place => (place.past? text).bind (search nodes)
  | .capture _ isLazy :: nodes, place =>
      (captureEnds isLazy nodes place).findSome? fun later =>
        (search nodes later).map (place.textTo later :: ·)

theorem not_decomposes_of_search_eq_none {nodes : List Node} {place : Place}
    (failed : search nodes place = none) (captured : List Text) :
    ¬ Decomposes nodes place.rest captured := by
  induction nodes generalizing place captured with
  | nil =>
      intro decomposition
      rw [search, (decomposes_nil_iff.mp decomposition).1] at failed
      cases failed
  | cons node nodes ih =>
      intro decomposition
      cases node with
      | literal text =>
          obtain ⟨rest, whole, behind⟩ := decomposes_literal_iff.mp decomposition
          have found : place.past? text = some (place.advance text.length) :=
            Place.past?_eq_some_iff.mpr ⟨by simp [Place.advance, whole], rfl⟩
          rw [search, found, Option.bind_some] at failed
          refine ih failed captured ?_
          simpa [Place.advance, whole] using behind
      | capture name isLazy =>
          obtain ⟨span, rest, others, whole, -, behind⟩ := decomposes_capture_iff.mp decomposition
          rw [search, List.findSome?_eq_none_iff] at failed
          have none := failed _ (advance_mem_captureEnds isLazy whole behind)
          refine ih (Option.map_eq_none_iff.mp none) others ?_
          simpa [Place.advance, whole] using behind

theorem decomposes_of_search_eq_some {nodes : List Node} {place : Place} {captured : List Text}
    (found : search nodes place = some captured) : Decomposes nodes place.rest captured := by
  induction nodes generalizing place captured with
  | nil =>
      rw [search] at found
      split at found
      · next empty =>
          cases found
          rw [List.isEmpty_iff.mp empty]
          exact .nil
      · cases found
  | cons node nodes ih =>
      cases node with
      | literal text =>
          obtain ⟨later, moved, behind⟩ := Option.bind_eq_some_iff.mp found
          rw [(Place.past?_eq_some_iff.mp moved).1]
          exact .literal text (ih behind)
      | capture name isLazy =>
          obtain ⟨later, member, mapped⟩ := List.exists_of_findSome?_eq_some found
          obtain ⟨others, behind, rfl⟩ := Option.map_eq_some_iff.mp mapped
          obtain ⟨count, -, rfl⟩ := exists_advance_of_mem_captureEnds member
          have decomposition := Decomposes.capture name isLazy (place.rest.take count) (ih behind)
          rw [Place.textTo_advance]
          simpa [Place.advance] using decomposition

/-- The end that the search settles on for a capture: the search goes on from there, and every other
end from which the document can be decomposed is tried later. -/
private theorem exists_end_of_search_capture {name : Text} {isLazy : Bool} {nodes : List Node}
    {place : Place} {captured : List Text}
    (found : search (.capture name isLazy :: nodes) place = some captured) :
    ∃ count others, count ≤ place.rest.length ∧ captured = place.rest.take count :: others ∧
      search nodes (place.advance count) = some others ∧
      ∀ span rest other, place.rest = span ++ rest → Decomposes nodes rest other →
        span.length = count ∨
          TriedBefore isLazy (place.advance count) (place.advance span.length) := by
  obtain ⟨before, later, after, ends, mapped, failed⟩ := List.findSome?_eq_some_iff.mp found
  obtain ⟨others, behind, rfl⟩ := Option.map_eq_some_iff.mp mapped
  have isEnd : later ∈ captureEnds isLazy nodes place := by simp [ends]
  obtain ⟨count, within, rfl⟩ := exists_advance_of_mem_captureEnds isEnd
  rw [Place.textTo_advance]
  refine ⟨count, others, within, rfl, behind, ?_⟩
  intro span rest other whole decomposition
  have ordered := captureEnds_pairwise isLazy nodes place
  have member := advance_mem_captureEnds isLazy whole decomposition
  rw [ends] at ordered member
  rcases List.mem_append.mp member with earlier | later
  · -- An end tried earlier has failed, so no decomposition goes on behind it.
    have none := Option.map_eq_none_iff.mp (failed _ earlier)
    refine (not_decomposes_of_search_eq_none none other ?_).elim
    simpa [Place.advance, whole] using decomposition
  · rcases List.mem_cons.mp later with same | later
    · left
      simpa [Place.advance] using congrArg Place.offset same
    · right
      exact (List.pairwise_cons.mp (List.pairwise_append.mp ordered).2.1).1 _ later

theorem isMostPreferred_of_search_eq_some {nodes : List Node} {place : Place}
    {captured : List Text} (found : search nodes place = some captured) :
    IsMostPreferred nodes place.rest captured := by
  refine ⟨decomposes_of_search_eq_some found, ?_⟩
  induction nodes generalizing place captured with
  | nil =>
      intro other decomposition
      have decomposition' := decomposes_of_search_eq_some found
      rw [(decomposes_nil_iff.mp decomposition).2, (decomposes_nil_iff.mp decomposition').2]
      exact .inl rfl
  | cons node nodes ih =>
      intro other decomposition
      cases node with
      | literal text =>
          obtain ⟨later, moved, behind⟩ := Option.bind_eq_some_iff.mp found
          obtain ⟨rest, whole, otherBehind⟩ := decomposes_literal_iff.mp decomposition
          rw [(Place.past?_eq_some_iff.mp moved).1] at whole
          rw [← List.append_cancel_left whole] at otherBehind
          exact (ih behind other otherBehind).imp id (.literal text)
      | capture name isLazy =>
          obtain ⟨span, rest, others, whole, rfl, otherBehind⟩ :=
            decomposes_capture_iff.mp decomposition
          obtain ⟨count, first, within, rfl, behind, settled⟩ := exists_end_of_search_capture found
          have length : (place.rest.take count).length = count := List.length_take_of_le within
          rcases settled span rest others whole otherBehind with rfl | tried
          · have sameSpan : place.rest.take span.length = span := by simp [whole]
            have sameRest : (place.advance span.length).rest = rest := by
              simp [Place.advance, whole]
            rw [← sameRest] at otherBehind
            rw [sameSpan]
            rcases ih behind others otherBehind with rfl | preference
            · exact .inl rfl
            · exact .inr (.later name isLazy rfl preference)
          · -- An end that is tried later has another length already.
            right
            cases isLazy with
            | true =>
                refine .shorter name ?_
                simpa [TriedBefore, Place.advance, length] using tried
            | false =>
                refine .longer name ?_
                simpa [TriedBefore, Place.advance, length] using tried

theorem search_eq_none_iff {nodes : List Node} {place : Place} :
    search nodes place = none ↔ ∀ captured, ¬ Decomposes nodes place.rest captured := by
  constructor
  · exact not_decomposes_of_search_eq_none
  · intro impossible
    cases found : search nodes place with
    | none => rfl
    | some captured => exact (impossible captured (decomposes_of_search_eq_some found)).elim

end LicenseSeal.Grammar
