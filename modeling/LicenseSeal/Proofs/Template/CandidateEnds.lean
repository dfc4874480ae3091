import LicenseSeal.Proofs.Template.Decomposition
import LicenseSeal.Template.Grammar.Match

/-!
# Candidate ends of a capture

The ends that are tried for a capture.  The search for a text finds every place where the text
stands, so that the ends leave out none from which the next node can begin; they stand in the order
of preference.  Main statement: `captureEnds_spec`.
-/

namespace LicenseSeal.Grammar

namespace Place

/-- The place behind the first characters of a document. -/
def behind (document : Text) (offset : Nat) : Place :=
  ⟨offset, document.drop offset⟩

def advance (place : Place) (count : Nat) : Place :=
  ⟨place.offset + count, place.rest.drop count⟩

theorem offset_behind (document : Text) (offset : Nat) : (behind document offset).offset = offset :=
  rfl

theorem advance_behind (document : Text) (offset count : Nat) :
    (behind document offset).advance count = behind document (offset + count) := by
  simp [advance, behind]

theorem final_eq_advance (place : Place) : place.final = place.advance place.rest.length := by
  simp [final, advance]

private theorem allFrom_eq_map (offset : Nat) (rest : Text) :
    allFrom offset rest = (List.range (rest.length + 1)).map (Place.mk offset rest).advance := by
  induction rest generalizing offset with
  | nil => rfl
  | cons c rest ih =>
      have counts : List.range (rest.length + 1 + 1) =
          0 :: (List.range (rest.length + 1)).map Nat.succ := List.range_succ_eq_map
      rw [allFrom, ih, List.length_cons, counts, List.map_cons, List.map_map]
      congr 1
      apply List.map_congr_left
      intro count _
      simp only [Function.comp_apply, advance, List.drop_succ_cons]
      congr 1
      omega

theorem onward_eq_map (place : Place) :
    place.onward = (List.range (place.rest.length + 1)).map place.advance :=
  allFrom_eq_map place.offset place.rest

theorem onward_ascending (place : Place) :
    place.onward.Pairwise fun earlier later => earlier.offset < later.offset := by
  rw [onward_eq_map, List.pairwise_map]
  refine List.pairwise_lt_range.imp ?_
  intro first second less
  simpa [advance] using less

theorem mem_onward_iff {place later : Place} :
    later ∈ place.onward ↔ ∃ count ≤ place.rest.length, later = place.advance count := by
  rw [onward_eq_map, List.mem_map]
  constructor
  · rintro ⟨count, member, rfl⟩
    exact ⟨count, Nat.lt_succ_iff.mp (List.mem_range.mp member), rfl⟩
  · rintro ⟨count, within, rfl⟩
    exact ⟨count, List.mem_range.mpr (Nat.lt_succ_of_le within), rfl⟩

/-- The places of a document from an offset on, by the offsets that they have themselves. -/
theorem exists_advance_behind_iff {document : Text} {offset : Nat} {later : Place}
    {Holds : Text → Prop} (inside : offset ≤ document.length) :
    (∃ count ≤ (behind document offset).rest.length,
        Holds ((behind document offset).rest.drop count) ∧
          later = (behind document offset).advance count) ↔
      ∃ stop, offset ≤ stop ∧ stop ≤ document.length ∧ Holds (document.drop stop) ∧
        later = behind document stop := by
  have length : (behind document offset).rest.length = document.length - offset :=
    List.length_drop
  have rest (count : Nat) :
      (behind document offset).rest.drop count = document.drop (offset + count) :=
    List.drop_drop
  constructor
  · rintro ⟨count, within, holds, rfl⟩
    rw [rest] at holds
    exact ⟨offset + count, by omega, by omega, holds, advance_behind document offset count⟩
  · rintro ⟨stop, reached, within, holds, rfl⟩
    have same : offset + (stop - offset) = stop := Nat.add_sub_cancel' reached
    refine ⟨stop - offset, by omega, ?_, ?_⟩
    · rw [rest, same]
      exact holds
    · rw [advance_behind, same]

theorem shows_iff {text : Text} {place : Place} :
    place.shows text ↔ ∃ rest, place.rest = text ++ rest := by
  simp only [shows, Option.isSome_iff_exists, Text.dropLead?_eq_some_iff]

theorem past?_eq_some_iff {text : Text} {place later : Place} :
    place.past? text = some later ↔
      place.rest = text ++ later.rest ∧ later = place.advance text.length := by
  simp only [past?, Option.map_eq_some_iff, Text.dropLead?_eq_some_iff]
  constructor
  · rintro ⟨rest, whole, rfl⟩
    exact ⟨whole, by simp [advance, whole]⟩
  · rintro ⟨whole, moved⟩
    refine ⟨later.rest, whole, ?_⟩
    rw [moved, advance, whole]

/-! ### Occurrences of a text -/

private theorem firstFrom?_eq_find? (text : Text) (offset : Nat) (rest : Text) :
    firstFrom? text offset rest = (allFrom offset rest).find? (shows text) := by
  induction rest generalizing offset with
  | nil => by_cases here : shows text ⟨offset, []⟩ <;> simp [firstFrom?, allFrom, here]
  | cons c rest ih =>
      by_cases here : shows text ⟨offset, c :: rest⟩
      · simp [firstFrom?, allFrom, here]
      · simp [firstFrom?, allFrom, here, ih]

private theorem eq_onward_of_allFrom_eq {offset : Nat} {rest : Text} {before after : List Place}
    {place : Place} (split : allFrom offset rest = before ++ place :: after) :
    place :: after = place.onward := by
  induction rest generalizing offset before with
  | nil =>
      cases before with
      | nil =>
          obtain ⟨rfl, rfl⟩ := List.cons.inj split
          rfl
      | cons first before => simp [allFrom] at split
  | cons c rest ih =>
      cases before with
      | nil =>
          obtain ⟨rfl, rfl⟩ := List.cons.inj split
          rfl
      | cons first before => exact ih (List.cons.inj split).2

theorem onward_of_next?_eq_none {place : Place} (last : place.next? = none) :
    place.onward = [place] := by
  match place, last with
  | ⟨_, []⟩, _ => rfl

theorem onward_of_next?_eq_some {place next : Place} (moved : place.next? = some next) :
    place.onward = place :: next.onward := by
  match place, moved with
  | ⟨_, _ :: _⟩, moved =>
      obtain rfl := Option.some.inj moved
      rfl

/-- A place that is found first splits the places from here on: the text stands at none in front of
it. -/
private theorem filter_onward_of_first? {text : Text} {place found : Place}
    (finds : place.first? text = some found) :
    place.onward.filter (shows text) = found.onward.filter (shows text) ∧
      found.shows text = true := by
  rw [first?, firstFrom?_eq_find?, List.find?_eq_some_iff_append] at finds
  obtain ⟨here, before, after, split, skipped⟩ := finds
  have nothing : before.filter (shows text) = [] := by
    rw [List.filter_eq_nil_iff]
    intro earlier member
    simpa using skipped earlier member
  refine ⟨?_, here⟩
  rw [← eq_onward_of_allFrom_eq split, onward, split, List.filter_append, nothing, List.nil_append]

/-- Searching again behind every place that was found finds all places where a text stands. -/
theorem occurrences_eq_filter (text : Text) (place : Place) :
    place.occurrences text = place.onward.filter (shows text) := by
  induction place using occurrences.induct text with
  | case1 place absent =>
      rw [occurrences_of_absent absent]
      rw [first?, firstFrom?_eq_find?, List.find?_eq_none] at absent
      exact (List.filter_eq_nil_iff.mpr absent).symm
  | case2 place found finds last =>
      obtain ⟨same, here⟩ := filter_onward_of_first? finds
      rw [occurrences_of_last finds last, same, onward_of_next?_eq_none last]
      simp [here]
  | case3 place found finds next moved ih =>
      obtain ⟨same, here⟩ := filter_onward_of_first? finds
      rw [occurrences_of_next finds moved, same, onward_of_next?_eq_some moved, ih]
      simp [here]

theorem mem_occurrences_iff {text : Text} {place later : Place} :
    later ∈ place.occurrences text ↔
      ∃ count ≤ place.rest.length, text <+: place.rest.drop count ∧
        later = place.advance count := by
  rw [occurrences_eq_filter, List.mem_filter, mem_onward_iff]
  constructor
  · rintro ⟨⟨count, within, rfl⟩, here⟩
    obtain ⟨rest, whole⟩ := shows_iff.mp here
    exact ⟨count, within, ⟨rest, whole.symm⟩, rfl⟩
  · rintro ⟨count, within, ⟨rest, whole⟩, rfl⟩
    exact ⟨⟨count, within, rfl⟩, shows_iff.mpr ⟨rest, whole.symm⟩⟩

theorem occurrences_ascending (text : Text) (place : Place) :
    (place.occurrences text).Pairwise fun earlier later => earlier.offset < later.offset := by
  rw [occurrences_eq_filter]
  exact place.onward_ascending.filter _

end Place

/-! ### Ends of a capture -/

/-- One place is tried before another one: the nearer one first if the capture is lazy. -/
def TriedBefore (isLazy : Bool) (earlier later : Place) : Prop :=
  if isLazy then earlier.offset < later.offset else later.offset < earlier.offset

private theorem directed_pairwise {isLazy : Bool} {ends : List Place}
    (ascending : ends.Pairwise fun earlier later => earlier.offset < later.offset) :
    (captureEnds.directed isLazy ends).Pairwise (TriedBefore isLazy) := by
  cases isLazy with
  | true => exact ascending
  | false => exact List.pairwise_reverse.mpr ascending

private theorem mem_directed_iff {isLazy : Bool} {ends : List Place} {place : Place} :
    place ∈ captureEnds.directed isLazy ends ↔ place ∈ ends := by
  cases isLazy with
  | true => rfl
  | false => exact List.mem_reverse

theorem captureEnds_pairwise (isLazy : Bool) (nodes : List Node) (place : Place) :
    (captureEnds isLazy nodes place).Pairwise (TriedBefore isLazy) := by
  match nodes with
  | [] => exact List.pairwise_singleton _ _
  | .literal text :: _ => exact directed_pairwise (place.occurrences_ascending text)
  | .capture _ _ :: _ => exact directed_pairwise place.onward_ascending

/-- Some text can be what is left for nodes, as far as the first of them tells: a literal stands in
front of it, a capture can begin anywhere, and only the end of the document is left for none. -/
def CanBegin : List Node → Text → Prop
  | [], rest => rest = []
  | .literal text :: _, rest => text <+: rest
  | .capture _ _ :: _, _ => True

theorem Decomposes.canBegin {nodes : List Node} {document : Text} {captured : List Text}
    (decomposition : Decomposes nodes document captured) : CanBegin nodes document := by
  cases decomposition with
  | nil => rfl
  | literal text _ => exact List.prefix_append text _
  | capture _ _ _ _ => trivial

theorem mem_captureEnds_iff {isLazy : Bool} {nodes : List Node} {place later : Place} :
    later ∈ captureEnds isLazy nodes place ↔
      ∃ count ≤ place.rest.length, CanBegin nodes (place.rest.drop count) ∧
        later = place.advance count := by
  match nodes with
  | [] =>
      rw [captureEnds, List.mem_singleton, Place.final_eq_advance]
      constructor
      · rintro rfl
        exact ⟨place.rest.length, Nat.le_refl _, List.drop_length, rfl⟩
      · rintro ⟨count, within, nothing, rfl⟩
        rw [Nat.le_antisymm within (List.drop_eq_nil_iff.mp nothing)]
  | .literal text :: _ => exact mem_directed_iff.trans Place.mem_occurrences_iff
  | .capture _ _ :: _ =>
      rw [captureEnds, mem_directed_iff, Place.mem_onward_iff]
      simp only [CanBegin, true_and]

theorem exists_advance_of_mem_captureEnds {isLazy : Bool} {nodes : List Node} {place later : Place}
    (member : later ∈ captureEnds isLazy nodes place) :
    ∃ count ≤ place.rest.length, later = place.advance count := by
  obtain ⟨count, within, -, moved⟩ := mem_captureEnds_iff.mp member
  exact ⟨count, within, moved⟩

/-- The ends of a capture leave out none that a decomposition of the document uses. -/
theorem advance_mem_captureEnds (isLazy : Bool) {nodes : List Node} {place : Place}
    {span rest : Text} {captured : List Text} (whole : place.rest = span ++ rest)
    (decomposition : Decomposes nodes rest captured) :
    place.advance span.length ∈ captureEnds isLazy nodes place := by
  refine mem_captureEnds_iff.mpr ⟨span.length, ?_, ?_, rfl⟩
  · rw [whole, List.length_append]
    exact Nat.le_add_right _ _
  · rw [whole, List.drop_left]
    exact decomposition.canBegin

private theorem offset_mem_iff {places : List Place} {document : Text} {offset stop : Nat}
    {Holds : Text → Prop}
    (members : ∀ later, later ∈ places ↔ ∃ stop, offset ≤ stop ∧ stop ≤ document.length ∧
      Holds (document.drop stop) ∧ later = .behind document stop) :
    stop ∈ places.map Place.offset ↔
      offset ≤ stop ∧ stop ≤ document.length ∧ Holds (document.drop stop) := by
  rw [List.mem_map]
  constructor
  · rintro ⟨later, member, rfl⟩
    obtain ⟨stop, reached, within, holds, rfl⟩ := (members later).mp member
    exact ⟨reached, within, holds⟩
  · rintro ⟨reached, within, holds⟩
    exact ⟨.behind document stop, (members _).mpr ⟨stop, reached, within, holds, rfl⟩, rfl⟩

/-- The search for a text ends and gives every place from an offset on where the text stands, in
ascending order.  So the ends of a capture are the places from its beginning on at which the next
node can begin, each of them once, ascending if the capture is lazy and descending if it is not, and
no end that a decomposition uses is left out. -/
theorem captureEnds_spec (document : Text) {offset : Nat} (inside : offset ≤ document.length) :
    (∀ text,
      let found := (Place.behind document offset).occurrences text
      (found.map Place.offset).Pairwise (· < ·) ∧
        (∀ later ∈ found, later = .behind document later.offset) ∧
        ∀ stop, stop ∈ found.map Place.offset ↔
          offset ≤ stop ∧ stop ≤ document.length ∧ text <+: document.drop stop) ∧
    ∀ isLazy nodes,
      let ends := captureEnds isLazy nodes (.behind document offset)
      (ends.map Place.offset).Pairwise
          (fun earlier later => if isLazy then earlier < later else later < earlier) ∧
        (∀ later ∈ ends, later = .behind document later.offset) ∧
        (∀ stop, stop ∈ ends.map Place.offset ↔
          offset ≤ stop ∧ stop ≤ document.length ∧ CanBegin nodes (document.drop stop)) ∧
        ∀ span rest captured, document.drop offset = span ++ rest →
          Decomposes nodes rest captured → offset + span.length ∈ ends.map Place.offset := by
  have ofDocument {places : List Place} {Holds : Text → Prop}
      (members : ∀ later, later ∈ places ↔ ∃ stop, offset ≤ stop ∧ stop ≤ document.length ∧
        Holds (document.drop stop) ∧ later = .behind document stop) :
      ∀ later ∈ places, later = .behind document later.offset := by
    intro later member
    obtain ⟨stop, -, -, -, rfl⟩ := (members later).mp member
    rfl
  constructor
  · intro text found
    have members (later : Place) : later ∈ found ↔ _ :=
      Place.mem_occurrences_iff.trans (Place.exists_advance_behind_iff inside)
    refine ⟨?_, ofDocument members, fun stop => offset_mem_iff members⟩
    exact List.pairwise_map.mpr (Place.occurrences_ascending text _)
  · intro isLazy nodes ends
    have members (later : Place) : later ∈ ends ↔ _ :=
      mem_captureEnds_iff.trans (Place.exists_advance_behind_iff inside)
    refine ⟨?_, ofDocument members, fun stop => offset_mem_iff members, ?_⟩
    · exact List.pairwise_map.mpr (captureEnds_pairwise isLazy nodes _)
    · intro span rest captured whole decomposition
      exact List.mem_map.mpr ⟨_, advance_mem_captureEnds isLazy whole decomposition, rfl⟩

/-- In three equal letters a text of two of them is found twice, the empty text is found at the end,
and a greedy capture tries the later place first. -/
theorem captureEnds_spec_overlapping :
    let document := "xaaa".text
    1 ≤ document.length ∧ 4 ≤ document.length ∧
      ((Place.behind document 1).occurrences "aa".text).map Place.offset = [1, 2] ∧
      ((Place.behind document 4).occurrences []).map Place.offset = [4] ∧
      (∀ stop, stop ∈ [4] ↔ 4 ≤ stop ∧ stop ≤ 4 ∧ [] <+: document.drop stop) ∧
      (captureEnds false [.literal "aa".text] (.behind document 1)).map Place.offset = [2, 1] ∧
      ∀ stop, stop ∈ [2, 1] ↔ 1 ≤ stop ∧ stop ≤ 4 ∧ "aa".text <+: document.drop stop := by
  intro document
  have within : 1 ≤ document.length := by decide
  have atEnd : 4 ≤ document.length := by decide
  have last : ((Place.behind document 4).occurrences []).map Place.offset = [4] := by
    decide +kernel
  have ends : (captureEnds false [.literal "aa".text] (.behind document 1)).map Place.offset =
      [2, 1] := by decide +kernel
  have found := ((captureEnds_spec document atEnd).1 []).2.2
  have tried := ((captureEnds_spec document within).2 false [.literal "aa".text]).2.2.1
  rw [last] at found
  rw [ends] at tried
  exact ⟨within, atEnd, by decide +kernel, last, found, ends, tried⟩

end LicenseSeal.Grammar
