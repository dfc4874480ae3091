import LicenseSeal.Template.Scan
import Mathlib.Data.List.Nodup
import Mathlib.Data.List.Perm.Basic
import Mathlib.Data.List.TakeWhile

/-!
# Fragments in one pass

Unsupported fragments are looked for twice in a literal: the braced ones first, and the pairs of
braces in what they leave.  The same are found in one pass from left to right, which takes a pair of
braces at once if no braced fragment begins one character later.
-/

namespace LicenseSeal

open Placeholder (opening closing)

/-- The texts of the fragments of a kind. -/
def UnsupportedKind.Shows : UnsupportedKind → Text → Prop
  | .invalidFormat, text =>
      ∃ inner, (∀ c ∈ inner, Template.isPlain c = true) ∧ text = opening ++ inner ++ closing
  | .unclosedOpen, text => text = opening
  | .strayClose, text => text = closing

namespace UnsupportedKind

theorem Shows.unique {kind kind' : UnsupportedKind} {text : Text} (shows' : kind.Shows text)
    (shows'' : kind'.Shows text) : kind = kind' := by
  cases kind with
  | invalidFormat =>
      obtain ⟨inner, -, rfl⟩ := shows'
      cases kind' with
      | invalidFormat => rfl
      | unclosedOpen => simp [Shows, opening, closing] at shows''
      | strayClose => simp [Shows, opening, closing] at shows''
  | unclosedOpen =>
      obtain rfl := shows'
      cases kind' with
      | invalidFormat =>
          obtain ⟨inner, -, same⟩ := shows''
          simp [opening, closing] at same
      | unclosedOpen => rfl
      | strayClose => simp [Shows, opening, closing] at shows''
  | strayClose =>
      obtain rfl := shows'
      cases kind' with
      | invalidFormat =>
          obtain ⟨inner, -, same⟩ := shows''
          simp [opening, closing] at same
      | unclosedOpen => simp [Shows, opening, closing] at shows''
      | strayClose => rfl

theorem Shows.holdsDelimiter {kind : UnsupportedKind} {text : Text} (shows' : kind.Shows text) :
    opening <:+: text ∨ closing <:+: text := by
  cases kind with
  | invalidFormat =>
      obtain ⟨inner, -, rfl⟩ := shows'
      left
      exact ⟨[], inner ++ closing, by simp⟩
  | unclosedOpen =>
      obtain rfl := shows'
      exact .inl List.infix_rfl
  | strayClose =>
      obtain rfl := shows'
      exact .inr List.infix_rfl

theorem Shows.length_pos {kind : UnsupportedKind} {text : Text} (shows' : kind.Shows text) :
    0 < text.length := by
  rw [List.length_pos_iff]
  rintro rfl
  rcases shows'.holdsDelimiter with opened | closed
  · exact absurd (List.infix_nil.mp opened) (by decide)
  · exact absurd (List.infix_nil.mp closed) (by decide)

end UnsupportedKind

namespace Template

/-! ### The fragment at the front -/

/-- The fragment at the front of a literal text.  Opening braces that a braced fragment one
character later needs are left to it. -/
def fragment? (text : Text) : Option Fragment :=
  (braced? text).or <|
    match Text.dropLead? Placeholder.opening text with
    | some rest =>
        if (braced? text.tail).isSome then none
        else some ⟨.unclosedOpen, Placeholder.opening, rest⟩
    | none =>
        (Text.dropLead? Placeholder.closing text).map fun rest =>
          ⟨.strayClose, Placeholder.closing, rest⟩

theorem fragment?_eq_append {text : Text} {found : Fragment}
    (read : fragment? text = some found) : text = found.text ++ found.rest := by
  simp only [fragment?, Option.or_eq_some_iff] at read
  rcases read with whole | ⟨_, alone⟩
  · exact braced?_eq_append whole
  · split at alone
    · next rest opened =>
        split at alone
        · cases alone
        · cases alone
          exact Text.dropLead?_eq_some_iff.mp opened
    · rw [Option.map_eq_some_iff] at alone
      obtain ⟨rest, closed, rfl⟩ := alone
      exact Text.dropLead?_eq_some_iff.mp closed

theorem fragment?_text_ne_nil {text : Text} {found : Fragment}
    (read : fragment? text = some found) : found.text ≠ [] := by
  simp only [fragment?, Option.or_eq_some_iff] at read
  rcases read with whole | ⟨_, alone⟩
  · exact braced?_text_ne_nil whole
  · split at alone
    · split at alone
      · cases alone
      · cases alone
        simp [Placeholder.opening]
    · rw [Option.map_eq_some_iff] at alone
      obtain ⟨rest, _, rfl⟩ := alone
      simp [Placeholder.closing]

theorem length_fragment_rest_lt {text : Text} {found : Fragment}
    (read : fragment? text = some found) : found.rest.length < text.length := by
  rw [fragment?_eq_append read, List.length_append]
  have := List.length_pos_iff.mpr (fragment?_text_ne_nil read)
  omega

/-- The fragments of a literal text that stands at a position. -/
def fragmentsFrom (start : Nat) (text : Text) : List Unsupported :=
  match text with
  | [] => []
  | c :: rest =>
      match _read : fragment? (c :: rest) with
      | some found =>
          ⟨found.kind, found.text, start⟩ ::
            fragmentsFrom (start + found.text.length) found.rest
      | none => fragmentsFrom (start + 1) rest
termination_by text.length
decreasing_by
  · exact length_fragment_rest_lt _read
  · simp

theorem fragmentsFrom_of_some {start : Nat} {c : CodePoint} {rest : Text} {found : Fragment}
    (read : fragment? (c :: rest) = some found) :
    fragmentsFrom start (c :: rest) =
      ⟨found.kind, found.text, start⟩ :: fragmentsFrom (start + found.text.length) found.rest := by
  rw [fragmentsFrom]
  split
  · next found' read' =>
      obtain rfl := Option.some.inj (read.symm.trans read')
      rfl
  · next read' =>
      rw [read] at read'
      cases read'

theorem fragmentsFrom_of_none {start : Nat} {c : CodePoint} {rest : Text}
    (unread : fragment? (c :: rest) = none) :
    fragmentsFrom start (c :: rest) = fragmentsFrom (start + 1) rest := by
  rw [fragmentsFrom]
  split
  · next found read =>
      rw [unread] at read
      cases read
  · rfl

section Front

variable {text : Text} {found : Fragment}

theorem isPlain_eq_true_iff {c : CodePoint} : isPlain c = true ↔ c ≠ '\x7b' ∧ c ≠ '\x7d' := by
  simp [isPlain]

theorem braced?_append {inner : Text} (plain : ∀ c ∈ inner, isPlain c = true) (back : Text) :
    braced? (opening ++ inner ++ closing ++ back) =
      some ⟨.invalidFormat, opening ++ inner ++ closing, back⟩ := by
  have opened : Text.dropLead? opening (opening ++ inner ++ closing ++ back) =
      some (inner ++ (closing ++ back)) := by
    rw [Text.dropLead?_eq_some_iff]
    simp
  have ends : (closing ++ back).takeWhile isPlain = [] := rfl
  have ends' : (closing ++ back).dropWhile isPlain = closing ++ back := rfl
  have closed : Text.dropLead? closing (closing ++ back) = some back :=
    Text.dropLead?_eq_some_iff.mpr rfl
  simp only [braced?, opened, Option.bind_eq_bind, Option.bind_some,
    List.takeWhile_append_of_pos plain, List.dropWhile_append_of_pos plain, ends, ends', closed,
    List.append_nil]

theorem braced?_parts (read : braced? text = some found) :
    ∃ inner, (∀ c ∈ inner, isPlain c = true) ∧ found.kind = .invalidFormat ∧
      found.text = opening ++ inner ++ closing := by
  simp only [braced?, Option.bind_eq_bind, Option.bind_eq_some_iff, Option.some.injEq] at read
  obtain ⟨inner, -, rest, -, rfl⟩ := read
  exact ⟨inner.takeWhile isPlain, fun c member => List.mem_takeWhile_imp member, rfl, rfl⟩

theorem fragment?_cases (read : fragment? text = some found) :
    braced? text = some found ∨ braced? text = none ∧
      ((∃ rest, found = ⟨.unclosedOpen, opening, rest⟩ ∧ braced? text.tail = none) ∨
        ∃ rest, found = ⟨.strayClose, closing, rest⟩) := by
  simp only [fragment?, Option.or_eq_some_iff] at read
  rcases read with whole | ⟨unbraced, alone⟩
  · exact .inl whole
  · split at alone
    · next rest opened =>
        by_cases braced : (braced? text.tail).isSome = true
        · rw [if_pos braced] at alone
          cases alone
        · rw [if_neg braced] at alone
          refine .inr ⟨unbraced, .inl ⟨rest, (Option.some.inj alone).symm, ?_⟩⟩
          exact Option.not_isSome_iff_eq_none.mp braced
    · obtain ⟨rest, -, same⟩ := Option.map_eq_some_iff.mp alone
      exact .inr ⟨unbraced, .inr ⟨rest, same.symm⟩⟩

theorem shows_of_fragment? (read : fragment? text = some found) :
    found.kind.Shows found.text := by
  rcases fragment?_cases read with whole | ⟨-, ⟨rest, rfl, -⟩ | ⟨rest, rfl⟩⟩
  · obtain ⟨inner, plain, kind, text⟩ := braced?_parts whole
    rw [kind]
    exact ⟨inner, plain, text⟩
  · rfl
  · rfl

theorem fragment?_of_braced? (read : braced? text = some found) : fragment? text = some found := by
  rw [fragment?, read, Option.some_or]

/-- Two opening braces are only passed over in front of a braced fragment. -/
theorem exists_braced?_of_opening (unread : fragment? ('\x7b' :: '\x7b' :: text) = none) :
    ∃ found, braced? ('\x7b' :: text) = some found := by
  simp only [fragment?, Option.or_eq_none_iff] at unread
  obtain ⟨-, alone⟩ := unread
  have opened : Text.dropLead? opening ('\x7b' :: '\x7b' :: text) = some text := rfl
  rw [opened] at alone
  by_cases braced : (braced? (List.tail ('\x7b' :: '\x7b' :: text))).isSome = true
  · exact Option.isSome_iff_exists.mp braced
  · simp only [if_neg braced] at alone
    cases alone

theorem fragment?_closing_ne_none : fragment? ('\x7d' :: '\x7d' :: text) ≠ none := by
  intro unread
  simp only [fragment?, Option.or_eq_none_iff] at unread
  cases unread.2

theorem braced?_eq_none_of_fragment? (unread : fragment? text = none) : braced? text = none :=
  (Option.or_eq_none_iff.mp unread).1

end Front

/-! ### The fragments of a literal -/

section Literal

variable {start : Nat} {text : Text} {fragment : Unsupported}

theorem exists_append_of_mem_fragmentsFrom (member : fragment ∈ fragmentsFrom start text) :
    ∃ front back, text = front ++ (fragment.text ++ back) ∧
      fragment.start = start + front.length := by
  induction start, text using fragmentsFrom.induct with
  | case1 start =>
      rw [fragmentsFrom] at member
      cases member
  | case2 start c rest found read ih =>
      rw [fragmentsFrom_of_some read] at member
      have whole := fragment?_eq_append read
      rcases List.mem_cons.mp member with rfl | later
      · exact ⟨[], found.rest, whole, rfl⟩
      · obtain ⟨front, back, same, position⟩ := ih later
        refine ⟨found.text ++ front, back, ?_, ?_⟩
        · rw [whole, same, List.append_assoc]
        · rw [position, List.length_append, Nat.add_assoc]
  | case3 start c rest unread ih =>
      rw [fragmentsFrom_of_none unread] at member
      obtain ⟨front, back, same, position⟩ := ih member
      refine ⟨c :: front, back, by rw [same, List.cons_append], ?_⟩
      rw [position, List.length_cons]
      omega

theorem shows_of_mem_fragmentsFrom (member : fragment ∈ fragmentsFrom start text) :
    fragment.kind.Shows fragment.text := by
  induction start, text using fragmentsFrom.induct with
  | case1 start =>
      rw [fragmentsFrom] at member
      cases member
  | case2 start c rest found read ih =>
      rw [fragmentsFrom_of_some read] at member
      rcases List.mem_cons.mp member with rfl | later
      · exact shows_of_fragment? read
      · exact ih later
  | case3 start c rest unread ih =>
      rw [fragmentsFrom_of_none unread] at member
      exact ih member

theorem within_of_mem_fragmentsFrom (member : fragment ∈ fragmentsFrom start text) :
    start ≤ fragment.start ∧ fragment.stop ≤ start + text.length := by
  obtain ⟨front, back, rfl, position⟩ := exists_append_of_mem_fragmentsFrom member
  simp only [Unsupported.stop, position, List.length_append]
  omega

theorem fragmentsFrom_pairwise (start : Nat) (text : Text) :
    (fragmentsFrom start text).Pairwise fun earlier later => earlier.stop ≤ later.start := by
  induction start, text using fragmentsFrom.induct with
  | case1 start =>
      rw [fragmentsFrom]
      exact .nil
  | case2 start c rest found read ih =>
      rw [fragmentsFrom_of_some read]
      refine .cons ?_ ih
      intro later member
      exact (within_of_mem_fragmentsFrom member).1
  | case3 start c rest unread ih =>
      rw [fragmentsFrom_of_none unread]
      exact ih

end Literal

/-! ### Two passes -/

section TwoPasses

variable {start : Nat} {text : Text}

theorem delimitersFrom_cons {c : CodePoint} {rest : Text}
    (alone : rest.head? = some c → c ≠ '\x7b' ∧ c ≠ '\x7d') :
    delimitersFrom start (c :: rest) = delimitersFrom (start + 1) rest := by
  rw [delimitersFrom.eq_def]
  split
  · next behind same =>
      obtain ⟨rfl, rfl⟩ := List.cons.inj same
      exact absurd rfl (alone rfl).1
  · next behind same =>
      obtain ⟨rfl, rfl⟩ := List.cons.inj same
      exact absurd rfl (alone rfl).2
  · next same =>
      obtain ⟨-, rfl⟩ := List.cons.inj same
      rfl
  · next same => cases same

theorem delimitersFrom_blanks (size : Nat) (rest : Text) :
    delimitersFrom start (List.replicate size (' ' : CodePoint) ++ rest) =
      delimitersFrom (start + size) rest := by
  induction size generalizing start with
  | zero => rfl
  | succ size ih =>
      rw [List.replicate_succ, List.cons_append, delimitersFrom_cons fun _ => by decide, ih,
        Nat.add_right_comm, Nat.add_assoc]

theorem bracedFrom_of_some {c : CodePoint} {rest : Text} {found : Fragment}
    (read : braced? (c :: rest) = some found) :
    bracedFrom start (c :: rest) =
      (⟨found.kind, found.text, start⟩ :: (bracedFrom (start + found.text.length) found.rest).1,
        List.replicate found.text.length (' ' : CodePoint) ++
          (bracedFrom (start + found.text.length) found.rest).2) := by
  rw [bracedFrom]
  split
  · next found' read' =>
      obtain rfl := Option.some.inj (read.symm.trans read')
      rfl
  · next read' =>
      rw [read] at read'
      cases read'

theorem bracedFrom_of_none {c : CodePoint} {rest : Text} (unread : braced? (c :: rest) = none) :
    bracedFrom start (c :: rest) =
      ((bracedFrom (start + 1) rest).1, c :: (bracedFrom (start + 1) rest).2) := by
  rw [bracedFrom]
  split
  · next found read =>
      rw [unread] at read
      cases read
  · rfl

/-- What the first pass leaves begins as the text does, or with a blank for a braced fragment. -/
theorem head?_bracedFrom {c : CodePoint} (visible : c ≠ ' ')
    (first : (bracedFrom start text).2.head? = some c) :
    text.head? = some c ∧ braced? text = none := by
  cases text with
  | nil =>
      rw [bracedFrom] at first
      cases first
  | cons d rest =>
      cases read : braced? (d :: rest) with
      | none =>
          rw [bracedFrom_of_none read] at first
          exact ⟨first, rfl⟩
      | some found =>
          obtain ⟨size, length⟩ := Nat.exists_eq_succ_of_ne_zero
            (Nat.ne_of_gt (List.length_pos_iff.mpr (braced?_text_ne_nil read)))
          simp only [bracedFrom_of_some read, length, List.replicate_succ] at first
          exact absurd (Option.some.inj first).symm visible

/-- The two passes find what the one pass does, the braced fragments first. -/
theorem bracedFrom_perm_fragmentsFrom (start : Nat) (text : Text) :
    ((bracedFrom start text).1 ++ delimitersFrom start (bracedFrom start text).2).Perm
      (fragmentsFrom start text) := by
  induction start, text using fragmentsFrom.induct with
  | case1 start => simp [bracedFrom, delimitersFrom, fragmentsFrom]
  | case2 start c rest found read ih =>
      rw [fragmentsFrom_of_some read]
      rcases fragment?_cases read with braced | ⟨unbraced, ⟨behind, rfl, lone⟩ | ⟨behind, rfl⟩⟩
      · rw [bracedFrom_of_some braced, delimitersFrom_blanks]
        exact ih.cons _
      · have whole : c :: rest = .char '\x7b' :: .char '\x7b' :: behind := fragment?_eq_append read
        obtain ⟨rfl, rfl⟩ := List.cons.inj whole
        rw [bracedFrom_of_none unbraced, bracedFrom_of_none lone]
        exact List.perm_middle.trans (ih.cons _)
      · have whole : c :: rest = .char '\x7d' :: .char '\x7d' :: behind := fragment?_eq_append read
        obtain ⟨rfl, rfl⟩ := List.cons.inj whole
        have lone : braced? ('\x7d' :: behind) = none := rfl
        rw [bracedFrom_of_none unbraced, bracedFrom_of_none lone]
        exact List.perm_middle.trans (ih.cons _)
  | case3 start c rest unread ih =>
      rw [fragmentsFrom_of_none unread, bracedFrom_of_none (braced?_eq_none_of_fragment? unread),
        delimitersFrom_cons]
      · exact ih
      · intro next
        -- A brace whose like is left behind it would have been taken together with it.
        constructor
        · rintro rfl
          obtain ⟨first, unbraced⟩ := head?_bracedFrom (by decide) next
          obtain ⟨behind, rfl⟩ := List.head?_eq_some_iff.mp first
          obtain ⟨found, braced⟩ := exists_braced?_of_opening unread
          cases unbraced.symm.trans braced
        · rintro rfl
          obtain ⟨first, -⟩ := head?_bracedFrom (by decide) next
          obtain ⟨behind, rfl⟩ := List.head?_eq_some_iff.mp first
          exact fragment?_closing_ne_none unread

theorem fragmentsAt_perm_fragmentsFrom (start : Nat) (text : Text) :
    (fragmentsAt start text).Perm (fragmentsFrom start text) := by
  rw [fragmentsAt]
  split
  · next bare =>
      have none : fragmentsFrom start text = [] := by
        rw [List.eq_nil_iff_forall_not_mem]
        intro fragment member
        obtain ⟨front, back, rfl, -⟩ := exists_append_of_mem_fragmentsFrom member
        have within : fragment.text <:+: front ++ (fragment.text ++ back) :=
          ⟨front, back, List.append_assoc _ _ _⟩
        rw [Bool.and_eq_true, Option.isNone_iff_eq_none, Option.isNone_iff_eq_none] at bare
        rcases (shows_of_mem_fragmentsFrom member).holdsDelimiter with opened | closed
        · have found := Text.isSome_cutAt?_iff.mpr (opened.trans within)
          rw [bare.1] at found
          cases found
        · have found := Text.isSome_cutAt?_iff.mpr (closed.trans within)
          rw [bare.2] at found
          cases found
      rw [none]
  · exact bracedFrom_perm_fragmentsFrom start text

end TwoPasses

end Template

namespace Scan

theorem start_le_of_mem_placedFrom {start : Nat} {segments : List Segment} {place : Segment × Nat}
    (member : place ∈ placedFrom start segments) : start ≤ place.2 := by
  induction segments generalizing start with
  | nil => cases member
  | cons segment segments ih =>
      rcases List.mem_cons.mp member with rfl | later
      · exact Nat.le_refl start
      · exact Nat.le_trans (Nat.le_add_right _ _) (ih later)

theorem placedFrom_pairwise (start : Nat) (segments : List Segment) :
    (placedFrom start segments).Pairwise fun earlier later =>
      earlier.2 + earlier.1.source.length ≤ later.2 := by
  induction segments generalizing start with
  | nil => exact .nil
  | cons segment segments ih => exact .cons (fun _ later => start_le_of_mem_placedFrom later) (ih _)

/-- The fragments of a segment at a place, found in one pass. -/
def fragmentsIn : Segment × Nat → List Unsupported
  | (.literal text, start) => Template.fragmentsFrom start text
  | (.token _ _, _) => []

theorem flatMap_fragmentsIn_pairwise (scan : Scan) :
    (scan.placed.flatMap fragmentsIn).Pairwise fun earlier later =>
      earlier.stop ≤ later.start := by
  rw [List.pairwise_flatMap]
  constructor
  · rintro ⟨segment, start⟩ -
    cases segment with
    | literal text => exact Template.fragmentsFrom_pairwise start text
    | token name raw => exact .nil
  · refine (placedFrom_pairwise 0 scan.segments).imp ?_
    rintro ⟨segment, start⟩ ⟨segment', start'⟩ apart fragment inside fragment' inside'
    cases segment with
    | token name raw => cases inside
    | literal text =>
        cases segment' with
        | token name raw => cases inside'
        | literal text' =>
            have ends := (Template.within_of_mem_fragmentsFrom inside).2
            have begins := (Template.within_of_mem_fragmentsFrom inside').1
            exact Nat.le_trans ends (Nat.le_trans apart begins)

/-- Sorted by their places, the fragments of the two passes are those of the one pass. -/
theorem unsupported_eq (scan : Scan) : scan.unsupported = scan.placed.flatMap fragmentsIn := by
  have increasing : (scan.placed.flatMap fragmentsIn).Pairwise fun earlier later =>
      earlier.start < later.start := by
    refine (flatMap_fragmentsIn_pairwise scan).imp_of_mem ?_
    intro earlier later member _ apart
    obtain ⟨⟨segment, start⟩, -, inside⟩ := List.mem_flatMap.mp member
    cases segment with
    | token name raw => cases inside
    | literal text =>
        have nonempty := (Template.shows_of_mem_fragmentsFrom inside).length_pos
        rw [Unsupported.stop] at apart
        omega
  rw [unsupported]
  generalize sameSearch : (scan.placed.flatMap fun
    | (.literal text, start) => Template.fragmentsAt start text
    | (.token _ _, _) => []) = found
  have same : found.Perm (scan.placed.flatMap fragmentsIn) := by
    rw [← sameSearch]
    refine List.Perm.flatMap_left scan.placed ?_
    rintro ⟨segment, start⟩ -
    cases segment with
    | literal text => exact Template.fragmentsAt_perm_fragmentsFrom start text
    | token name raw => exact .nil
  have starts : ((scan.placed.flatMap fragmentsIn).map Unsupported.start).Nodup := by
    rw [List.Nodup, List.pairwise_map]
    exact increasing.imp Nat.ne_of_lt
  have sorts := List.mergeSort_perm found fun first second => decide (first.start ≤ second.start)
  refine (sorts.trans same).eq_of_pairwise ?_
    (List.pairwise_mergeSort (by simp; omega) (by simp; omega) found)
    (increasing.imp fun before => decide_eq_true (Nat.le_of_lt before))
  intro first second member member' before after
  have member := (sorts.trans same).mem_iff.mp member
  exact List.inj_on_of_nodup_map starts member member'
    (Nat.le_antisymm (of_decide_eq_true before) (of_decide_eq_true after))

end Scan

end LicenseSeal
