import LicenseSeal.Proofs.Template.OnePassFragments
import LicenseSeal.Proofs.Template.Tokenization

/-!
# Unsupported fragments

The fragments that are reported of a template lie in order and apart inside its literals.  They are
all that there is to report: with their places blanked, no literal holds two opening or two closing
braces next to each other, and every braced fragment is reported as a whole.
-/

namespace LicenseSeal

open Placeholder (opening closing)

namespace Unsupported

/-- A fragment stands at a position of the template. -/
def Covers (fragment : Unsupported) (position : Nat) : Prop :=
  fragment.start ≤ position ∧ position < fragment.stop

instance (fragment : Unsupported) (position : Nat) : Decidable (fragment.Covers position) :=
  inferInstanceAs (Decidable (_ ∧ _))

end Unsupported

namespace Template

/-- A text that stands at a position, with blanks where fragments stand. -/
def blanked (fragments : List Unsupported) (start : Nat) : Text → Text
  | [] => []
  | c :: rest =>
      (if ∃ fragment ∈ fragments, fragment.Covers start then ' ' else c) ::
        blanked fragments (start + 1) rest

section Blanked

variable {fragments fragments' : List Unsupported} {start : Nat} {text : Text}

theorem blanked_append (fragments : List Unsupported) (start : Nat) (front back : Text) :
    blanked fragments start (front ++ back) =
      blanked fragments start front ++ blanked fragments (start + front.length) back := by
  induction front generalizing start with
  | nil => rfl
  | cons c front ih =>
      rw [List.cons_append, blanked, blanked, ih, List.cons_append, List.length_cons]
      congr 3
      omega

theorem blanked_congr (same : ∀ position, start ≤ position → position < start + text.length →
      ((∃ fragment ∈ fragments, fragment.Covers position) ↔
        ∃ fragment ∈ fragments', fragment.Covers position)) :
    blanked fragments start text = blanked fragments' start text := by
  induction text generalizing start with
  | nil => rfl
  | cons c text ih =>
      rw [blanked, blanked]
      rw [ih fun position above below => same position (by omega) (by simp; omega)]
      have here := same start (Nat.le_refl _) (by simp)
      simp only [here]

theorem blanked_nil (start : Nat) (text : Text) : blanked [] start text = text := by
  induction text generalizing start with
  | nil => rfl
  | cons c text ih => simp [blanked, ih]

theorem eq_blank_of_mem_blanked (covered : ∀ position, start ≤ position →
      position < start + text.length → ∃ fragment ∈ fragments, fragment.Covers position)
    {c : CodePoint} (member : c ∈ blanked fragments start text) : c = ' ' := by
  induction text generalizing start with
  | nil => cases member
  | cons first text ih =>
      rw [blanked, if_pos (covered start (Nat.le_refl _) (by simp)), List.mem_cons] at member
      rcases member with here | later
      · exact here
      · apply ih _ later
        intro position above below
        exact covered position (by omega) (by simp; omega)

end Blanked

/-- A doubled character that is not in the front of a text is behind it. -/
theorem infix_of_infix_append {c : CodePoint} {front back : Text} (absent : c ∉ front)
    (inside : [c, c] <:+: front ++ back) : [c, c] <:+: back := by
  induction front with
  | nil => exact inside
  | cons first front ih =>
      rw [List.cons_append, List.infix_cons_iff] at inside
      rcases inside with here | later
      · obtain ⟨same, -⟩ := List.cons_prefix_cons.mp here
        exact (absent (same ▸ List.mem_cons_self)).elim
      · exact ih (fun member => absent (List.mem_cons_of_mem _ member)) later

/-! ### The fragment at the front -/

section Front

variable {text : Text} {found : Fragment}

theorem brace_not_mem_append_closing {inner : Text} (plain : ∀ c ∈ inner, isPlain c = true) :
    CodePoint.char '\x7b' ∉ inner ++ closing := by
  intro member
  rcases List.mem_append.mp member with inside | atEnd
  · exact (isPlain_eq_true_iff.mp (plain _ inside)).1 rfl
  · exact absurd atEnd (by decide)

/-- A braced fragment that stands further behind does not reach into the one at the front. -/
theorem exists_eq_append_of_braced {front inner back : Text}
    (plain : ∀ c ∈ inner, isPlain c = true) (behind : front ≠ [])
    (whole : text = front ++ (opening ++ inner ++ closing ++ back))
    (read : fragment? text = some found) : ∃ between, front = found.text ++ between := by
  have parts := (fragment?_eq_append read).symm.trans whole
  rcases List.append_eq_append_iff.mp parts with ⟨between, same, -⟩ | ⟨overlap, same, shared⟩
  · exact ⟨between, same⟩
  · cases overlap with
    | nil => exact ⟨[], by rw [same, List.append_nil, List.append_nil]⟩
    | cons c overlap =>
        exfalso
        obtain ⟨rfl, sharedTail⟩ : .char '\x7b' = c ∧
            .char '\x7b' :: (inner ++ (closing ++ back)) = overlap ++ found.rest := by
          simpa [opening] using shared
        obtain ⟨first, front, rfl⟩ := List.exists_cons_of_ne_nil behind
        rcases fragment?_cases read with braced | ⟨-, ⟨rest, rfl, lone⟩ | ⟨rest, rfl⟩⟩
        · obtain ⟨inner', plain', -, shown⟩ := braced?_parts braced
          apply brace_not_mem_append_closing plain'
          obtain ⟨-, sameTail⟩ : .char '\x7b' = first ∧
              .char '\x7b' :: (inner' ++ closing) = front ++ CodePoint.char '\x7b' :: overlap := by
            simpa [shown, opening] using same
          cases front with
          | nil =>
              obtain rfl := (List.cons.inj sameTail).2
              cases inner' with
              | nil => cases sharedTail
              | cons d inner' =>
                  rw [← (List.cons.inj sharedTail).1]
                  exact List.mem_cons_self
          | cons second front =>
              rw [(List.cons.inj sameTail).2]
              simp
        · obtain ⟨rfl, rfl⟩ : front = [] ∧ overlap = [] := by
            have lengths := congrArg List.length same
            simp [opening] at lengths
            exact ⟨List.eq_nil_of_length_eq_zero (by omega),
              List.eq_nil_of_length_eq_zero (by omega)⟩
          rw [whole, List.singleton_append, List.tail_cons, braced?_append plain] at lone
          cases lone
        · have impossible : CodePoint.char '\x7b' ∈ closing := by
            change closing = _ at same
            rw [same]
            simp
          exact absurd impossible (by decide)

end Front

/-! ### The fragments of a literal -/

section Literal

variable {start : Nat} {text : Text} {fragment : Unsupported}

theorem mem_fragmentsFrom_of_braced {front inner back : Text}
    (plain : ∀ c ∈ inner, isPlain c = true)
    (whole : text = front ++ (opening ++ inner ++ closing ++ back)) :
    ⟨.invalidFormat, opening ++ inner ++ closing, start + front.length⟩ ∈
      fragmentsFrom start text := by
  induction start, text using fragmentsFrom.induct generalizing front with
  | case1 start => simp [opening] at whole
  | case2 start c rest found read ih =>
      rw [fragmentsFrom_of_some read]
      by_cases behind : front = []
      · subst behind
        have braced := fragment?_of_braced? (braced?_append plain back)
        rw [← List.nil_append (opening ++ _ ++ _ ++ _), ← whole] at braced
        obtain rfl := Option.some.inj (read.symm.trans braced)
        exact List.mem_cons_self
      · obtain ⟨between, rfl⟩ := exists_eq_append_of_braced plain behind whole read
        have later := fragment?_eq_append read
        rw [whole, List.append_assoc] at later
        have member := ih (List.append_cancel_left later).symm
        rw [List.length_append, ← Nat.add_assoc]
        exact List.mem_cons_of_mem _ member
  | case3 start c rest unread ih =>
      rw [fragmentsFrom_of_none unread]
      cases front with
      | nil =>
          have braced := fragment?_of_braced? (braced?_append plain back)
          rw [← List.nil_append (opening ++ _ ++ _ ++ _), ← whole, unread] at braced
          cases braced
      | cons first front =>
          have member := ih (List.cons.inj whole).2
          rw [List.length_cons, Nat.add_comm front.length 1, ← Nat.add_assoc]
          exact member

theorem covers_of_mem_cons {rest : List Unsupported} {position : Nat}
    (above : fragment.stop ≤ position) :
    (∃ other ∈ fragment :: rest, other.Covers position) ↔
      ∃ other ∈ rest, other.Covers position := by
  constructor
  · rintro ⟨other, member, covers⟩
    rcases List.mem_cons.mp member with rfl | later
    · exact absurd covers.2 (by omega)
    · exact ⟨other, later, covers⟩
  · rintro ⟨other, member, covers⟩
    exact ⟨other, List.mem_cons_of_mem _ member, covers⟩

theorem blanked_cons_fragmentsFrom (start : Nat) (c : CodePoint) (rest : Text) :
    blanked (fragmentsFrom (start + 1) rest) start (c :: rest) =
      c :: blanked (fragmentsFrom (start + 1) rest) (start + 1) rest := by
  rw [blanked, if_neg]
  rintro ⟨fragment, member, covers⟩
  have := (within_of_mem_fragmentsFrom member).1
  have := covers.1
  omega

/-- The place of what is found at the front is blank, and what is behind is as if it stood alone. -/
theorem infix_behind_of_infix_blanked {c d : CodePoint} {rest : Text} {found : Fragment}
    (read : fragment? (c :: rest) = some found) (visible : d ≠ ' ')
    (inside : [d, d] <:+: blanked (fragmentsFrom start (c :: rest)) start (c :: rest)) :
    [d, d] <:+: blanked (fragmentsFrom (start + found.text.length) found.rest)
      (start + found.text.length) found.rest := by
  rw [fragmentsFrom_of_some read, fragment?_eq_append read, blanked_append] at inside
  have alone : blanked (⟨found.kind, found.text, start⟩ ::
        fragmentsFrom (start + found.text.length) found.rest)
      (start + found.text.length) found.rest =
        blanked (fragmentsFrom (start + found.text.length) found.rest)
          (start + found.text.length) found.rest :=
    blanked_congr fun position above _ => covers_of_mem_cons above
  rw [← alone]
  apply infix_of_infix_append _ inside
  intro member
  apply visible
  apply eq_blank_of_mem_blanked _ member
  intro position above below
  exact ⟨_, List.mem_cons_self, above, below⟩

/-- A doubled character of a blanked text that is not in its rest begins it. -/
theorem exists_rest_of_infix_blanked {c d : CodePoint} {rest : Text} {fragments : List Unsupported}
    (inside : [d, d] <:+: c :: blanked fragments start rest)
    (notBehind : ¬ [d, d] <:+: blanked fragments start rest) (visible : d ≠ ' ') :
    c = d ∧ ∃ rest', rest = d :: rest' ∧
      ¬ ∃ fragment ∈ fragments, fragment.Covers start := by
  rcases List.infix_cons_iff.mp inside with here | later
  · obtain ⟨rfl, next⟩ := List.cons_prefix_cons.mp here
    cases rest with
    | nil => cases List.prefix_nil.mp next
    | cons e rest' =>
        rw [blanked] at next
        obtain ⟨shown, -⟩ := List.cons_prefix_cons.mp next
        by_cases covered : ∃ fragment ∈ fragments, fragment.Covers start
        · rw [if_pos covered] at shown
          exact (visible shown).elim
        · rw [if_neg covered] at shown
          exact ⟨rfl, rest', by rw [shown], covered⟩
  · exact (notBehind later).elim

theorem not_opening_infix_blanked (start : Nat) (text : Text) :
    ¬ opening <:+: blanked (fragmentsFrom start text) start text := by
  induction start, text using fragmentsFrom.induct with
  | case1 start =>
      rw [blanked, List.infix_nil]
      exact List.cons_ne_nil _ _
  | case2 start c rest found read ih =>
      intro inside
      exact ih (infix_behind_of_infix_blanked read (by decide) inside)
  | case3 start c rest unread ih =>
      rw [fragmentsFrom_of_none unread, blanked_cons_fragmentsFrom]
      intro inside
      obtain ⟨rfl, rest', rfl, uncovered⟩ :=
        exists_rest_of_infix_blanked inside ih (by decide)
      obtain ⟨found, braced⟩ := exists_braced?_of_opening unread
      have read := fragment?_of_braced? braced
      rw [fragmentsFrom_of_some read] at uncovered
      refine uncovered ⟨_, List.mem_cons_self, Nat.le_refl _, ?_⟩
      exact Nat.lt_add_of_pos_right (List.length_pos_iff.mpr (fragment?_text_ne_nil read))

theorem not_closing_infix_blanked (start : Nat) (text : Text) :
    ¬ closing <:+: blanked (fragmentsFrom start text) start text := by
  induction start, text using fragmentsFrom.induct with
  | case1 start =>
      rw [blanked, List.infix_nil]
      exact List.cons_ne_nil _ _
  | case2 start c rest found read ih =>
      intro inside
      exact ih (infix_behind_of_infix_blanked read (by decide) inside)
  | case3 start c rest unread ih =>
      rw [fragmentsFrom_of_none unread, blanked_cons_fragmentsFrom]
      intro inside
      obtain ⟨rfl, rest', rfl, -⟩ := exists_rest_of_infix_blanked inside ih (by decide)
      exact fragment?_closing_ne_none unread

end Literal

end Template

/-! ### The fragments of a scan -/

namespace Scan

variable {scan : Scan} {fragment : Unsupported}

theorem eq_or_apart_of_mem_placed {place place' : Segment × Nat} (member : place ∈ scan.placed)
    (member' : place' ∈ scan.placed) :
    place = place' ∨ place.2 + place.1.source.length ≤ place'.2 ∨
      place'.2 + place'.1.source.length ≤ place.2 := by
  have apart := placedFrom_pairwise 0 scan.segments
  refine List.Pairwise.forall_of_forall_of_flip (R := fun first second => first = second ∨
    first.2 + first.1.source.length ≤ second.2 ∨ second.2 + second.1.source.length ≤ first.2)
    (fun _ _ => .inl rfl) ?_ ?_ member member'
  · exact apart.imp fun before => .inr (.inl before)
  · exact apart.imp fun before => .inr (.inr before)

theorem mem_segments_iff {segment : Segment} :
    segment ∈ scan.segments ↔ ∃ start, (segment, start) ∈ scan.placed := by
  rw [placed]
  generalize scan.segments = segments
  induction segments with
  | nil => simp [placedFrom]
  | cons first segments ih =>
      simp only [Scan.mem_placedFrom_cons_iff, List.mem_cons, ih]
      constructor
      · rintro (rfl | ⟨start, behind⟩)
        · exact ⟨0, .inl ⟨rfl, rfl⟩⟩
        · exact ⟨_, .inr ⟨start, behind, rfl⟩⟩
      · rintro ⟨start, ⟨rfl, -⟩ | ⟨later, behind, -⟩⟩
        · exact .inl rfl
        · exact .inr ⟨later, behind⟩

theorem exists_placed_of_mem_occurrences {token : Occurrence} (member : token ∈ scan.occurrences) :
    ∃ name raw, (.token name raw, token.start) ∈ scan.placed ∧
      token.stop = token.start + raw.length := by
  obtain ⟨⟨segment, start⟩, place, same⟩ := List.mem_filterMap.mp member
  cases segment with
  | literal text => cases same
  | token name raw =>
      obtain rfl := Option.some.inj same
      exact ⟨name, raw, place, rfl⟩

theorem mem_unsupported_iff :
    fragment ∈ scan.unsupported ↔ ∃ text start, (.literal text, start) ∈ scan.placed ∧
      fragment ∈ Template.fragmentsFrom start text := by
  rw [unsupported_eq, List.mem_flatMap]
  constructor
  · rintro ⟨⟨segment, start⟩, place, inside⟩
    cases segment with
    | literal text => exact ⟨text, start, place, inside⟩
    | token name raw => cases inside
  · rintro ⟨text, start, place, inside⟩
    exact ⟨_, place, inside⟩

theorem shows_iff_of_mem_unsupported (member : fragment ∈ scan.unsupported)
    (kind : UnsupportedKind) :
    fragment.kind = kind ↔ kind.Shows fragment.text := by
  obtain ⟨text, start, -, inside⟩ := mem_unsupported_iff.mp member
  have shows' := Template.shows_of_mem_fragmentsFrom inside
  constructor
  · rintro rfl
    exact shows'
  · intro shows''
    exact shows'.unique shows''

theorem apart_of_mem_unsupported (member : fragment ∈ scan.unsupported) {token : Occurrence}
    (occurs : token ∈ scan.occurrences) :
    fragment.stop ≤ token.start ∨ token.stop ≤ fragment.start := by
  obtain ⟨text, start, place, inside⟩ := mem_unsupported_iff.mp member
  have within := Template.within_of_mem_fragmentsFrom inside
  obtain ⟨name, raw, tokenPlace, stop⟩ := exists_placed_of_mem_occurrences occurs
  rcases eq_or_apart_of_mem_placed place tokenPlace with same | before | behind
  · cases same
  · left
    exact Nat.le_trans within.2 before
  · right
    rw [stop]
    exact Nat.le_trans behind within.1

theorem blanked_unsupported {text : Text} {start : Nat}
    (place : (.literal text, start) ∈ scan.placed) :
    Template.blanked scan.unsupported start text =
      Template.blanked (Template.fragmentsFrom start text) start text := by
  apply Template.blanked_congr
  intro position above below
  constructor
  · rintro ⟨fragment, member, covers⟩
    obtain ⟨text', start', place', inside⟩ := mem_unsupported_iff.mp member
    have within := Template.within_of_mem_fragmentsFrom inside
    have begins := covers.1
    have ends := covers.2
    rcases eq_or_apart_of_mem_placed place place' with same | before | behind
    · cases same
      exact ⟨fragment, inside, covers⟩
    · simp only [Segment.source] at before
      omega
    · simp only [Segment.source] at behind
      omega
  · rintro ⟨fragment, inside, covers⟩
    exact ⟨fragment, mem_unsupported_iff.mpr ⟨text, start, place, inside⟩, covers⟩

/-- No literal text holds two opening or two closing braces next to each other. -/
def Unbraced (scan : Scan) : Prop :=
  ∀ text, .literal text ∈ scan.segments → ¬ opening <:+: text ∧ ¬ closing <:+: text

theorem unsupported_eq_nil_iff : scan.unsupported = [] ↔ scan.Unbraced := by
  constructor
  · intro none text member
    obtain ⟨start, place⟩ := mem_segments_iff.mp member
    have same := blanked_unsupported place
    rw [none, Template.blanked_nil] at same
    rw [same]
    exact ⟨Template.not_opening_infix_blanked start text,
      Template.not_closing_infix_blanked start text⟩
  · intro unbraced
    rw [List.eq_nil_iff_forall_not_mem]
    intro fragment member
    obtain ⟨text, start, place, inside⟩ := mem_unsupported_iff.mp member
    obtain ⟨front, back, rfl, -⟩ := Template.exists_append_of_mem_fragmentsFrom inside
    obtain ⟨noOpening, noClosing⟩ := unbraced _ (mem_segments_iff.mpr ⟨start, place⟩)
    have within : fragment.text <:+: front ++ (fragment.text ++ back) :=
      ⟨front, back, List.append_assoc _ _ _⟩
    rcases (Template.shows_of_mem_fragmentsFrom inside).holdsDelimiter with opened | closed
    · exact noOpening (opened.trans within)
    · exact noClosing (closed.trans within)

end Scan

namespace Template

theorem scanStrict_eq_ok_iff {template : Text} :
    scanStrict template = .ok (scan template) ↔ (scan template).Unbraced := by
  rw [← Scan.unsupported_eq_nil_iff, scanStrict, ← List.isEmpty_iff]
  split <;> simp_all

theorem scanStrict_eq_error_iff {template : Text} :
    scanStrict template = .error (.unsupported (scan template)) ↔ ¬ (scan template).Unbraced := by
  rw [← Scan.unsupported_eq_nil_iff, scanStrict, ← List.isEmpty_iff]
  split <;> simp_all

theorem take_drop_of_mem_unsupported {template : Text} {fragment : Unsupported}
    (member : fragment ∈ (scan template).unsupported) :
    (template.drop fragment.start).take (fragment.stop - fragment.start) = fragment.text := by
  obtain ⟨text, start, place, inside⟩ := Scan.mem_unsupported_iff.mp member
  obtain ⟨front, back, rfl, position⟩ := exists_append_of_mem_fragmentsFrom inside
  have slice := Scan.take_drop_of_mem_placed place
  rw [(isTokenization_scan template).covers, Segment.source] at slice
  have behind := List.take_append_drop (front ++ (fragment.text ++ back)).length
    (template.drop start)
  rw [slice] at behind
  rw [Unsupported.stop, Nat.add_sub_cancel_left, position, ← List.drop_drop, ← behind,
    List.append_assoc, List.drop_left, List.append_assoc, List.take_left]

/-- The unsupported fragments of a template are in order and apart, each stands as a part of the
template in one literal and has the kind that its text shows, and none is left out: every braced
fragment of a literal is one of them, and a literal in which they are blank holds no two opening or
closing braces next to each other.  So there are none, and the strict scan succeeds, exactly if no
literal holds such braces. -/
theorem unsupported_spec (template : Text) :
    ((scan template).unsupported.Pairwise fun earlier later =>
      earlier.start < later.start ∧ earlier.stop ≤ later.start) ∧
    (∀ fragment ∈ (scan template).unsupported,
      (template.drop fragment.start).take (fragment.stop - fragment.start) = fragment.text ∧
      (∃ text start, (.literal text, start) ∈ (scan template).placed ∧
        start ≤ fragment.start ∧ fragment.stop ≤ start + text.length) ∧
      (∀ token ∈ (scan template).occurrences,
        fragment.stop ≤ token.start ∨ token.stop ≤ fragment.start) ∧
      ∀ kind, fragment.kind = kind ↔ kind.Shows fragment.text) ∧
    (∀ text start, (.literal text, start) ∈ (scan template).placed →
      (∀ front inner back, (∀ c ∈ inner, isPlain c = true) →
        text = front ++ (opening ++ inner ++ closing ++ back) →
        ⟨.invalidFormat, opening ++ inner ++ closing, start + front.length⟩ ∈
          (scan template).unsupported) ∧
      ¬ opening <:+: blanked (scan template).unsupported start text ∧
      ¬ closing <:+: blanked (scan template).unsupported start text) ∧
    ((scan template).unsupported = [] ↔ (scan template).Unbraced) ∧
    (scanStrict template = .ok (scan template) ↔ (scan template).Unbraced) ∧
    (scanStrict template = .error (.unsupported (scan template)) ↔
      ¬ (scan template).Unbraced) := by
  refine ⟨?_, ?_, ?_, Scan.unsupported_eq_nil_iff, scanStrict_eq_ok_iff, scanStrict_eq_error_iff⟩
  · rw [Scan.unsupported_eq]
    refine (Scan.flatMap_fragmentsIn_pairwise _).imp_of_mem ?_
    intro earlier later member _ apart
    rw [← Scan.unsupported_eq] at member
    obtain ⟨text, start, -, inside⟩ := Scan.mem_unsupported_iff.mp member
    have nonempty := (shows_of_mem_fragmentsFrom inside).length_pos
    rw [Unsupported.stop] at apart
    exact ⟨by omega, apart⟩
  · intro fragment member
    obtain ⟨text, start, place, inside⟩ := Scan.mem_unsupported_iff.mp member
    refine ⟨take_drop_of_mem_unsupported member,
      ⟨text, start, place, within_of_mem_fragmentsFrom inside⟩, ?_, ?_⟩
    · intro token occurs
      exact Scan.apart_of_mem_unsupported member occurs
    · intro kind
      exact Scan.shows_iff_of_mem_unsupported member kind
  · intro text start place
    rw [Scan.blanked_unsupported place]
    refine ⟨?_, not_opening_infix_blanked start text, not_closing_infix_blanked start text⟩
    intro front inner back plain whole
    exact Scan.mem_unsupported_iff.mpr
      ⟨text, start, place, mem_fragmentsFrom_of_braced plain whole⟩

end Template

/-- A template with a braced text, a token and two lone pairs of braces. -/
def Sample.braces : Text :=
  "\x7b\x7b\x7ba b\x7d\x7d\x7b\x7bx\x7d\x7d\x7d\x7d\x7b\x7b".text

namespace Template

/-- Of three braces in front of a text that is no name, the last two belong to it. -/
theorem unsupported_spec_three_braces :
    (scan Sample.braces).unsupported =
        [⟨.invalidFormat, "\x7b\x7ba b\x7d\x7d".text, 1⟩, ⟨.strayClose, closing, 13⟩,
          ⟨.unclosedOpen, opening, 15⟩] ∧
      (scan Sample.braces).occurrences = [⟨"x".text, 8, 13⟩] ∧
      (Sample.braces.drop 1).take 7 = "\x7b\x7ba b\x7d\x7d".text ∧
      Unsupported.stop ⟨.invalidFormat, "\x7b\x7ba b\x7d\x7d".text, 1⟩ ≤ 8 ∧
      ⟨.invalidFormat, opening ++ "a b".text ++ closing, 1⟩ ∈
        (scan Sample.braces).unsupported ∧
      ¬ opening <:+: blanked (scan Sample.braces).unsupported 0
        "\x7b\x7b\x7ba b\x7d\x7d".text ∧
      ¬ (scan Sample.braces).Unbraced := by
  have found : (scan Sample.braces).unsupported =
      [⟨.invalidFormat, "\x7b\x7ba b\x7d\x7d".text, 1⟩, ⟨.strayClose, closing, 13⟩,
        ⟨.unclosedOpen, opening, 15⟩] := by
    refine (List.mergeSort_of_pairwise ?_).trans ?_ <;> decide +kernel
  have tokens : (scan Sample.braces).occurrences = [⟨"x".text, 8, 13⟩] := by decide +kernel
  have literal : (.literal "\x7b\x7b\x7ba b\x7d\x7d".text, 0) ∈
      (scan Sample.braces).placed := by
    have placed : (scan Sample.braces).placed =
        [(.literal "\x7b\x7b\x7ba b\x7d\x7d".text, 0),
          (.token "x".text "\x7b\x7bx\x7d\x7d".text, 8),
          (.literal "\x7d\x7d\x7b\x7b".text, 13)] := by decide +kernel
    rw [placed]
    exact List.mem_cons_self
  obtain ⟨-, each, every, none, -, -⟩ := unsupported_spec Sample.braces
  obtain ⟨slice, -, apart, -⟩ := each ⟨.invalidFormat, "\x7b\x7ba b\x7d\x7d".text, 1⟩
    (by rw [found]; exact List.mem_cons_self)
  obtain ⟨braced, noOpening, -⟩ := every _ 0 literal
  refine ⟨found, tokens, slice, ?_, ?_, noOpening, ?_⟩
  · rcases apart ⟨"x".text, 8, 13⟩ (by rw [tokens]; exact List.mem_cons_self) with before | after
    · exact before
    · exact absurd after (by decide)
  · exact braced "\x7b".text "a b".text [] (List.all_eq_true.mp (by decide)) (by decide)
  · intro unbraced
    rw [none.mpr unbraced] at found
    cases found

end Template

end LicenseSeal
