import LicenseSeal.Proofs.Template.PlaceholderSpelling
import LicenseSeal.Proofs.Template.TokenNames
import Mathlib.Data.List.Chain

/-!
# The leftmost tokenization

`IsTokenization` says of segments that they cover a template, that each token is spelled and that no
placeholder starts inside a literal, without saying how they are found.  A template has exactly one
such list of segments, and `scan_spec` reads the tokens and their names off it.
-/

namespace LicenseSeal

/-- The text that segments cover, one after the other. -/
abbrev Segment.sources (segments : List Segment) : Text :=
  segments.flatMap Segment.source

theorem Segment.sources_cons (segment : Segment) (segments : List Segment) :
    sources (segment :: segments) = segment.source ++ sources segments :=
  rfl

/-- Of two neighbours at least one is a token. -/
abbrev Segment.Apart (first second : Segment) : Prop :=
  first.name?.isSome ∨ second.name?.isSome

namespace Template

/-- A placeholder is spelled at a position of a template. -/
def StartsAt (template : Text) (position : Nat) : Prop :=
  ∃ name raw, Spelling name raw ∧ raw <+: template.drop position

/-- No placeholder starts at a position of the template that lies inside a literal. -/
def Leftmost (template : Text) (segments : List Segment) : Prop :=
  ∀ text start, (.literal text, start) ∈ Scan.placedFrom 0 segments →
    ∀ position, start ≤ position → position < start + text.length →
      ¬ StartsAt template position

/-- What makes segments the reading of a template. -/
structure IsTokenization (template : Text) (segments : List Segment) : Prop where
  covers : Segment.sources segments = template
  spelled : ∀ name raw, .token name raw ∈ segments → Spelling name raw
  leftmost : Leftmost template segments
  nonempty : .literal [] ∉ segments
  separated : segments.IsChain Segment.Apart

end Template

namespace Scan

theorem placedFrom_add (offset start : Nat) (segments : List Segment) :
    placedFrom (offset + start) segments =
      (placedFrom start segments).map fun placed => (placed.1, offset + placed.2) := by
  induction segments generalizing start with
  | nil => rfl
  | cons segment segments ih =>
      rw [placedFrom, Nat.add_assoc, ih]
      rfl

theorem mem_placedFrom_cons_iff {segment placed : Segment} {segments : List Segment}
    {position : Nat} :
    (placed, position) ∈ placedFrom 0 (segment :: segments) ↔
      (placed = segment ∧ position = 0) ∨
        ∃ later, (placed, later) ∈ placedFrom 0 segments ∧
          position = segment.source.length + later := by
  rw [placedFrom, Nat.add_comm, placedFrom_add, List.mem_cons, Prod.mk.injEq, List.mem_map]
  constructor
  · rintro (first | ⟨⟨other, later⟩, member, same⟩)
    · exact .inl first
    · cases same
      exact .inr ⟨later, member, rfl⟩
  · rintro (first | ⟨later, member, rfl⟩)
    · exact .inl first
    · exact .inr ⟨(placed, later), member, rfl⟩

theorem placedFrom_append (start : Nat) (before after : List Segment) :
    placedFrom start (before ++ after) =
      placedFrom start before ++ placedFrom (start + (Segment.sources before).length) after := by
  induction before generalizing start with
  | nil => rfl
  | cons segment before ih =>
      simp only [List.cons_append, placedFrom, ih, List.flatMap_cons, List.length_append,
        Nat.add_assoc]

section Occurrences

variable {occurrence? : Segment × Nat → Option Occurrence}
  (ofLiteral : ∀ text position, occurrence? (.literal text, position) = none)
  (ofToken : ∀ name raw position,
    occurrence? (.token name raw, position) = some ⟨name, position, position + raw.length⟩)

include ofLiteral ofToken

private theorem length_filterMap_placedFrom (start : Nat) (segments : List Segment) :
    ((placedFrom start segments).filterMap occurrence?).length =
      (segments.filterMap Segment.name?).length := by
  induction segments generalizing start with
  | nil => rfl
  | cons segment segments ih =>
      rw [placedFrom]
      cases segment with
      | literal text =>
          rw [List.filterMap_cons_none (ofLiteral text start), List.filterMap_cons_none rfl, ih]
      | token name raw =>
          have named : (Segment.token name raw).name? = some name := rfl
          rw [List.filterMap_cons_some (ofToken name raw start), List.filterMap_cons_some named,
            List.length_cons, List.length_cons, ih]

private theorem getElem?_filterMap_placed {before after : List Segment} {name raw : Text} :
    ((placedFrom 0 (before ++ .token name raw :: after)).filterMap occurrence?)[
        (before.filterMap Segment.name?).length]? =
      some ⟨name, (Segment.sources before).length,
        (Segment.sources before).length + raw.length⟩ := by
  have tokensBefore := length_filterMap_placedFrom ofLiteral ofToken 0 before
  rw [placedFrom_append, List.filterMap_append, ← tokensBefore,
    List.getElem?_append_right (Nat.le_refl _), Nat.sub_self, placedFrom, Nat.zero_add,
    List.filterMap_cons_some (ofToken name raw _), List.getElem?_cons_zero]

end Occurrences

theorem length_occurrences (scan : Scan) : scan.occurrences.length = scan.names.length :=
  length_filterMap_placedFrom (fun _ _ => rfl) (fun _ _ _ => rfl) 0 scan.segments

/-- The token behind some segments is the occurrence behind their tokens, at the place where their
text ends. -/
theorem getElem?_occurrences {scan : Scan} {before after : List Segment} {name raw : Text}
    (split : scan.segments = before ++ .token name raw :: after) :
    scan.occurrences[(before.filterMap Segment.name?).length]? =
      some ⟨name, (Segment.sources before).length,
        (Segment.sources before).length + raw.length⟩ := by
  rw [occurrences, placed, split]
  exact getElem?_filterMap_placed (fun _ _ => rfl) (fun _ _ _ => rfl)

theorem take_drop_of_mem_placed {scan : Scan} {segment : Segment} {start : Nat}
    (member : (segment, start) ∈ scan.placed) :
    ((Segment.sources scan.segments).drop start).take segment.source.length =
      segment.source := by
  rw [placed] at member
  generalize scan.segments = segments at member ⊢
  induction segments generalizing start with
  | nil => cases member
  | cons first segments ih =>
      rcases mem_placedFrom_cons_iff.mp member with ⟨rfl, rfl⟩ | ⟨later, behind, rfl⟩
      · rw [Segment.sources_cons, List.drop_zero, List.take_left]
      · rw [Segment.sources_cons, List.drop_length_add_append]
        exact ih behind

end Scan

namespace Template

variable {template rest text name raw : Text} {segments : List Segment} {c : CodePoint}

theorem startsAt_append (front : Text) (position : Nat) :
    StartsAt (front ++ rest) (front.length + position) ↔ StartsAt rest position := by
  rw [StartsAt, StartsAt, List.drop_length_add_append]

theorem not_startsAt_zero_iff : ¬ StartsAt template 0 ↔ Placeholder.read? template = none := by
  rw [Placeholder.read?_eq_none_iff]
  constructor
  · intro unread name raw spelled front
    exact unread ⟨name, raw, spelled, front⟩
  · rintro unspelled ⟨name, raw, spelled, front⟩
    exact unspelled name raw spelled front

theorem leftmost_cons_iff {segment : Segment} :
    Leftmost (segment.source ++ rest) (segment :: segments) ↔
      (∀ text, segment = .literal text →
        ∀ position < text.length, ¬ StartsAt (text ++ rest) position) ∧
          Leftmost rest segments := by
  constructor
  · intro leftmost
    constructor
    · rintro text rfl position inside
      refine leftmost text 0 ?_ position (Nat.zero_le _) (by omega)
      exact Scan.mem_placedFrom_cons_iff.mpr (.inl ⟨rfl, rfl⟩)
    · intro text start member position above below
      rw [← startsAt_append segment.source]
      refine leftmost text (segment.source.length + start) ?_ _ (by omega) (by omega)
      exact Scan.mem_placedFrom_cons_iff.mpr (.inr ⟨start, member, rfl⟩)
  · rintro ⟨inside, leftmost⟩ text start member position above below
    rcases Scan.mem_placedFrom_cons_iff.mp member with ⟨rfl, rfl⟩ | ⟨later, behind, rfl⟩
    · exact inside text rfl position (by omega)
    · obtain ⟨offset, rfl⟩ : ∃ offset, position = segment.source.length + offset :=
        ⟨position - segment.source.length, by omega⟩
      rw [startsAt_append]
      exact leftmost text later behind offset (by omega) (by omega)

theorem leftmost_token_iff :
    Leftmost (raw ++ rest) (.token name raw :: segments) ↔ Leftmost rest segments := by
  refine leftmost_cons_iff.trans (and_iff_right ?_)
  intro text impossible
  cases impossible

theorem leftmost_literal_iff :
    Leftmost (text ++ rest) (.literal text :: segments) ↔
      (∀ position < text.length, ¬ StartsAt (text ++ rest) position) ∧
        Leftmost rest segments := by
  refine leftmost_cons_iff.trans (and_congr_left fun _ => ?_)
  constructor
  · intro inside
    exact inside text rfl
  · intro inside other same
    cases same
    exact inside

/-! ### One more literal character -/

theorem sources_consLiteral (c : CodePoint) (segments : List Segment) :
    Segment.sources (consLiteral c segments) = c :: Segment.sources segments := by
  unfold consLiteral
  split <;> rfl

theorem token_mem_consLiteral_iff :
    .token name raw ∈ consLiteral c segments ↔ .token name raw ∈ segments := by
  unfold consLiteral
  split <;> simp

theorem separated_consLiteral_iff :
    (consLiteral c segments).IsChain Segment.Apart ↔ segments.IsChain Segment.Apart := by
  unfold consLiteral
  split
  · next text others =>
      cases others with
      | nil => exact ⟨fun _ => .singleton _, fun _ => .singleton _⟩
      | cons next others =>
          rw [List.isChain_cons_cons, List.isChain_cons_cons]
          rfl
  · next noLiteral =>
      cases segments with
      | nil => exact ⟨fun _ => .nil, fun _ => .singleton _⟩
      | cons next others =>
          cases next with
          | literal text => exact (noLiteral text others rfl).elim
          | token name raw =>
              rw [List.isChain_cons_cons]
              exact and_iff_right (.inr rfl)

private theorem leftmost_literal_cons_iff :
    Leftmost (c :: (text ++ rest)) (.literal (c :: text) :: segments) ↔
      ¬ StartsAt (c :: (text ++ rest)) 0 ∧
        (∀ position < text.length, ¬ StartsAt (text ++ rest) position) ∧
          Leftmost rest segments := by
  rw [← and_assoc, ← List.cons_append, leftmost_literal_iff]
  refine and_congr_left fun _ => ?_
  constructor
  · intro inside
    refine ⟨inside 0 (Nat.zero_lt_succ _), fun position below => ?_⟩
    exact inside (position + 1) (Nat.succ_lt_succ below)
  · rintro ⟨first, inside⟩ position below
    cases position with
    | zero => exact first
    | succ position => exact inside position (Nat.lt_of_succ_lt_succ below)

theorem leftmost_consLiteral_iff :
    Leftmost (c :: Segment.sources segments) (consLiteral c segments) ↔
      ¬ StartsAt (c :: Segment.sources segments) 0 ∧
        Leftmost (Segment.sources segments) segments := by
  unfold consLiteral
  split
  · next text others =>
      have whole : Segment.sources (.literal text :: others) = text ++ Segment.sources others :=
        rfl
      rw [whole, leftmost_literal_cons_iff, leftmost_literal_iff]
  · rw [← List.nil_append (Segment.sources segments), leftmost_literal_cons_iff]
    refine and_congr_right fun _ => and_iff_right ?_
    intro position impossible
    cases impossible

theorem literal_nil_mem_consLiteral_iff (proper : ∀ others, segments ≠ .literal [] :: others) :
    .literal [] ∈ consLiteral c segments ↔ .literal [] ∈ segments := by
  unfold consLiteral
  split
  · next text others =>
      have hasText : ¬ .literal [] = Segment.literal text := by
        intro same
        cases same
        exact proper others rfl
      simp [hasText]
  · simp

/-- One more character in front is read as literal text exactly if no placeholder starts with it. -/
theorem isTokenization_consLiteral_iff (proper : ∀ others, segments ≠ .literal [] :: others) :
    IsTokenization (c :: rest) (consLiteral c segments) ↔
      ¬ StartsAt (c :: rest) 0 ∧ IsTokenization rest segments := by
  constructor
  · rintro ⟨covers, spelled, leftmost, nonempty, separated⟩
    rw [sources_consLiteral] at covers
    obtain rfl := (List.cons.inj covers).2
    obtain ⟨unread, leftmost⟩ := leftmost_consLiteral_iff.mp leftmost
    refine ⟨unread, rfl, ?_, leftmost, ?_, separated_consLiteral_iff.mp separated⟩
    · intro name raw member
      exact spelled name raw (token_mem_consLiteral_iff.mpr member)
    · exact mt (literal_nil_mem_consLiteral_iff proper).mpr nonempty
  · rintro ⟨unread, rfl, spelled, leftmost, nonempty, separated⟩
    constructor
    · exact sources_consLiteral c segments
    · intro name raw member
      exact spelled name raw (token_mem_consLiteral_iff.mp member)
    · exact leftmost_consLiteral_iff.mpr ⟨unread, leftmost⟩
    · exact mt (literal_nil_mem_consLiteral_iff proper).mp nonempty
    · exact separated_consLiteral_iff.mpr separated

/-! ### The only tokenization -/

theorem isTokenization_nil_iff : IsTokenization [] segments ↔ segments = [] := by
  constructor
  · intro tokenization
    cases segments with
    | nil => rfl
    | cons segment segments =>
        have empty : segment.source = [] := (List.append_eq_nil_iff.mp tokenization.covers).1
        cases segment with
        | literal text =>
            obtain rfl : text = [] := empty
            exact (tokenization.nonempty List.mem_cons_self).elim
        | token name raw =>
            exact ((tokenization.spelled name raw List.mem_cons_self).ne_nil empty).elim
  · rintro rfl
    constructor
    · rfl
    · intro name raw member
      cases member
    · intro text start member
      cases member
    · exact List.not_mem_nil
    · exact .nil

theorem isTokenization_token_iff :
    IsTokenization template (.token name raw :: segments) ↔
      Spelling name raw ∧ ∃ rest, template = raw ++ rest ∧ IsTokenization rest segments := by
  constructor
  · rintro ⟨rfl, spelled, leftmost, nonempty, separated⟩
    refine ⟨spelled name raw List.mem_cons_self, Segment.sources segments, rfl, ?_⟩
    constructor
    · rfl
    · intro other raw' member
      exact spelled other raw' (List.mem_cons_of_mem _ member)
    · exact leftmost_token_iff.mp leftmost
    · exact fun member => nonempty (List.mem_cons_of_mem _ member)
    · exact separated.tail
  · rintro ⟨spelled, rest, rfl, ⟨rfl, others, leftmost, nonempty, separated⟩⟩
    constructor
    · rfl
    · intro other raw' member
      rcases List.mem_cons.mp member with same | later
      · cases same
        exact spelled
      · exact others other raw' later
    · exact leftmost_token_iff.mpr leftmost
    · intro member
      rcases List.mem_cons.mp member with impossible | later
      · cases impossible
      · exact nonempty later
    · cases segments with
      | nil => exact .singleton _
      | cons segment segments => exact .cons_cons (.inl rfl) separated

private theorem exists_consLiteral_eq
    (tokenization : IsTokenization (c :: rest) (.literal text :: segments)) :
    ∃ others, .literal text :: segments = consLiteral c others ∧
      ∀ tail, others ≠ .literal [] :: tail := by
  cases text with
  | nil => exact (tokenization.nonempty List.mem_cons_self).elim
  | cons first text =>
      obtain rfl : first = c := (List.cons.inj tokenization.covers).1
      cases text with
      | cons second text =>
          refine ⟨.literal (second :: text) :: segments, rfl, ?_⟩
          intro tail impossible
          cases impossible
      | nil =>
          -- A second literal behind the first one would be a neighbour of it.
          have noLiteral : ∀ other tail, segments ≠ .literal other :: tail := by
            rintro other tail rfl
            rcases (List.isChain_cons_cons.mp tokenization.separated).1 with named | named
            · cases named
            · cases named
          refine ⟨segments, ?_, noLiteral []⟩
          cases segments with
          | nil => rfl
          | cons segment segments =>
              cases segment with
              | literal other => exact (noLiteral other segments rfl).elim
              | token name raw => rfl

theorem tokenize_ne_literal_nil (template : Text) :
    ∀ others, tokenize template ≠ .literal [] :: others := by
  intro others
  induction template using tokenize.induct with
  | case1 =>
      rw [tokenize]
      intro impossible
      cases impossible
  | case2 c rest found read ih =>
      rw [tokenize, read]
      intro impossible
      cases impossible
  | case3 c rest unread ih =>
      rw [tokenize, unread]
      simp only [consLiteral]
      split
      · intro impossible
        cases impossible
      · intro impossible
        cases impossible

/-- A template has exactly one tokenization, the one that is found from left to right. -/
theorem isTokenization_iff : IsTokenization template segments ↔ segments = tokenize template := by
  induction template using tokenize.induct generalizing segments with
  | case1 =>
      rw [tokenize]
      exact isTokenization_nil_iff
  | case2 c rest found read ih =>
      obtain ⟨spelled, whole⟩ := Placeholder.read?_eq_some_iff.mp read
      rw [tokenize, read, whole]
      constructor
      · intro tokenization
        cases segments with
        | nil =>
            have impossible := tokenization.covers
            rw [← whole] at impossible
            cases impossible
        | cons segment segments =>
            cases segment with
            | literal text =>
                -- The placeholder that starts here would start inside the literal.
                have hasText : 0 < text.length := by
                  apply List.length_pos_iff.mpr
                  rintro rfl
                  exact tokenization.nonempty List.mem_cons_self
                have first : (Segment.literal text, 0) ∈
                    Scan.placedFrom 0 (.literal text :: segments) := List.mem_cons_self
                refine (tokenization.leftmost text 0 first 0 (Nat.le_refl 0) ?_ ?_).elim
                · omega
                · exact ⟨found.name, found.raw, spelled, found.rest, rfl⟩
            | token name raw =>
                obtain ⟨spelled', rest', same, behind⟩ :=
                  isTokenization_token_iff.mp tokenization
                obtain ⟨rfl, rfl, rfl⟩ := spelled'.unique spelled same.symm
                rw [ih.mp behind]
      · rintro rfl
        exact isTokenization_token_iff.mpr ⟨spelled, found.rest, rfl, ih.mpr rfl⟩
  | case3 c rest unread ih =>
      rw [tokenize, unread]
      have unspelled := not_startsAt_zero_iff.mpr unread
      constructor
      · intro tokenization
        cases segments with
        | nil => cases tokenization.covers
        | cons segment segments =>
            cases segment with
            | literal text =>
                obtain ⟨others, same, proper⟩ := exists_consLiteral_eq tokenization
                rw [same] at tokenization ⊢
                rw [ih.mp ((isTokenization_consLiteral_iff proper).mp tokenization).2]
            | token name raw =>
                obtain ⟨spelled, rest', same, -⟩ := isTokenization_token_iff.mp tokenization
                exact (unspelled ⟨name, raw, spelled, rest', same.symm⟩).elim
      · rintro rfl
        refine (isTokenization_consLiteral_iff (tokenize_ne_literal_nil rest)).mpr ?_
        exact ⟨unspelled, ih.mpr rfl⟩

theorem isTokenization_scan (template : Text) : IsTokenization template (scan template).segments :=
  isTokenization_iff.mpr rfl

/-- A scan holds the only tokenization of its template.  A token's text stands at the place of the
token and spells the token's name alone, the occurrences are the tokens in their order, the fields
are their distinct names by first appearance, and the duplicates are the names of several tokens. -/
theorem scan_spec (template : Text) :
    (∀ segments, IsTokenization template segments ↔ segments = (scan template).segments) ∧
    (∀ name raw, .token name raw ∈ (scan template).segments →
      ∀ other, Spelling other raw ↔ other = name) ∧
    (∀ segment start, (segment, start) ∈ (scan template).placed →
      (template.drop start).take segment.source.length = segment.source) ∧
    ((scan template).occurrences.length = (scan template).names.length ∧
      ∀ before name raw after, (scan template).segments = before ++ .token name raw :: after →
        (scan template).occurrences[(before.filterMap Segment.name?).length]? =
          some ⟨name, (Segment.sources before).length,
            (Segment.sources before).length + raw.length⟩) ∧
    ((scan template).fields.Nodup ∧
      (∀ name, name ∈ (scan template).fields ↔ name ∈ (scan template).names) ∧
      (scan template).fields.Pairwise fun earlier later =>
        (scan template).names.idxOf earlier < (scan template).names.idxOf later) ∧
    ((scan template).duplicates.Nodup ∧
      ∀ name, name ∈ (scan template).duplicates ↔ 2 ≤ (scan template).names.count name) := by
  have tokenization := isTokenization_scan template
  refine ⟨fun segments => isTokenization_iff, ?_, ?_, ?_, ?_, ?_⟩
  · intro name raw member other
    have spelled := tokenization.spelled name raw member
    constructor
    · intro spelled'
      exact (spelled'.unique spelled (Eq.refl (raw ++ []))).1
    · rintro rfl
      exact spelled
  · intro segment start member
    have slice := Scan.take_drop_of_mem_placed member
    rw [tokenization.covers] at slice
    exact slice
  · refine ⟨Scan.length_occurrences _, ?_⟩
    intro before name raw after split
    exact Scan.getElem?_occurrences split
  · exact ⟨Scan.nodup_fields _, fun name => Scan.mem_fields_iff, Scan.fields_pairwise _⟩
  · exact ⟨Scan.nodup_duplicates _, fun name => Scan.mem_duplicates_iff⟩

/-- Of three braces in front of a name with two behind it, the first one is literal. -/
theorem scan_spec_three_braces :
    IsTokenization "\x7b\x7b\x7ba\x7d\x7d|\x7b\x7b &a \x7d\x7d".text
        [.literal "\x7b".text, .token "a".text "\x7b\x7ba\x7d\x7d".text,
          .literal "|".text, .token "a".text "\x7b\x7b &a \x7d\x7d".text] ∧
      (scan "\x7b\x7b\x7ba\x7d\x7d|\x7b\x7b &a \x7d\x7d".text).occurrences[1]? =
        some ⟨"a".text, 7, 15⟩ ∧
      "a".text ∈ (scan "\x7b\x7b\x7ba\x7d\x7d|\x7b\x7b &a \x7d\x7d".text).duplicates := by
  have segments : (scan "\x7b\x7b\x7ba\x7d\x7d|\x7b\x7b &a \x7d\x7d".text).segments =
      [.literal "\x7b".text, .token "a".text "\x7b\x7ba\x7d\x7d".text,
        .literal "|".text, .token "a".text "\x7b\x7b &a \x7d\x7d".text] := by decide +kernel
  obtain ⟨unique, -, -, ⟨-, placed⟩, -, ⟨-, duplicates⟩⟩ :=
    scan_spec "\x7b\x7b\x7ba\x7d\x7d|\x7b\x7b &a \x7d\x7d".text
  refine ⟨(unique _).mpr segments.symm, ?_, ?_⟩
  · exact placed [.literal "\x7b".text, .token "a".text "\x7b\x7ba\x7d\x7d".text,
      .literal "|".text] "a".text "\x7b\x7b &a \x7d\x7d".text [] segments
  · refine (duplicates _).mpr ?_
    rw [Scan.names, segments]
    decide

end Template

end LicenseSeal
