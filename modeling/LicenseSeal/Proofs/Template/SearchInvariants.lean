import LicenseSeal.Proofs.Template.OrderedSearch
import Mathlib.Data.Finset.Card
import Mathlib.Data.Finset.Prod
import Mathlib.Data.Finset.Range
import Std.Data.HashSet.Lemmas

/-!
# Invariants of the search with a memo

A call of the search leaves the spans that it was given as they were if it fails, and adds one span
for each capture if it succeeds.  The states that are noted as failed have no decomposition, and no
state is searched twice.  Main statements: `matchFrom_ends` for one call, and `search_invariants`
for every call that matching a document makes.
-/

namespace LicenseSeal.Grammar

/-- Spans for the captures of some nodes, laid out from an offset to the end of a document with the
literals between them. -/
inductive LaidOut (document : Text) : List Node → (offset : Nat) → List Span → Prop where
  | nil : LaidOut document [] document.length []
  | literal {nodes : List Node} {offset : Nat} {spans : List Span} (text : Text) :
      text <+: document.drop offset → LaidOut document nodes (offset + text.length) spans →
      LaidOut document (.literal text :: nodes) offset spans
  | capture {nodes : List Node} {offset stop : Nat} {spans : List Span}
      (name : Text) (isLazy : Bool) :
      offset ≤ stop → LaidOut document nodes stop spans →
      LaidOut document (.capture name isLazy :: nodes) offset (⟨offset, stop⟩ :: spans)

theorem LaidOut.length_spans {document : Text} {nodes : List Node} {offset : Nat}
    {spans : List Span} (laid : LaidOut document nodes offset spans) :
    spans.length = (nodes.filterMap Node.name?).length := by
  induction laid with
  | nil => rfl
  | literal text _ _ ih =>
      rw [List.filterMap_cons_none rfl]
      exact ih
  | capture name isLazy _ _ ih =>
      have named : (Node.capture name isLazy).name? = some name := rfl
      rw [List.filterMap_cons_some named, List.length_cons, List.length_cons, ih]

/-! ### What a memo says -/

/-- From every state that is noted as failed the search finds nothing; a state stands for the last
nodes of a sequence and for the end of a document. -/
def Memo.Sound (nodes : List Node) (document : Text) (memo : Memo) : Prop :=
  ∀ index offset, memo.knows (index, offset) →
    search (nodes.drop index) (.behind document offset) = none

/-- What holds of a memo while the states in `opened` are being searched: it is sound, every state
was searched once, and all of them but the open ones have failed. -/
structure Memo.Valid (nodes : List Node) (document : Text) (opened : List (Nat × Nat))
    (memo : Memo) : Prop where
  sound : memo.Sound nodes document
  inside : ∀ state ∈ memo.searched, state.1 < nodes.length ∧ state.2 ≤ document.length
  once : memo.searched.Nodup
  settled : ∀ state ∈ memo.searched, memo.knows state ∨ state ∈ opened

namespace Memo.Valid

variable {nodes : List Node} {document : Text} {opened : List (Nat × Nat)} {memo : Memo}
  {index offset : Nat}

theorem empty : Memo.empty.Valid nodes document [] := by
  constructor
  · intro index offset known
    simp [Memo.knows, Memo.empty] at known
  · simp [Memo.empty]
  · exact List.nodup_nil
  · simp [Memo.empty]

/-- A state that is not known to fail is searched for the first time if all open states stand for
more nodes. -/
theorem visit (valid : memo.Valid nodes document opened)
    (below : ∀ state ∈ opened, state.1 < index)
    (unknown : ¬ memo.knows (index, offset)) (atNode : index < nodes.length)
    (inside : offset ≤ document.length) :
    (memo.visit (index, offset)).Valid nodes document ((index, offset) :: opened) := by
  constructor
  · exact valid.sound
  · intro state member
    rcases List.mem_cons.mp member with rfl | member
    · exact ⟨atNode, inside⟩
    · exact valid.inside state member
  · refine List.nodup_cons.mpr ⟨fun member => ?_, valid.once⟩
    rcases valid.settled _ member with known | isOpen
    · exact unknown known
    · exact Nat.lt_irrefl index (below _ isOpen)
  · intro state member
    rcases List.mem_cons.mp member with rfl | member
    · exact .inr List.mem_cons_self
    · exact (valid.settled state member).imp id (List.mem_cons_of_mem _)

theorem fail (valid : memo.Valid nodes document ((index, offset) :: opened))
    (failed : search (nodes.drop index) (.behind document offset) = none) :
    (memo.fail (index, offset)).Valid nodes document opened := by
  have knows_iff (state : Nat × Nat) :
      (memo.fail (index, offset)).knows state ↔ (index, offset) = state ∨ memo.knows state := by
    simp [Memo.knows, Memo.fail]
  constructor
  · intro index' offset' known
    rcases (knows_iff _).mp known with same | known
    · obtain ⟨rfl, rfl⟩ := Prod.mk.inj same
      exact failed
    · exact valid.sound index' offset' known
  · exact valid.inside
  · exact valid.once
  · intro state member
    rcases valid.settled state member with known | isOpen
    · exact .inl ((knows_iff state).mpr (.inr known))
    · rcases List.mem_cons.mp isOpen with rfl | isOpen
      · exact .inl ((knows_iff _).mpr (.inl rfl))
      · exact .inr isOpen

/-- There are no more states to search than nodes with a place in the document. -/
theorem length_searched_le (valid : memo.Valid nodes document opened) :
    memo.searched.length ≤ nodes.length * (document.length + 1) := by
  have within : memo.searched.toFinset ⊆
      Finset.range nodes.length ×ˢ Finset.range (document.length + 1) := by
    intro state member
    obtain ⟨atNode, inside⟩ := valid.inside state (List.mem_toFinset.mp member)
    exact Finset.mem_product.mpr
      ⟨Finset.mem_range.mpr atNode, Finset.mem_range.mpr (Nat.lt_succ_of_le inside)⟩
  have counted := Finset.card_le_card within
  rw [List.toFinset_card_of_nodup valid.once, Finset.card_product, Finset.card_range,
    Finset.card_range] at counted
  exact counted

end Memo.Valid

/-! ### One call -/

/-- A progress after a failure: the spans are as before, and the memo has grown. -/
structure Progress.Restores (nodes : List Node) (document : Text) (opened : List (Nat × Nat))
    (before after : Progress) : Prop where
  spans : after.spans = before.spans
  valid : after.memo.Valid nodes document opened
  grown : before.memo.searched <:+ after.memo.searched

/-- A progress after a success: the spans of the captured texts are added, and the memo has
grown. -/
structure Progress.Extends (nodes : List Node) (document : Text) (behind : List Node) (offset : Nat)
    (captured : List Text) (before after : Progress) : Prop where
  spans : ∃ spans, after.spans = before.spans ++ spans ∧ LaidOut document behind offset spans ∧
    spans.map (Span.textIn document) = captured
  valid : ∃ opened, after.memo.Valid nodes document opened
  grown : before.memo.searched <:+ after.memo.searched

/-- An outcome is a success if there is a result and a failure if there is none. -/
def Ends {β : Type} (result : Option β) (failed : Progress → Prop)
    (succeeded : β → Progress → Prop) (outcome : Bool × Progress) : Prop :=
  match result with
  | none => outcome.1 = false ∧ failed outcome.2
  | some found => outcome.1 = true ∧ succeeded found outcome.2

namespace Ends

variable {β : Type} {result : Option β} {failed failed' : Progress → Prop}
  {succeeded succeeded' : β → Progress → Prop} {outcome : Bool × Progress}

theorem imp (ends : Ends result failed succeeded outcome)
    (fails : ∀ after, failed after → failed' after)
    (succeeds : ∀ found after, succeeded found after → succeeded' found after) :
    Ends result failed' succeeded' outcome := by
  cases result with
  | none => exact ⟨ends.1, fails _ ends.2⟩
  | some found => exact ⟨ends.1, succeeds found _ ends.2⟩

theorem of_failure (ends : Ends result failed succeeded outcome) (fails : outcome.1 = false) :
    failed outcome.2 := by
  cases result with
  | none => exact ends.2
  | some found => cases fails.symm.trans ends.1

theorem of_success (ends : Ends result failed succeeded outcome) (succeeds : outcome.1 = true) :
    ∃ found, succeeded found outcome.2 := by
  cases result with
  | none => cases succeeds.symm.trans ends.1
  | some found => exact ⟨found, ends.2⟩

end Ends

/-- Attempts that end as results say, and leave what later attempts need if they fail: the first
success among them is the first result. -/
theorem firstSuccess_ends {β : Type} {attempt : Place → Progress → Bool × Progress}
    {result : Place → Option β} {failed : Progress → Prop} {succeeded : β → Progress → Prop}
    {places : List Place} {progress : Progress}
    (step : ∀ place ∈ places, ∀ progress, failed progress →
      Ends (result place) failed succeeded (attempt place progress))
    (ready : failed progress) :
    Ends (places.findSome? result) failed succeeded (firstSuccess attempt places progress) := by
  induction places generalizing progress with
  | nil => exact ⟨rfl, ready⟩
  | cons place places ih =>
      have ends := step place List.mem_cons_self progress ready
      rw [firstSuccess, List.findSome?_cons]
      generalize attempt place progress = outcome at ends
      obtain ⟨found, after⟩ := outcome
      cases results : result place with
      | none =>
          rw [results] at ends
          obtain ⟨rfl, ready⟩ := ends
          exact ih (fun later member => step later (List.mem_cons_of_mem _ member)) ready
      | some found =>
          rw [results] at ends
          obtain ⟨rfl, succeeded⟩ := ends
          exact ⟨rfl, succeeded⟩

section Calls

variable {all nodes : List Node} {document : Text} {opened : List (Nat × Nat)}
  {index offset : Nat} {progress : Progress}

/-- Attempts at ends of a capture, if going on behind each of them ends as it should: a failure
takes the capture back, a success keeps its span in front of those behind it. -/
theorem attempts_end (name : Text) (isLazy : Bool) {places : List Place}
    {goOn : Place → Progress → Bool × Progress}
    (behind : ∀ place ∈ places, ∃ stop, offset ≤ stop ∧ stop ≤ document.length ∧
      place = .behind document stop)
    (ends : ∀ stop progress, stop ≤ document.length → progress.memo.Valid all document opened →
      Ends (search nodes (.behind document stop)) (progress.Restores all document opened)
        (fun captured => progress.Extends all document nodes stop captured)
        (goOn (.behind document stop) progress))
    (valid : progress.memo.Valid all document opened) :
    Ends
      (places.findSome? fun later =>
        (search nodes later).map ((Place.behind document offset).textTo later :: ·))
      (progress.Restores all document opened)
      (fun captured =>
        progress.Extends all document (.capture name isLazy :: nodes) offset captured)
      (firstSuccess (attemptEnd goOn (.behind document offset)) places progress) := by
  refine firstSuccess_ends ?_ ⟨rfl, valid, List.suffix_refl _⟩
  intro place member between restores
  obtain ⟨stop, reached, inside, rfl⟩ := behind place member
  have ends := ends stop (between.push ⟨offset, stop⟩) inside restores.valid
  simp only [attemptEnd, Place.offset_behind]
  generalize goOn (.behind document stop) (between.push ⟨offset, stop⟩) = outcome at ends
  obtain ⟨found, after⟩ := outcome
  cases results : search nodes (.behind document stop) with
  | none =>
      rw [results] at ends
      obtain ⟨rfl, spans, valid, grown⟩ := ends
      refine ⟨rfl, ?_, valid, restores.grown.trans grown⟩
      change after.spans.dropLast = progress.spans
      rw [spans, ← restores.spans]
      exact List.dropLast_concat
  | some captured =>
      rw [results] at ends
      obtain ⟨rfl, ⟨spans, added, laid, texts⟩, valid, grown⟩ := ends
      refine ⟨rfl, ⟨⟨offset, stop⟩ :: spans, ?_, .capture name isLazy reached laid, ?_⟩, valid,
        restores.grown.trans grown⟩
      · change after.spans = progress.spans ++ ⟨offset, stop⟩ :: spans
        rw [added, ← restores.spans, Progress.push, List.append_assoc]
        rfl
      · rw [List.map_cons, texts]
        rfl

private theorem ends_noted {result : Option (List Text)} {before : Progress}
    {outcome : Bool × Progress}
    (failed : result = none → search (all.drop index) (.behind document offset) = none)
    (ends : Ends result (before.Restores all document ((index, offset) :: opened))
      (fun captured => before.Extends all document nodes offset captured) outcome) :
    Ends result (before.Restores all document opened)
      (fun captured => before.Extends all document nodes offset captured)
      (noted (index, offset) outcome) := by
  obtain ⟨found, after⟩ := outcome
  cases result with
  | none =>
      obtain ⟨fails, spans, valid, grown⟩ := ends
      obtain rfl : found = false := fails
      exact ⟨rfl, spans, valid.fail (failed rfl), grown⟩
  | some captured =>
      obtain ⟨succeeds, extends'⟩ := ends
      obtain rfl : found = true := succeeds
      exact ⟨rfl, extends'⟩

private theorem drop_succ_eq {node : Node} (suffix : all.drop index = node :: nodes) :
    all.drop (index + 1) = nodes := by
  rw [← List.tail_drop, suffix, List.tail_cons]

private theorem lt_length_of_drop_eq {node : Node} (suffix : all.drop index = node :: nodes) :
    index < all.length := by
  rcases Nat.lt_or_ge index all.length with atNode | outside
  · exact atNode
  · rw [List.drop_eq_nil_of_le outside] at suffix
    cases suffix

private theorem below_succ (below : ∀ state ∈ opened, state.1 < index) :
    ∀ state ∈ (index, offset) :: opened, state.1 < index + 1 := by
  intro state member
  rcases List.mem_cons.mp member with rfl | member
  · exact Nat.lt_succ_self index
  · exact Nat.lt_succ_of_lt (below state member)

theorem exists_behind_of_mem_captureEnds {isLazy : Bool} {later : Place}
    (inside : offset ≤ document.length)
    (member : later ∈ captureEnds isLazy nodes (.behind document offset)) :
    ∃ stop, offset ≤ stop ∧ stop ≤ document.length ∧ later = .behind document stop := by
  obtain ⟨stop, reached, within, -, same⟩ :=
    (Place.exists_advance_behind_iff inside).mp (mem_captureEnds_iff.mp member)
  exact ⟨stop, reached, within, same⟩

private theorem length_le_of_standing {text : Text} (inside : offset ≤ document.length)
    (stands : text <+: document.drop offset) : offset + text.length ≤ document.length := by
  have := stands.length_le
  rw [List.length_drop] at this
  omega

theorem matchFrom_of_known {node : Node} {place : Place}
    (known : progress.memo.knows (index, place.offset)) :
    matchFrom (node :: nodes) index place progress = (false, progress) := by
  rw [matchFrom]
  exact if_pos known

/-- A state that is not known to fail is searched and noted, if the calls behind it end as they
should. -/
theorem searching_ends {node : Node} (suffix : all.drop index = node :: nodes)
    (inside : offset ≤ document.length) (valid : progress.memo.Valid all document opened)
    (below : ∀ state ∈ opened, state.1 < index) (unknown : ¬ progress.memo.knows (index, offset))
    (goOn : ∀ stop progress, stop ≤ document.length →
      progress.memo.Valid all document ((index, offset) :: opened) →
        Ends (search nodes (.behind document stop))
          (progress.Restores all document ((index, offset) :: opened))
          (fun captured => progress.Extends all document nodes stop captured)
          (matchFrom nodes (index + 1) (.behind document stop) progress)) :
    Ends (search (node :: nodes) (.behind document offset))
      ((progress.visit (index, offset)).Restores all document opened)
      (fun captured =>
        (progress.visit (index, offset)).Extends all document (node :: nodes) offset captured)
      (matchFrom (node :: nodes) index (.behind document offset) progress) := by
  have visited : (progress.visit (index, offset)).memo.Valid all document
      ((index, offset) :: opened) :=
    valid.visit below unknown (lt_length_of_drop_eq suffix) inside
  rw [matchFrom]
  refine (if_neg unknown).symm ▸ ends_noted (fun failed => suffix ▸ failed) ?_
  cases node with
  | literal text =>
      dsimp only [search]
      cases moved : (Place.behind document offset).past? text with
      | none => exact ⟨rfl, rfl, visited, List.suffix_refl _⟩
      | some later =>
          obtain ⟨whole, rfl⟩ := Place.past?_eq_some_iff.mp moved
          have stands : text <+: document.drop offset := ⟨_, whole.symm⟩
          rw [Place.advance_behind, Option.bind_some]
          refine (goOn _ _ (length_le_of_standing inside stands) visited).imp (fun _ => id) ?_
          intro captured after extends'
          obtain ⟨spans, added, laid, texts⟩ := extends'.spans
          exact ⟨⟨spans, added, .literal text stands laid, texts⟩, extends'.valid, extends'.grown⟩
  | capture name isLazy =>
      dsimp only [search]
      exact attempts_end name isLazy (fun _ => exists_behind_of_mem_captureEnds inside) goOn visited

/-- A call of the search ends as the search without a memo does: if that finds nothing, the spans
are as they were, and otherwise the spans of what it finds are added. -/
theorem matchFrom_ends (suffix : all.drop index = nodes) (inside : offset ≤ document.length)
    (valid : progress.memo.Valid all document opened)
    (below : ∀ state ∈ opened, state.1 < index) :
    Ends (search nodes (.behind document offset)) (progress.Restores all document opened)
      (fun captured => progress.Extends all document nodes offset captured)
      (matchFrom nodes index (.behind document offset) progress) := by
  -- Each node is searched with its own state open, whatever was learned before.
  induction nodes generalizing index offset opened progress with
  | nil =>
      rw [matchFrom, search]
      cases atEnd : (Place.behind document offset).rest.isEmpty with
      | false => exact ⟨rfl, rfl, valid, List.suffix_refl _⟩
      | true =>
          have last : offset = document.length :=
            Nat.le_antisymm inside (List.drop_eq_nil_iff.mp (List.isEmpty_iff.mp atEnd))
          exact ⟨rfl, ⟨[], (List.append_nil _).symm, last ▸ .nil, rfl⟩, ⟨opened, valid⟩,
            List.suffix_refl _⟩
  | cons node nodes ih =>
      by_cases known : progress.memo.knows (index, offset)
      · have failed := valid.sound index offset known
        rw [suffix] at failed
        rw [failed, matchFrom_of_known known]
        exact ⟨rfl, rfl, valid, List.suffix_refl _⟩
      · have searched : progress.memo.searched <:+
            (progress.visit (index, offset)).memo.searched := List.suffix_cons _ _
        have ends := searching_ends suffix inside valid below known
          fun stop progress inside valid =>
            ih (drop_succ_eq suffix) inside valid (below_succ below)
        refine ends.imp ?_ ?_
        · intro after restores
          exact ⟨restores.spans, restores.valid, searched.trans restores.grown⟩
        · intro captured after extends'
          exact ⟨extends'.spans, extends'.valid, searched.trans extends'.grown⟩

end Calls

/-! ### Every call -/

/-- A call of the search: the nodes that are left, the number of the first of them, the place, and
how far the search has come. -/
structure Call where
  nodes : List Node
  index : Nat
  place : Place
  progress : Progress

namespace Call

def outcome (call : Call) : Bool × Progress :=
  matchFrom call.nodes call.index call.place call.progress

/-- The node and the place that a call searches from. -/
def state (call : Call) : Nat × Nat :=
  (call.index, call.place.offset)

/-- One call makes another one: behind a literal that stands at its place, or behind an end of a
capture once the ends that are tried earlier have failed. -/
inductive Makes : Call → Call → Prop where
  | literal {nodes : List Node} {index : Nat} {place later : Place} {progress : Progress}
      (text : Text) :
      ¬ progress.memo.knows (index, place.offset) → place.past? text = some later →
      Makes ⟨.literal text :: nodes, index, place, progress⟩
        ⟨nodes, index + 1, later, progress.visit (index, place.offset)⟩
  | capture {nodes : List Node} {index : Nat} {place later : Place} {progress failed : Progress}
      {earlier others : List Place} (name : Text) (isLazy : Bool) :
      ¬ progress.memo.knows (index, place.offset) →
      captureEnds isLazy nodes place = earlier ++ later :: others →
      firstSuccess (attemptEnd (matchFrom nodes (index + 1)) place) earlier
        (progress.visit (index, place.offset)) = (false, failed) →
      Makes ⟨.capture name isLazy :: nodes, index, place, progress⟩
        ⟨nodes, index + 1, later, failed.push ⟨place.offset, later.offset⟩⟩

theorem Makes.firstEnd {nodes : List Node} {index : Nat} {place later : Place}
    {progress : Progress} {others : List Place} (name : Text) {isLazy : Bool}
    (unknown : ¬ progress.memo.knows (index, place.offset))
    (ends : captureEnds isLazy nodes place = later :: others) :
    Makes ⟨.capture name isLazy :: nodes, index, place, progress⟩
      ⟨nodes, index + 1, later,
        (progress.visit (index, place.offset)).push ⟨place.offset, later.offset⟩⟩ := by
  have noneEarlier : captureEnds isLazy nodes place = [] ++ later :: others := ends
  exact .capture name isLazy unknown noneEarlier rfl

/-- The calls that are made when a grammar is matched against a document. -/
inductive MadeIn (grammar : Grammar) (document : Text) : Call → Prop where
  | first : MadeIn grammar document ⟨grammar.nodes, 0, .start document, .initial⟩
  | inner {call call' : Call} :
      MadeIn grammar document call → call.Makes call' → MadeIn grammar document call'

/-- What holds at the beginning of every call: it is about the last nodes and the end of the
document, and its memo is valid while the states of the calls around it are open. -/
def Ready (nodes : List Node) (document : Text) (call : Call) : Prop :=
  nodes.drop call.index = call.nodes ∧
    (∃ offset ≤ document.length, call.place = .behind document offset) ∧
    ∃ opened, call.progress.memo.Valid nodes document opened ∧
      ∀ state ∈ opened, state.1 < call.index

section Steps

variable {grammar : Grammar} {document : Text} {call call' : Call}

theorem Ready.makes (ready : call.Ready grammar.nodes document) (makes : call.Makes call') :
    call'.Ready grammar.nodes document := by
  obtain ⟨suffix, ⟨offset, inside, same⟩, opened, valid, below⟩ := ready
  cases makes with
  | literal text unknown moved =>
      dsimp only at suffix same valid below
      obtain rfl := same
      obtain ⟨whole, rfl⟩ := Place.past?_eq_some_iff.mp moved
      have within := length_le_of_standing inside ⟨_, whole.symm⟩
      exact ⟨drop_succ_eq suffix, ⟨_, within, Place.advance_behind _ _ _⟩, _,
        valid.visit below unknown (lt_length_of_drop_eq suffix) inside, below_succ below⟩
  | @capture nodes index _ _ progress failed earlier _ name isLazy unknown ends fails =>
      dsimp only at suffix same valid below
      obtain rfl := same
      have visited : (progress.visit (index, offset)).memo.Valid grammar.nodes document
          ((index, offset) :: opened) :=
        valid.visit below unknown (lt_length_of_drop_eq suffix) inside
      have among (place : Place) (member : place ∈ earlier) :=
        exists_behind_of_mem_captureEnds inside (ends ▸ List.mem_append_left _ member)
      obtain ⟨stop, -, within, rfl⟩ := exists_behind_of_mem_captureEnds inside
        (ends ▸ List.mem_append_right _ List.mem_cons_self)
      have attempted := attempts_end name isLazy among
        (fun stop progress inside valid =>
          matchFrom_ends (drop_succ_eq suffix) inside valid (below_succ below)) visited
      have left : (firstSuccess (attemptEnd (matchFrom nodes (index + 1)) (.behind document offset))
          earlier (progress.visit (index, offset))).2 = failed := congrArg Prod.snd fails
      have valid := (attempted.of_failure (congrArg Prod.fst fails)).valid
      rw [left] at valid
      exact ⟨drop_succ_eq suffix, ⟨stop, within, rfl⟩, _, valid, below_succ below⟩

theorem MadeIn.ready (made : call.MadeIn grammar document) :
    call.Ready grammar.nodes document := by
  induction made with
  | first =>
      exact ⟨rfl, ⟨0, Nat.zero_le _, rfl⟩, [], .empty, fun _ member => nomatch member⟩
  | inner _ makes ih => exact ih.makes makes

end Steps

/-- What a call keeps: only states that cannot match are noted as failed, before it and after it; a
failure leaves the spans as they were, and a success adds one span for each capture that is left; a
state that has failed is not searched, and no state is searched twice. -/
structure Keeps (grammar : Grammar) (document : Text) (call : Call) : Prop where
  failed : ∀ index offset,
    call.progress.memo.knows (index, offset) ∨ call.outcome.2.memo.knows (index, offset) →
      ∀ captured, ¬ Decomposes (grammar.nodes.drop index) (document.drop offset) captured
  restored : call.outcome.1 = false → call.outcome.2.spans = call.progress.spans
  added : call.outcome.1 = true → ∃ spans, call.outcome.2.spans = call.progress.spans ++ spans ∧
    spans.length = (call.nodes.filterMap Node.name?).length ∧
    LaidOut document call.nodes call.place.offset spans
  cutOff : call.nodes ≠ [] → call.progress.memo.knows call.state →
    call.outcome = (false, call.progress)
  searches : call.nodes ≠ [] → ¬ call.progress.memo.knows call.state →
    call.state :: call.progress.memo.searched <:+ call.outcome.2.memo.searched
  once : call.outcome.2.memo.searched.Nodup
  few : call.outcome.2.memo.searched.length ≤ grammar.nodes.length * (document.length + 1)

section Outcomes

variable {grammar : Grammar} {document : Text} {call : Call}

theorem Ready.exists_valid (ready : call.Ready grammar.nodes document) :
    ∃ opened, call.outcome.2.memo.Valid grammar.nodes document opened := by
  obtain ⟨nodes, index, place, progress⟩ := call
  obtain ⟨suffix, ⟨offset, inside, rfl⟩, opened, valid, below⟩ := ready
  have ends := matchFrom_ends suffix inside valid below
  cases found : (matchFrom nodes index (.behind document offset) progress).1 with
  | false => exact ⟨opened, (ends.of_failure found).valid⟩
  | true =>
      obtain ⟨_, extended⟩ := ends.of_success found
      exact extended.valid

theorem Ready.searches (ready : call.Ready grammar.nodes document) (left : call.nodes ≠ [])
    (unknown : ¬ call.progress.memo.knows call.state) :
    call.state :: call.progress.memo.searched <:+ call.outcome.2.memo.searched := by
  obtain ⟨nodes, index, place, progress⟩ := call
  obtain ⟨suffix, ⟨offset, inside, rfl⟩, opened, valid, below⟩ := ready
  obtain ⟨node, nodes, rfl⟩ := List.exists_cons_of_ne_nil left
  have ends := searching_ends suffix inside valid below unknown
    fun stop progress inside valid =>
      matchFrom_ends (drop_succ_eq suffix) inside valid (below_succ below)
  cases found : (matchFrom (node :: nodes) index (.behind document offset) progress).1 with
  | false => exact (ends.of_failure found).grown
  | true =>
      obtain ⟨_, extended⟩ := ends.of_success found
      exact extended.grown

theorem Ready.keeps (ready : call.Ready grammar.nodes document) : call.Keeps grammar document := by
  obtain ⟨opened, valid⟩ := ready.exists_valid
  have searches := ready.searches
  obtain ⟨nodes, index, place, progress⟩ := call
  obtain ⟨suffix, ⟨offset, inside, rfl⟩, openedBefore, validBefore, below⟩ := ready
  have ends := matchFrom_ends suffix inside validBefore below
  refine ⟨?_, fun fails => (ends.of_failure fails).spans, ?_, ?_, searches, valid.once,
    valid.length_searched_le⟩
  · rintro index offset (known | known)
    · exact search_eq_none_iff.mp (validBefore.sound index offset known)
    · exact search_eq_none_iff.mp (valid.sound index offset known)
  · intro succeeds
    obtain ⟨captured, extended⟩ := ends.of_success succeeds
    obtain ⟨spans, added, laid, -⟩ := extended.spans
    exact ⟨spans, added, laid.length_spans, laid⟩
  · intro left known
    obtain ⟨node, nodes, rfl⟩ := List.exists_cons_of_ne_nil left
    exact matchFrom_of_known known

end Outcomes

end Call

/-- Every call that is made when a document is matched keeps the invariants of the search. -/
theorem search_invariants (grammar : Grammar) (document : Text) (call : Call)
    (made : call.MadeIn grammar document) : call.Keeps grammar document :=
  made.ready.keeps

/-- Behind three adjacent captures a state is reached a second time, after it has failed: it is not
searched again, and the spans of the captures in front of it stay. -/
theorem search_invariants_reached_again :
    let nodes : List Node := [.capture "a".text true, .capture "b".text true,
      .capture "c".text true, .literal "x".text]
    let grammar : Grammar := ⟨["a".text, "b".text, "c".text], nodes⟩
    let document := "1".text
    let failed := (firstSuccess (attemptEnd (matchFrom nodes.tail 1) (.start document))
      [.start document] (Progress.initial.visit (0, 0))).2
    let second : Call := ⟨nodes.tail, 1, .behind document 1, failed.push ⟨0, 1⟩⟩
    let third : Call :=
      ⟨nodes.tail.tail, 2, .behind document 1, (second.progress.visit (1, 1)).push ⟨1, 1⟩⟩
    third.MadeIn grammar document ∧
      third.progress.memo.searched = [(1, 1), (2, 1), (2, 0), (1, 0), (0, 0)] ∧
      third.progress.spans = [⟨0, 1⟩, ⟨1, 1⟩] ∧ third.outcome = (false, third.progress) ∧
      ∀ captured, ¬ Decomposes nodes.tail.tail [] captured := by
  intro nodes grammar document failed second third
  have firstEnds : captureEnds true nodes.tail (.start document) =
      [.start document] ++ [.behind document 1] := by decide +kernel
  have secondEnds : captureEnds true nodes.tail.tail (.behind document 1) =
      [.behind document 1] := by decide +kernel
  have ends : captureEnds true [.capture "c".text true, .literal "x".text] ⟨0, document⟩ =
      [⟨0, document⟩, ⟨1, []⟩] := by decide +kernel
  have noEnd (place : Place) (inside : place ∈ [⟨0, document⟩, ⟨1, []⟩]) :
      captureEnds true [.literal "x".text] place = [] := by
    revert place
    decide +kernel
  have learned : (firstSuccess (attemptEnd (matchFrom nodes.tail 1) (.start document))
        [.start document] (Progress.initial.visit (0, 0))).1 = false ∧
      failed.spans = [] ∧ failed.memo.searched = [(2, 1), (2, 0), (1, 0), (0, 0)] ∧
      failed.memo.knows (1, 1) = false ∧ failed.memo.knows (2, 1) = true := by
    have noEndFirst := noEnd ⟨0, document⟩ (by simp)
    have noEndSecond := noEnd ⟨1, []⟩ (by simp)
    simp [failed, nodes, firstSuccess, attemptEnd, matchFrom, ends, noEndFirst, noEndSecond, noted,
      Place.start, Progress.initial, Progress.visit, Progress.push, Progress.pop, Progress.fail,
      Memo.empty, Memo.knows, Memo.visit, Memo.fail]
  obtain ⟨fails, spans, searched, unknown, known⟩ := learned
  have nothingKnown : Progress.initial.memo.knows (0, 0) = false := by
    simp [Progress.initial, Memo.empty, Memo.knows]
  have madeSecond : second.MadeIn grammar document :=
    .inner .first
      (.capture _ _ (Bool.eq_false_iff.mp nothingKnown) firstEnds (Prod.ext fails rfl))
  have madeThird : third.MadeIn grammar document :=
    .inner madeSecond (.firstEnd _ (Bool.eq_false_iff.mp unknown) secondEnds)
  have passed : third.progress.spans = [⟨0, 1⟩, ⟨1, 1⟩] := by
    simp only [third, second, Progress.push, Progress.visit, spans]
    rfl
  have keeps := search_invariants grammar document third madeThird
  exact ⟨madeThird, congrArg ((1, 1) :: ·) searched, passed,
    keeps.cutOff (List.cons_ne_nil _ _) known, keeps.failed 2 1 (.inl known)⟩

end LicenseSeal.Grammar
