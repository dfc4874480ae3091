import LicenseSeal.Template.Grammar
import Std.Data.HashSet.Basic

/-!
# Matching a document

`Grammar.captures?` finds the texts captured by the nodes of a grammar, the whole document being
used up.  The search goes through the nodes in order and tries the ends of a capture one after the
other, the shortest first if the capture is lazy.  It keeps the spans of the captures that it has
passed, and takes back the span of an end that has failed.  A `Memo` keeps the states from which
nothing was found, so that none of them is searched again.
-/

namespace LicenseSeal.Grammar

/-- A place in a document: the number of characters in front of it and the text after it. -/
structure Place where
  offset : Nat
  rest : Text
  deriving DecidableEq, Repr

namespace Place

/-- The beginning of a document. -/
def start (document : Text) : Place :=
  ⟨0, document⟩

/-- The places from an offset to the end of the text after it. -/
def allFrom (offset : Nat) : Text → List Place
  | [] => [⟨offset, []⟩]
  | c :: rest => ⟨offset, c :: rest⟩ :: allFrom (offset + 1) rest

/-- A place and all places after it. -/
def onward (place : Place) : List Place :=
  allFrom place.offset place.rest

/-- The end of the document. -/
def final (place : Place) : Place :=
  ⟨place.offset + place.rest.length, []⟩

/-- Whether a text stands at a place. -/
def shows (text : Text) (place : Place) : Bool :=
  (Text.dropLead? text place.rest).isSome

/-- The place one character on; there is none behind the end. -/
def next? : Place → Option Place
  | ⟨_, []⟩ => none
  | ⟨offset, _ :: rest⟩ => some ⟨offset + 1, rest⟩

/-- The first place where a text stands, from an offset on in front of what is left. -/
def firstFrom? (text : Text) (offset : Nat) : Text → Option Place
  | [] => if shows text ⟨offset, []⟩ then some ⟨offset, []⟩ else none
  | c :: rest =>
      if shows text ⟨offset, c :: rest⟩ then some ⟨offset, c :: rest⟩
      else firstFrom? text (offset + 1) rest

/-- The first place from here on where a text stands. -/
def first? (text : Text) (place : Place) : Option Place :=
  firstFrom? text place.offset place.rest

theorem length_rest_of_next? {place next : Place} (moved : place.next? = some next) :
    next.rest.length < place.rest.length := by
  match place, moved with
  | ⟨_, _ :: rest⟩, moved =>
      obtain rfl := Option.some.inj moved
      exact Nat.lt_succ_self rest.length

theorem length_rest_of_firstFrom? {text rest : Text} {offset : Nat} {found : Place}
    (finds : firstFrom? text offset rest = some found) : found.rest.length ≤ rest.length := by
  induction rest generalizing offset with
  | nil =>
      rw [firstFrom?] at finds
      split at finds
      · obtain rfl := Option.some.inj finds
        exact Nat.le_refl _
      · cases finds
  | cons c rest ih =>
      rw [firstFrom?] at finds
      split at finds
      · obtain rfl := Option.some.inj finds
        exact Nat.le_refl _
      · exact Nat.le_succ_of_le (ih finds)

/-- The places from here on where a text stands, overlapping ones included: behind each of them the
search goes on one character later. -/
def occurrences (text : Text) (place : Place) : List Place :=
  match _finds : place.first? text with
  | none => []
  | some found =>
      match _moved : found.next? with
      | none => [found]
      | some next => found :: occurrences text next
termination_by place.rest.length
decreasing_by
  exact Nat.lt_of_lt_of_le (length_rest_of_next? _moved) (length_rest_of_firstFrom? _finds)

theorem occurrences_of_absent {text : Text} {place : Place} (absent : place.first? text = none) :
    place.occurrences text = [] := by
  rw [occurrences]
  split
  · rfl
  · next finds => cases absent.symm.trans finds

theorem occurrences_of_last {text : Text} {place found : Place}
    (finds : place.first? text = some found) (last : found.next? = none) :
    place.occurrences text = [found] := by
  rw [occurrences]
  split
  · next absent => cases finds.symm.trans absent
  · next finds' =>
      obtain rfl := Option.some.inj (finds.symm.trans finds')
      split
      · rfl
      · next moved => cases last.symm.trans moved

theorem occurrences_of_next {text : Text} {place found next : Place}
    (finds : place.first? text = some found) (moved : found.next? = some next) :
    place.occurrences text = found :: next.occurrences text := by
  rw [occurrences]
  split
  · next absent => cases finds.symm.trans absent
  · next finds' =>
      obtain rfl := Option.some.inj (finds.symm.trans finds')
      split
      · next last => cases moved.symm.trans last
      · next moved' =>
          obtain rfl := Option.some.inj (moved.symm.trans moved')
          rfl

/-- The place behind a text that stands here. -/
def past? (text : Text) (place : Place) : Option Place :=
  (Text.dropLead? text place.rest).map fun rest => ⟨place.offset + text.length, rest⟩

end Place

/-- The ends that a capture in front of `nodes` can have, in the order in which they are tried: the
end of the document if nothing follows, the occurrences of a literal that follows, any place in
front of another capture. -/
def captureEnds (isLazy : Bool) (nodes : List Node) (place : Place) : List Place :=
  match nodes with
  | [] => [place.final]
  | .literal text :: _ => directed (place.occurrences text)
  | .capture _ _ :: _ => directed place.onward
where
  directed (ends : List Place) : List Place := if isLazy then ends else ends.reverse

/-- Where a captured text begins and where it ends. -/
structure Span where
  start : Nat
  stop : Nat
  deriving DecidableEq, Repr

/-- The text of a span. -/
def Span.textIn (document : Text) (span : Span) : Text :=
  (document.drop span.start).take (span.stop - span.start)

/-- What a search has learned: the states from which nothing can be found, and every state that was
searched, the latest first.  A state is a number of nodes and an offset. -/
structure Memo where
  failed : Std.HashSet (Nat × Nat)
  searched : List (Nat × Nat)

namespace Memo

/-- Nothing learned yet. -/
def empty : Memo := ⟨∅, []⟩

/-- Whether a state is known to fail. -/
def knows (memo : Memo) (state : Nat × Nat) : Bool :=
  memo.failed.contains state

/-- Notes that a state is searched. -/
def visit (memo : Memo) (state : Nat × Nat) : Memo :=
  ⟨memo.failed, state :: memo.searched⟩

/-- Notes that a state has failed. -/
def fail (memo : Memo) (state : Nat × Nat) : Memo :=
  ⟨memo.failed.insert state, memo.searched⟩

end Memo

/-- How far a search has come: the spans of the captures that it has passed, in order, and what it
has learned. -/
structure Progress where
  spans : List Span
  memo : Memo

namespace Progress

/-- Nothing passed and nothing learned yet. -/
def initial : Progress := ⟨[], Memo.empty⟩

/-- Passes a capture. -/
def push (progress : Progress) (span : Span) : Progress :=
  { progress with spans := progress.spans ++ [span] }

/-- Takes the last capture back. -/
def pop (progress : Progress) : Progress :=
  { progress with spans := progress.spans.dropLast }

/-- Notes that a state is searched. -/
def visit (progress : Progress) (state : Nat × Nat) : Progress :=
  { progress with memo := progress.memo.visit state }

/-- Notes that a state has failed. -/
def fail (progress : Progress) (state : Nat × Nat) : Progress :=
  { progress with memo := progress.memo.fail state }

end Progress

/-- Goes on behind one end of a capture that begins at a place, and takes the capture back if that
fails. -/
def attemptEnd (goOn : Place → Progress → Bool × Progress) (place later : Place)
    (progress : Progress) : Bool × Progress :=
  match goOn later (progress.push ⟨place.offset, later.offset⟩) with
  | (true, progress) => (true, progress)
  | (false, progress) => (false, progress.pop)

/-- Makes attempts at several places until one succeeds. -/
def firstSuccess (attempt : Place → Progress → Bool × Progress) :
    List Place → Progress → Bool × Progress
  | [], progress => (false, progress)
  | place :: places, progress =>
      match attempt place progress with
      | (true, progress) => (true, progress)
      | (false, progress) => firstSuccess attempt places progress

/-- Notes that a state has failed, if it has. -/
def noted (state : Nat × Nat) : Bool × Progress → Bool × Progress
  | (true, progress) => (true, progress)
  | (false, progress) => (false, progress.fail state)

/-- Whether the nodes from number `index` on match from a place to the end of the document; if they
do, the spans of their captures are added. -/
def matchFrom : List Node → (index : Nat) → Place → Progress → Bool × Progress
  | [], _, place, progress => (place.rest.isEmpty, progress)
  | node :: nodes, index, place, progress =>
      let state := (index, place.offset)
      if progress.memo.knows state then (false, progress)
      else
        let visited := progress.visit state
        noted state <|
          match node with
          | .literal text =>
              match place.past? text with
              | none => (false, visited)
              | some later => matchFrom nodes (index + 1) later visited
          | .capture _ isLazy =>
              firstSuccess (attemptEnd (matchFrom nodes (index + 1)) place)
                (captureEnds isLazy nodes place) visited

/-- The texts that a grammar captures from a document, one for each capture in order. -/
def captures? (grammar : Grammar) (document : Text) : Option (List Text) :=
  match matchFrom grammar.nodes 0 (Place.start document) Progress.initial with
  | (true, progress) => some (progress.spans.map (Span.textIn document))
  | (false, _) => none

end LicenseSeal.Grammar
