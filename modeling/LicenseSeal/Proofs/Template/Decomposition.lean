import LicenseSeal.Template.Grammar

/-!
# Decompositions of a document

`Decomposes` says which documents a sequence of nodes describes and which texts its captures take
there, without any search.  A document can have many decompositions; `Prefers` compares two of them
capture by capture, and `IsMostPreferred` singles out the one that comes before all others.
-/

namespace LicenseSeal.Grammar

/-- A document is made of the literal texts of some nodes and of one text for each capture, one
after the other. -/
inductive Decomposes : List Node → Text → List Text → Prop where
  | nil : Decomposes [] [] []
  | literal {nodes : List Node} {document : Text} {captured : List Text} (text : Text) :
      Decomposes nodes document captured →
      Decomposes (.literal text :: nodes) (text ++ document) captured
  | capture {nodes : List Node} {document : Text} {captured : List Text}
      (name : Text) (isLazy : Bool) (span : Text) :
      Decomposes nodes document captured →
      Decomposes (.capture name isLazy :: nodes) (span ++ document) (span :: captured)

/-- At the first capture that takes texts of different lengths, the first decomposition has the
shorter one if the capture is lazy and the longer one if it is not. -/
inductive Prefers : List Node → List Text → List Text → Prop where
  | literal {nodes : List Node} {first second : List Text} (text : Text) :
      Prefers nodes first second → Prefers (.literal text :: nodes) first second
  | shorter {nodes : List Node} {first second : List Text} {span other : Text} (name : Text) :
      span.length < other.length →
      Prefers (.capture name true :: nodes) (span :: first) (other :: second)
  | longer {nodes : List Node} {first second : List Text} {span other : Text} (name : Text) :
      other.length < span.length →
      Prefers (.capture name false :: nodes) (span :: first) (other :: second)
  | later {nodes : List Node} {first second : List Text} {span other : Text}
      (name : Text) (isLazy : Bool) :
      span.length = other.length → Prefers nodes first second →
      Prefers (.capture name isLazy :: nodes) (span :: first) (other :: second)

/-- A decomposition of a document that is preferred to every other one. -/
structure IsMostPreferred (nodes : List Node) (document : Text) (captured : List Text) : Prop where
  decomposes : Decomposes nodes document captured
  preferred : ∀ other, Decomposes nodes document other →
    other = captured ∨ Prefers nodes captured other

theorem decomposes_nil_iff {document : Text} {captured : List Text} :
    Decomposes [] document captured ↔ document = [] ∧ captured = [] := by
  constructor
  · intro decomposition
    cases decomposition
    exact ⟨rfl, rfl⟩
  · rintro ⟨rfl, rfl⟩
    exact .nil

theorem decomposes_literal_iff
    {text : Text} {nodes : List Node} {document : Text} {captured : List Text} :
    Decomposes (.literal text :: nodes) document captured ↔
      ∃ rest, document = text ++ rest ∧ Decomposes nodes rest captured := by
  constructor
  · intro decomposition
    cases decomposition with
    | literal _ behind => exact ⟨_, rfl, behind⟩
  · rintro ⟨rest, rfl, behind⟩
    exact .literal text behind

theorem decomposes_capture_iff
    {name : Text} {isLazy : Bool} {nodes : List Node} {document : Text} {captured : List Text} :
    Decomposes (.capture name isLazy :: nodes) document captured ↔
      ∃ span rest others, document = span ++ rest ∧ captured = span :: others ∧
        Decomposes nodes rest others := by
  constructor
  · intro decomposition
    cases decomposition with
    | capture _ _ span behind => exact ⟨span, _, _, rfl, rfl, behind⟩
  · rintro ⟨span, rest, others, rfl, rfl, behind⟩
    exact .capture name isLazy span behind

namespace Decomposes

variable {nodes : List Node} {document : Text} {captured : List Text}

theorem length_captured (decomposition : Decomposes nodes document captured) :
    captured.length = (nodes.filterMap Node.name?).length := by
  induction decomposition with
  | nil => rfl
  | literal text _ ih =>
      rw [List.filterMap_cons_none rfl]
      exact ih
  | capture name isLazy span _ ih =>
      have named : (Node.capture name isLazy).name? = some name := rfl
      rw [List.filterMap_cons_some named, List.length_cons, List.length_cons, ih]

theorem document_eq {document' : Text} (decomposition : Decomposes nodes document captured)
    (decomposition' : Decomposes nodes document' captured) : document = document' := by
  induction decomposition generalizing document' with
  | nil => exact (decomposes_nil_iff.mp decomposition').1.symm
  | literal text _ ih =>
      obtain ⟨rest, rfl, behind⟩ := decomposes_literal_iff.mp decomposition'
      rw [ih behind]
  | capture name isLazy span _ ih =>
      obtain ⟨span', rest, others, rfl, same, behind⟩ := decomposes_capture_iff.mp decomposition'
      obtain ⟨rfl, rfl⟩ := List.cons.inj same
      rw [ih behind]

/-- Two documents of the same nodes differ in the number of code points of a kind as much as the
texts captured from them. -/
theorem countP_flatten_add (kind : CodePoint → Bool) {document' : Text} {captured' : List Text}
    (decomposition : Decomposes nodes document captured)
    (decomposition' : Decomposes nodes document' captured') :
    captured.flatten.countP kind + document'.countP kind =
      captured'.flatten.countP kind + document.countP kind := by
  induction decomposition generalizing document' captured' with
  | nil =>
      obtain ⟨rfl, rfl⟩ := decomposes_nil_iff.mp decomposition'
      rfl
  | literal text _ ih =>
      obtain ⟨rest, rfl, behind⟩ := decomposes_literal_iff.mp decomposition'
      have := ih behind
      simp only [List.countP_append]
      omega
  | capture name isLazy span _ ih =>
      obtain ⟨span', rest, others, rfl, rfl, behind⟩ := decomposes_capture_iff.mp decomposition'
      have := ih behind
      simp only [List.flatten_cons, List.countP_append]
      omega

theorem length_flatten_add {document' : Text} {captured' : List Text}
    (decomposition : Decomposes nodes document captured)
    (decomposition' : Decomposes nodes document' captured') :
    captured.flatten.length + document'.length =
      captured'.flatten.length + document.length := by
  simpa using countP_flatten_add (fun _ => true) decomposition decomposition'

theorem mem_document {span : Text} {c : CodePoint}
    (decomposition : Decomposes nodes document captured) (taken : span ∈ captured)
    (inside : c ∈ span) : c ∈ document := by
  induction decomposition with
  | nil => cases taken
  | literal text _ ih => exact List.mem_append_right _ (ih taken)
  | capture name isLazy first _ ih =>
      rcases List.mem_cons.mp taken with rfl | later
      · exact List.mem_append_left _ inside
      · exact List.mem_append_right _ (ih later)

end Decomposes

namespace Prefers

variable {nodes : List Node} {first second : List Text}

theorem asymm (preference : Prefers nodes first second) : ¬ Prefers nodes second first := by
  induction preference with
  | literal text _ ih =>
      intro reverse
      cases reverse with
      | literal _ behind => exact ih behind
  | shorter name less =>
      intro reverse
      cases reverse with
      | shorter _ greater => omega
      | later _ _ same _ => omega
  | longer name greater =>
      intro reverse
      cases reverse with
      | longer _ less => omega
      | later _ _ same _ => omega
  | later name isLazy same _ ih =>
      intro reverse
      cases reverse with
      | shorter _ greater => omega
      | longer _ less => omega
      | later _ _ _ behind => exact ih behind

/-- If every capture is lazy, the preferred decomposition has the lexicographically smaller list of
lengths. -/
theorem lengths_lex (preference : Prefers nodes first second)
    (allLazy : ∀ name, Node.capture name false ∉ nodes) :
    List.Lex (· < ·) (first.map List.length) (second.map List.length) := by
  induction preference with
  | literal text _ ih =>
      exact ih fun name member => allLazy name (List.mem_cons_of_mem _ member)
  | shorter name less => exact List.Lex.rel less
  | longer name _ => exact (allLazy name List.mem_cons_self).elim
  | later name isLazy same _ ih =>
      have behind := ih fun name member => allLazy name (List.mem_cons_of_mem _ member)
      simp only [List.map_cons, same]
      exact List.Lex.cons behind

end Prefers

namespace IsMostPreferred

variable {nodes : List Node} {document : Text} {captured : List Text}

theorem unique {first second : List Text} (best : IsMostPreferred nodes document first)
    (best' : IsMostPreferred nodes document second) : first = second := by
  rcases best.preferred second best'.decomposes with same | preference
  · exact same.symm
  · rcases best'.preferred first best.decomposes with same | reverse
    · exact same
    · exact (preference.asymm reverse).elim

theorem of_literal {text : Text}
    (best : IsMostPreferred (.literal text :: nodes) (text ++ document) captured) :
    IsMostPreferred nodes document captured := by
  constructor
  · obtain ⟨rest, same, behind⟩ := decomposes_literal_iff.mp best.decomposes
    rw [List.append_cancel_left same]
    exact behind
  · intro other decomposition
    rcases best.preferred other (.literal text decomposition) with same | preference
    · exact .inl same
    · cases preference with
      | literal _ behind => exact .inr behind

theorem of_capture {name span : Text} {isLazy : Bool}
    (best : IsMostPreferred (.capture name isLazy :: nodes) (span ++ document)
      (span :: captured)) :
    IsMostPreferred nodes document captured := by
  constructor
  · obtain ⟨span', rest, others, sameDocument, sameTexts, behind⟩ :=
      decomposes_capture_iff.mp best.decomposes
    obtain ⟨rfl, rfl⟩ := List.cons.inj sameTexts
    rw [List.append_cancel_left sameDocument]
    exact behind
  · intro other decomposition
    rcases best.preferred _ (.capture name isLazy span decomposition) with same | preference
    · exact .inl (List.cons.inj same).2
    · cases preference with
      | shorter _ less => exact (Nat.lt_irrefl _ less).elim
      | longer _ less => exact (Nat.lt_irrefl _ less).elim
      | later _ _ _ behind => exact .inr behind

theorem length_le {name span span' : Text} {others : List Text}
    (best : IsMostPreferred (.capture name true :: nodes) document (span :: captured))
    (decomposition : Decomposes (.capture name true :: nodes) document (span' :: others)) :
    span.length ≤ span'.length := by
  rcases best.preferred _ decomposition with same | preference
  · exact Nat.le_of_eq (congrArg List.length (List.cons.inj same).1.symm)
  · cases preference with
    | shorter _ less => exact Nat.le_of_lt less
    | later _ _ same _ => exact Nat.le_of_eq same

end IsMostPreferred

end LicenseSeal.Grammar
