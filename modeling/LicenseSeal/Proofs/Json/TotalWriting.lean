import LicenseSeal.Json.Writer

/-!
# Values that are always written

A value of texts, truth values and whole numbers has a JSON form if its mappings have texts as keys.
Only other scalars, a number with too many digits, and keys without an order between them keep a
value from being written.
-/

namespace LicenseSeal

/-- A value of texts, truth values and whole numbers that are not too long, whose mappings have
texts as keys. -/
inductive Value.Writable : Value → Prop where
  | text (content : Text) : Writable (.text content)
  | bool (truth : Bool) : Writable (.bool truth)
  | int {number : Int} : Integer.isTooLong number = false → Writable (.int number)
  | list {items : List Value} : (∀ item ∈ items, Writable item) → Writable (.list items)
  | map {entries : List (Scalar × Value)} : (∀ entry ∈ entries, ∃ name, entry.1 = .text name) →
      (∀ entry ∈ entries, Writable entry.2) → Writable (.map entries)

namespace Json

section Sorting

variable {α : Type} {entries : List (Scalar × α)}

/-- Entries whose keys are texts. -/
def Named (entries : List (Scalar × α)) : Prop :=
  ∀ entry ∈ entries, ∃ name, entry.1 = .text name

theorem Named.perm {entries' : List (Scalar × α)} (named : Named entries)
    (same : entries'.Perm entries) : Named entries' := by
  intro entry member
  exact named entry (same.mem_iff.mp member)

theorem exists_keyBefore {first second : Scalar × α} (named : ∃ name, first.1 = .text name)
    (named' : ∃ name, second.1 = .text name) :
    ∃ before, keyBefore first.1 second.1 = .ok before := by
  obtain ⟨name, same⟩ := named
  obtain ⟨name', same'⟩ := named'
  rw [same, same']
  exact ⟨_, rfl⟩

theorem exists_runLength (descending : Bool) {previous : Scalar × α}
    (named : Named (previous :: entries)) :
    ∃ length, runLength descending previous entries = .ok length := by
  induction entries generalizing previous with
  | nil => exact ⟨1, rfl⟩
  | cons next rest ih =>
      obtain ⟨length, counted⟩ := ih fun entry member => named entry (List.mem_cons_of_mem _ member)
      obtain ⟨before, compared⟩ := exists_keyBefore
        (named next (List.mem_cons_of_mem _ List.mem_cons_self)) (named previous List.mem_cons_self)
      rw [runLength, compared]
      by_cases continues : before = descending
      · exact ⟨length + 1, by simp [bind, Except.bind, continues, counted, pure, Except.pure]⟩
      · exact ⟨1, by simp [bind, Except.bind, continues, pure, Except.pure]⟩

theorem exists_insertionPoint {sorted : Array (Scalar × α)} {entry : Scalar × α}
    (named : Named sorted.toList) (named' : ∃ name, entry.1 = .text name) (fuel low high : Nat) :
    ∃ place, insertionPoint sorted entry.1 fuel low high = .ok place := by
  induction fuel generalizing low high with
  | zero => exact ⟨low, rfl⟩
  | succ fuel ih =>
      rw [insertionPoint]
      split
      · dsimp only
        split
        · exact ⟨low, rfl⟩
        · next other found =>
            have member := Array.mem_toList_iff.mpr (Array.mem_of_getElem? found)
            obtain ⟨before, compared⟩ := exists_keyBefore named' (named other member)
            rw [compared]
            cases before with
            | true => exact ih low _
            | false => exact ih _ high
      · exact ⟨low, rfl⟩

theorem exists_insertAll {sorted : Array (Scalar × α)}
    (named : Named (sorted.toList ++ entries)) :
    ∃ result, insertAll sorted entries = .ok result ∧
      result.toList.Perm (sorted.toList ++ entries) := by
  induction entries generalizing sorted with
  | nil => exact ⟨sorted, rfl, by rw [List.append_nil]⟩
  | cons entry rest ih =>
      obtain ⟨place, found⟩ := exists_insertionPoint
        (fun other member => named other (List.mem_append_left _ member))
        (named entry (List.mem_append_right _ List.mem_cons_self))
        (sorted.size + 1) 0 sorted.size
      have inserted : (sorted.toList.take place ++ entry :: sorted.toList.drop place ++ rest).Perm
          (sorted.toList ++ entry :: rest) := by
        refine (List.perm_middle.append_right rest).trans ?_
        rw [List.take_append_drop, List.cons_append]
        exact List.perm_middle.symm
      obtain ⟨result, built, same⟩ := ih (named.perm inserted)
      refine ⟨result, ?_, same.trans inserted⟩
      rw [insertAll, found]
      exact built

theorem exists_sortEntries (named : Named entries) :
    ∃ sorted, sortEntries entries = .ok sorted ∧ sorted.Perm entries := by
  match entries, named with
  | [], _ => exact ⟨[], rfl, .nil⟩
  | [only], _ => exact ⟨[only], rfl, .refl _⟩
  | first :: second :: rest, named =>
      obtain ⟨descending, compared⟩ := exists_keyBefore
        (named second (List.mem_cons_of_mem _ List.mem_cons_self))
        (named first List.mem_cons_self)
      obtain ⟨length, counted⟩ := exists_runLength descending
        fun entry member => named entry (List.mem_cons_of_mem first member)
      obtain ⟨ordered, defined⟩ : ∃ ordered, ordered =
          if descending then ((first :: second :: rest).take (length + 1)).reverse
          else (first :: second :: rest).take (length + 1) := ⟨_, rfl⟩
      have turned : ordered.Perm ((first :: second :: rest).take (length + 1)) := by
        rw [defined]
        split
        · exact List.reverse_perm _
        · exact .refl _
      have whole := turned.append_right ((first :: second :: rest).drop (length + 1))
      rw [List.take_append_drop] at whole
      obtain ⟨sorted, built, same⟩ := @exists_insertAll α _ ordered.toArray (named.perm whole)
      refine ⟨sorted.toList, ?_, same.trans whole⟩
      simp only [sortEntries, compared, counted, bind, Except.bind]
      rw [← defined, built]
      rfl

end Sorting

theorem exists_mapM {α β ε : Type} {image : α → Except ε β} {items : List α}
    (succeeds : ∀ item ∈ items, ∃ result, image item = .ok result) :
    ∃ results, items.mapM image = .ok results := by
  induction items with
  | nil => exact ⟨[], rfl⟩
  | cons item items ih =>
      obtain ⟨result, first⟩ := succeeds item List.mem_cons_self
      obtain ⟨results, others⟩ := ih fun other member =>
        succeeds other (List.mem_cons_of_mem _ member)
      exact ⟨result :: results, by rw [List.mapM_cons, first, others]; rfl⟩

theorem exists_writeItems {foreign : Foreign} {items : List Value}
    (written : ∀ item ∈ items, ∃ text, write foreign item = .ok text) :
    ∃ texts, writeItems foreign items = .ok texts := by
  induction items with
  | nil => exact ⟨[], rfl⟩
  | cons item items ih =>
      obtain ⟨text, first⟩ := written item List.mem_cons_self
      obtain ⟨texts, others⟩ := ih fun other member => written other (List.mem_cons_of_mem _ member)
      exact ⟨text :: texts, by rw [writeItems, first, others]; rfl⟩

theorem writeEntries_eq_map (foreign : Foreign) (entries : List (Scalar × Value)) :
    writeEntries foreign entries = entries.map fun entry => (entry.1, write foreign entry.2) := by
  induction entries with
  | nil => rfl
  | cons entry entries ih =>
      obtain ⟨key, value⟩ := entry
      rw [writeEntries, ih, List.map_cons]

theorem exists_members {entries : List (Scalar × Except WriteError Text)} (named : Named entries)
    (written : ∀ entry ∈ entries, ∃ text, entry.2 = .ok text) :
    ∃ text, members entries = .ok text := by
  obtain ⟨sorted, sorts, same⟩ := exists_sortEntries named
  have each : ∀ entry ∈ sorted, ∃ member, (do
      let name ← memberName entry.1
      let value ← entry.2
      pure (name, value) : Except WriteError (Text × Text)) = .ok member := by
    intro entry member
    obtain ⟨name, key⟩ := named entry (same.mem_iff.mp member)
    obtain ⟨text, value⟩ := written entry (same.mem_iff.mp member)
    exact ⟨(name, text), by rw [key, value]; rfl⟩
  obtain ⟨list, all⟩ := exists_mapM each
  refine ⟨object list, ?_⟩
  rw [members, sorts]
  change (List.mapM (m := Except WriteError) _ sorted >>= _) = _
  rw [all]
  rfl

/-- A writable value is written, whatever is done with other values. -/
theorem exists_write (foreign : Foreign) {value : Value} (writable : value.Writable) :
    ∃ text, write foreign value = .ok text := by
  induction writable with
  | text content => exact ⟨string content, rfl⟩
  | bool truth => cases truth <;> exact ⟨_, rfl⟩
  | @int number short =>
      refine ⟨Text.ofInt number, ?_⟩
      rw [Value.int, write, scalar, Integer.written, if_neg (Bool.eq_false_iff.mp short)]
      rfl
  | list _ ih =>
      obtain ⟨texts, written⟩ := exists_writeItems ih
      exact ⟨array texts, by rw [write, written]; rfl⟩
  | map named _ ih =>
      rw [write, writeEntries_eq_map]
      apply exists_members
      · intro entry member
        obtain ⟨entry', member', rfl⟩ := List.mem_map.mp member
        exact named entry' member'
      · intro entry member
        obtain ⟨entry', member', rfl⟩ := List.mem_map.mp member
        exact ih entry' member'

end Json

end LicenseSeal
