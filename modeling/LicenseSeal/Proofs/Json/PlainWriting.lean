import LicenseSeal.Proofs.Encoding.EscapeRoundTrip
import LicenseSeal.Proofs.Json.TotalWriting
import LicenseSeal.Text.Styling

/-!
# What stands in written JSON

JSON is put together from visible ASCII and from what the texts of a value hold, their control
characters aside.  Hence what is written for a value holds no styling sequence and is shown as it
is, and it holds a surrogate only if the value does.
-/

namespace LicenseSeal

/-- A code point stands in a text of a value or in the name of a member. -/
inductive Value.Mentions (c : CodePoint) : Value → Prop where
  | text {content : Text} : c ∈ content → Mentions c (.text content)
  | item {items : List Value} {item : Value} : item ∈ items → Mentions c item →
      Mentions c (.list items)
  | key {entries : List (Scalar × Value)} {name : Text} {value : Value} :
      (.text name, value) ∈ entries → c ∈ name → Mentions c (.map entries)
  | member {entries : List (Scalar × Value)} {entry : Scalar × Value} : entry ∈ entries →
      Mentions c entry.2 → Mentions c (.map entries)

namespace Text

theorem withoutStyling_of_plain {text : Text} (plain : escapeCharacter ∉ text) :
    text.withoutStyling = text := by
  have kept := withoutStyling_append plain []
  rwa [List.append_nil, withoutStyling, List.append_nil] at kept

/-- Every code point of the text is of a kind. -/
def Only (kind : CodePoint → Prop) (text : Text) : Prop :=
  ∀ c ∈ text, kind c

variable {kind : CodePoint → Prop}

theorem only_append_iff {first second : Text} :
    Only kind (first ++ second) ↔ Only kind first ∧ Only kind second :=
  List.forall_mem_append

theorem only_cons_iff {c : CodePoint} {rest : Text} :
    Only kind (c :: rest) ↔ kind c ∧ Only kind rest :=
  List.forall_mem_cons

theorem only_join {separator : Text} {parts : List Text} (separated : Only kind separator)
    (each : ∀ part ∈ parts, Only kind part) : Only kind (join separator parts) := by
  induction parts using join.induct with
  | case1 => exact fun c member => nomatch member
  | case2 only => exact each only List.mem_cons_self
  | case3 first second rest ih =>
      rw [List.forall_mem_cons] at each
      rw [join, only_append_iff, only_append_iff]
      exact ⟨⟨each.1, separated⟩, ih each.2⟩

end Text

namespace Json

open Text (Only only_append_iff only_cons_iff only_join)

/-- A character that JSON is put together from. -/
def IsSyntax (c : CodePoint) : Prop :=
  0x20 ≤ c.toNat ∧ c.toNat < 0x7F

instance (c : CodePoint) : Decidable (IsSyntax c) :=
  inferInstanceAs (Decidable (_ ∧ _))

theorem isSyntax_of_mem_hexDigits {width number : Nat} {c : CodePoint}
    (member : c ∈ Text.hexDigits width number) : IsSyntax c := by
  have digit := Encoding.Escaped.isSome_hexValue?_of_mem member
  simp only [Text.hexValue?, CodePoint.le_def, CodePoint.toNat_char] at digit
  have ranges : '0'.toNat = 0x30 ∧ '9'.toNat = 0x39 ∧ 'a'.toNat = 0x61 ∧ 'f'.toNat = 0x66 ∧
      'A'.toNat = 0x41 ∧ 'F'.toNat = 0x46 := by decide
  rw [IsSyntax]
  split_ifs at digit <;> first | omega | cases digit

theorem isSyntax_of_mem_ofNat {number : Nat} {c : CodePoint} (member : c ∈ Text.ofNat number) :
    IsSyntax c := by
  obtain ⟨letter, digit, rfl⟩ := List.mem_map.mp member
  have isDigit := @Nat.isDigit_of_mem_toDigits 10 number _ (by decide) (by decide) digit
  simp only [Char.isDigit, Bool.and_eq_true, decide_eq_true_eq, ge_iff_le, UInt32.le_iff_toNat_le]
    at isDigit
  have ranges : '0'.val.toNat = 0x30 ∧ '9'.val.toNat = 0x39 := by decide
  rw [IsSyntax, CodePoint.toNat_char, Char.toNat]
  omega

section Kinds

variable {kind : CodePoint → Prop} (syntactic : ∀ c, IsSyntax c → kind c)

include syntactic

theorem only_of_isSyntax {text : Text} (each : ∀ c ∈ text, IsSyntax c) : Only kind text :=
  fun c member => syntactic c (each c member)

theorem only_escape {c : CodePoint} (own : 0x20 ≤ c.toNat → kind c) : Only kind (escape c) := by
  rw [escape]
  split_ifs with quote backslash feed ret tab backspace form control
  · exact only_of_isSyntax syntactic (by decide)
  · exact only_of_isSyntax syntactic (by decide)
  · exact only_of_isSyntax syntactic (by decide)
  · exact only_of_isSyntax syntactic (by decide)
  · exact only_of_isSyntax syntactic (by decide)
  · exact only_of_isSyntax syntactic (by decide)
  · exact only_of_isSyntax syntactic (by decide)
  · rw [only_cons_iff, only_cons_iff]
    exact ⟨syntactic _ (by decide), syntactic _ (by decide),
      only_of_isSyntax syntactic fun d => isSyntax_of_mem_hexDigits⟩
  · rw [only_cons_iff]
    exact ⟨own (by omega), fun d member => nomatch member⟩

theorem only_string {text : Text} (own : ∀ c ∈ text, 0x20 ≤ c.toNat → kind c) :
    Only kind (string text) := by
  rw [string, only_cons_iff, only_append_iff]
  refine ⟨syntactic _ (by decide), ?_, only_of_isSyntax syntactic (by decide)⟩
  intro d member
  obtain ⟨c, inside, written⟩ := List.mem_flatMap.mp member
  exact only_escape syntactic (own c inside) d written

theorem only_array {items : List Text} (each : ∀ item ∈ items, Only kind item) :
    Only kind (array items) := by
  rw [array, only_cons_iff, only_append_iff]
  exact ⟨syntactic _ (by decide), only_join (only_of_isSyntax syntactic (by decide)) each,
    only_of_isSyntax syntactic (by decide)⟩

theorem only_object {members : List (Text × Text)}
    (names : ∀ member ∈ members, ∀ c ∈ member.1, 0x20 ≤ c.toNat → kind c)
    (values : ∀ member ∈ members, Only kind member.2) : Only kind (object members) := by
  rw [object, only_cons_iff, only_append_iff]
  refine ⟨syntactic _ (by decide), only_join (only_of_isSyntax syntactic (by decide)) ?_,
    only_of_isSyntax syntactic (by decide)⟩
  intro part member
  obtain ⟨named, inside, rfl⟩ := List.mem_map.mp member
  rw [only_append_iff, only_cons_iff]
  exact ⟨only_string syntactic (names named inside), syntactic _ (by decide), values named inside⟩

theorem only_ofInt (number : Int) : Only kind (Text.ofInt number) := by
  cases number with
  | ofNat number => exact only_of_isSyntax syntactic fun c => isSyntax_of_mem_ofNat
  | negSucc number =>
      rw [Text.ofInt, only_cons_iff]
      exact ⟨syntactic _ (by decide), only_of_isSyntax syntactic fun c => isSyntax_of_mem_ofNat⟩

omit syntactic in
theorem only_of_writeItems {foreign : Foreign} {items : List Value} {texts : List Text}
    (each : ∀ item ∈ items, ∀ text, write foreign item = .ok text → Only kind text)
    (written : writeItems foreign items = .ok texts) : ∀ text ∈ texts, Only kind text := by
  induction items generalizing texts with
  | nil =>
      cases written
      exact fun text member => nomatch member
  | cons item items ih =>
      rw [List.forall_mem_cons] at each
      rw [writeItems] at written
      cases first : write foreign item with
      | error error =>
          rw [first] at written
          cases written
      | ok text =>
          cases others : writeItems foreign items with
          | error error =>
              rw [first, others] at written
              cases written
          | ok later =>
              rw [first, others] at written
              cases written
              rw [List.forall_mem_cons]
              exact ⟨each.1 text first, ih each.2 others⟩

omit syntactic in
theorem exists_of_mem_mapM {α β ε : Type} {image : α → Except ε β} {items : List α}
    {results : List β} (succeeds : items.mapM image = .ok results) :
    ∀ result ∈ results, ∃ item ∈ items, image item = .ok result := by
  induction items generalizing results with
  | nil =>
      cases succeeds
      exact fun result member => nomatch member
  | cons item items ih =>
      rw [List.mapM_cons] at succeeds
      cases first : image item with
      | error error =>
          rw [first] at succeeds
          cases succeeds
      | ok found =>
          cases others : items.mapM image with
          | error error =>
              rw [first, others] at succeeds
              cases succeeds
          | ok later =>
              rw [first, others] at succeeds
              cases succeeds
              rw [List.forall_mem_cons]
              refine ⟨⟨item, List.mem_cons_self, first⟩, fun result member => ?_⟩
              obtain ⟨item', inside, same⟩ := ih others result member
              exact ⟨item', List.mem_cons_of_mem item inside, same⟩

theorem only_of_members {entries : List (Scalar × Except WriteError Text)} {text : Text}
    (named : Named entries)
    (names : ∀ entry ∈ entries, ∀ name, entry.1 = .text name → ∀ c ∈ name, 0x20 ≤ c.toNat → kind c)
    (values : ∀ entry ∈ entries, ∀ value, entry.2 = .ok value → Only kind value)
    (written : members entries = .ok text) : Only kind text := by
  -- The entries are written in another order, so a member is that of some entry only.
  obtain ⟨sorted, sorts, same⟩ := exists_sortEntries named
  rw [members, sorts] at written
  change (List.mapM (m := Except WriteError) _ sorted >>= _) = _ at written
  cases each : sorted.mapM (m := Except WriteError) fun entry => do
      let name ← memberName entry.1
      let value ← entry.2
      pure (name, value) with
  | error error =>
      rw [each] at written
      cases written
  | ok list =>
      rw [each] at written
      cases written
      have ofEntry (member : Text × Text) (inside : member ∈ list) :
          ∃ entry ∈ entries, entry.1 = .text member.1 ∧ entry.2 = .ok member.2 := by
        obtain ⟨entry, listed, read⟩ := exists_of_mem_mapM each member inside
        obtain ⟨name, key⟩ := named entry (same.mem_iff.mp listed)
        rw [key] at read
        cases value : entry.2 with
        | error error =>
            rw [value] at read
            cases read
        | ok content =>
            rw [value] at read
            cases read
            exact ⟨entry, same.mem_iff.mp listed, key, value⟩
      refine only_object syntactic (fun member inside => ?_) fun member inside => ?_
      · obtain ⟨entry, listed, key, -⟩ := ofEntry member inside
        exact names entry listed _ key
      · obtain ⟨entry, listed, -, value⟩ := ofEntry member inside
        exact values entry listed _ value

/-- What is written for a writable value is syntax or what the value mentions. -/
theorem only_of_write {foreign : Foreign} {value : Value} (writable : value.Writable)
    (own : ∀ c, value.Mentions c → 0x20 ≤ c.toNat → kind c) {text : Text}
    (written : write foreign value = .ok text) : Only kind text := by
  induction writable generalizing text with
  | text content =>
      cases written
      exact only_string syntactic fun c member => own c (.text member)
  | bool truth =>
      cases truth <;>
        (cases written
         exact only_of_isSyntax syntactic (by decide))
  | @int number short =>
      rw [Value.int, write, scalar, Integer.written, if_neg (Bool.eq_false_iff.mp short)] at written
      obtain rfl := Except.ok.inj written
      exact only_ofInt syntactic number
  | @list items _ ih =>
      rw [write] at written
      cases each : writeItems foreign items with
      | error error =>
          rw [each] at written
          cases written
      | ok texts =>
          rw [each] at written
          cases written
          refine only_array syntactic (only_of_writeItems (fun item member text => ?_) each)
          exact ih item member fun c mentioned => own c (.item member mentioned)
  | @map entries named _ ih =>
      rw [write, writeEntries_eq_map] at written
      refine only_of_members syntactic ?_ ?_ ?_ written
      · intro entry member
        obtain ⟨entry', member', rfl⟩ := List.mem_map.mp member
        exact named entry' member'
      · intro entry member name key c inside
        obtain ⟨⟨key', value⟩, member', rfl⟩ := List.mem_map.mp member
        obtain rfl : key' = .text name := key
        exact own c (.key member' inside)
      · intro entry member value same
        obtain ⟨entry', member', rfl⟩ := List.mem_map.mp member
        exact ih entry' member' (fun c mentioned => own c (.member member' mentioned)) same

end Kinds

variable {foreign : Foreign} {value : Value} {text : Text}

theorem plain_of_write (writable : value.Writable) (written : write foreign value = .ok text) :
    Text.escapeCharacter ∉ text := by
  have visible {c : CodePoint} (large : 0x20 ≤ c.toNat) : c ≠ Text.escapeCharacter := by
    rintro rfl
    exact absurd large (by decide)
  intro member
  exact only_of_write (fun c isSyntax => visible isSyntax.1) writable (fun c _ => visible) written
    Text.escapeCharacter member rfl

/-- What is written for a value holds a surrogate only if the value does. -/
theorem isSurrogate_of_mem_write (writable : value.Writable)
    (plain : ∀ c, value.Mentions c → c.isSurrogate = false)
    (written : write foreign value = .ok text) : ∀ c ∈ text, c.isSurrogate = false := by
  refine only_of_write (fun c isSyntax => ?_) writable (fun c mentioned _ => plain c mentioned)
    written
  rw [Bool.eq_false_iff, Ne, CodePoint.isSurrogate_iff]
  have small := isSyntax.2
  omega

end Json

end LicenseSeal
