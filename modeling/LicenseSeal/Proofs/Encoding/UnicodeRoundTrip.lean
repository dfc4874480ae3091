import LicenseSeal.Encoding.Utf16
import LicenseSeal.Encoding.Utf32

/-!
# UTF-16 and UTF-32 read back

Decoding what was encoded gives the text back, in either order of the bytes, and behind a mark as
well.
-/

namespace LicenseSeal.Encoding

theorem map_ofNat_toNat {text : Text} (bytes : ∀ c ∈ text, c.toNat < 0x100) :
    ((text.map fun c => UInt8.ofNat c.toNat).map fun byte => CodePoint.ofNat byte.toNat) =
      text := by
  rw [List.map_map]
  refine (List.map_congr_left fun c member => ?_).trans (List.map_id text)
  exact (congrArg CodePoint.ofNat (UInt8.toNat_ofNat_of_lt' (bytes c member))).trans
    (CodePoint.ofNat_toNat c)

namespace ByteOrder

theorem toNat_ofNat_mod (number : Nat) :
    (UInt8.ofNat (number % 0x100)).toNat = number % 0x100 :=
  UInt8.toNat_ofNat_of_lt' (Nat.mod_lt _ (by decide))

theorem write_two_bigEndian (number : Nat) :
    ByteOrder.bigEndian.write 2 number =
      [UInt8.ofNat (number / 0x100 % 0x100), UInt8.ofNat (number % 0x100)] :=
  rfl

theorem exists_write_two (order : ByteOrder) {number : Nat} (small : number < 0x10000) :
    ∃ a b, order.write 2 number = [a, b] ∧ order.read [a, b] = number := by
  cases order with
  | littleEndian =>
      refine ⟨_, _, rfl, ?_⟩
      simp only [read, List.reverse_cons, List.reverse_nil, List.nil_append, List.cons_append,
        List.foldl_cons, List.foldl_nil, toNat_ofNat_mod]
      omega
  | bigEndian =>
      refine ⟨_, _, rfl, ?_⟩
      simp only [read, List.foldl_cons, List.foldl_nil, toNat_ofNat_mod]
      omega

theorem exists_write_four (order : ByteOrder) {number : Nat} (small : number < 0x100000000) :
    ∃ a b c d, order.write 4 number = [a, b, c, d] ∧ order.read [a, b, c, d] = number := by
  cases order with
  | littleEndian =>
      refine ⟨_, _, _, _, rfl, ?_⟩
      simp only [read, List.reverse_cons, List.reverse_nil, List.nil_append, List.cons_append,
        List.foldl_cons, List.foldl_nil, toNat_ofNat_mod]
      omega
  | bigEndian =>
      refine ⟨_, _, _, _, rfl, ?_⟩
      simp only [read, List.foldl_cons, List.foldl_nil, toNat_ofNat_mod]
      omega

end ByteOrder

namespace Utf16

/-- A code point has one unit, its code, or a pair of surrogates that denotes its code. -/
theorem units_cases (c : CodePoint) :
    (units c = [c.toNat] ∧ c.toNat < 0x10000) ∨
      ∃ high low, units c = [high, low] ∧ 0xD800 ≤ high ∧ high < 0xDC00 ∧ 0xDC00 ≤ low ∧
        low ≤ 0xDFFF ∧ 0x10000 + (high - 0xD800) * 0x400 + (low - 0xDC00) = c.toNat := by
  have range := c.toNat_lt
  rw [units]
  split
  · next small => exact .inl ⟨rfl, small⟩
  · right
    exact ⟨_, _, rfl, by omega, by omega, by omega, by omega, by omega⟩

theorem bytesOf_cons (order : ByteOrder) (c : CodePoint) (text : Text) :
    bytesOf order (c :: text) = (units c).flatMap (order.write 2) ++ bytesOf order text :=
  List.flatMap_cons

private theorem decodeFrom_unit {order : ByteOrder} {a b : UInt8} {c : CodePoint} {rest : Bytes}
    {text : Text} {position : Nat} (read : order.read [a, b] = c.toNat)
    (single : c.toNat < 0xD800 ∨ 0xDFFF < c.toNat)
    (others : decodeFrom order (position + 2) rest = .ok text) :
    decodeFrom order position (a :: b :: rest) = .ok (c :: text) := by
  rw [decodeFrom.eq_def]
  dsimp only
  rw [read, if_pos single, others]
  exact congrArg (fun first => Except.ok (first :: text)) (CodePoint.ofNat_toNat c)

private theorem decodeFrom_pair {order : ByteOrder} {a b a' b' : UInt8} {high low : Nat}
    {c : CodePoint}
    {rest : Bytes} {text : Text} {position : Nat} (read : order.read [a, b] = high)
    (read' : order.read [a', b'] = low) (above : 0xD800 ≤ high) (below : high < 0xDC00)
    (above' : 0xDC00 ≤ low) (below' : low ≤ 0xDFFF)
    (denotes : 0x10000 + (high - 0xD800) * 0x400 + (low - 0xDC00) = c.toNat)
    (others : decodeFrom order (position + 4) rest = .ok text) :
    decodeFrom order position (a :: b :: a' :: b' :: rest) = .ok (c :: text) := by
  have surrogate : ¬ (high < 0xD800 ∨ 0xDFFF < high) := by omega
  rw [decodeFrom, read, if_neg surrogate, if_neg (by omega)]
  dsimp only
  rw [read', if_pos ⟨above', below'⟩, others, denotes]
  exact congrArg (fun first => Except.ok (first :: text)) (CodePoint.ofNat_toNat c)

theorem decodeFrom_bytesOf (order : ByteOrder) (position : Nat) {text : Text}
    (plain : ∀ c ∈ text, c.isSurrogate = false) :
    decodeFrom order position (bytesOf order text) = .ok text := by
  induction text generalizing position with
  | nil => rfl
  | cons c text ih =>
      have ih (position : Nat) := ih position fun d member =>
        plain d (List.mem_cons_of_mem c member)
      have range := CodePoint.toNat_range (plain c List.mem_cons_self)
      rw [bytesOf_cons]
      rcases units_cases c with ⟨same, small⟩ |
        ⟨high, low, same, above, below, above', below', denotes⟩
      · have single : c.toNat < 0xD800 ∨ 0xDFFF < c.toNat := by omega
        obtain ⟨a, b, written, read⟩ := order.exists_write_two small
        simp only [same, List.flatMap_cons, List.flatMap_nil, written, List.cons_append,
          List.nil_append]
        exact decodeFrom_unit read single (ih _)
      · obtain ⟨a, b, written, read⟩ :=
          order.exists_write_two (show high < 0x10000 by omega)
        obtain ⟨a', b', written', read'⟩ :=
          order.exists_write_two (show low < 0x10000 by omega)
        simp only [same, List.flatMap_cons, List.flatMap_nil, written, written', List.cons_append,
          List.nil_append]
        exact decodeFrom_pair read read' above below above' below' denotes (ih _)

theorem decode_of_encode {codec : String} {order : ByteOrder} {text : Text} {bytes : Bytes}
    (written : encode codec order text = .ok bytes) : decode order bytes = .ok text := by
  obtain ⟨plain, rfl⟩ := checked_eq_ok_iff.mp written
  exact decodeFrom_bytesOf order 0 plain

/-- The mark in front is taken off, and one at the beginning of the text is kept. -/
theorem decodeMarked_of_encode {codec : String} {text : Text} {bytes : Bytes}
    (written : encode codec .littleEndian text = .ok bytes) :
    decodeMarked (littleEndianMark ++ bytes) = .ok text := by
  obtain ⟨plain, rfl⟩ := checked_eq_ok_iff.mp written
  exact decodeFrom_bytesOf .littleEndian 2 plain

end Utf16

namespace Utf32

theorem decodeFrom_bytesOf (order : ByteOrder) (position : Nat) {text : Text}
    (plain : ∀ c ∈ text, c.isSurrogate = false) :
    decodeFrom order position (bytesOf order text) = .ok text := by
  induction text generalizing position with
  | nil => rfl
  | cons c text ih =>
      have range := CodePoint.toNat_range (plain c List.mem_cons_self)
      have later := ih (position + 4) fun d member => plain d (List.mem_cons_of_mem c member)
      have faultless : fault? c.toNat = none := by
        have noSurrogate : (decide (0xD800 ≤ c.toNat) && decide (c.toNat < 0xE000)) = false := by
          rw [Bool.and_eq_false_iff, decide_eq_false_iff_not, decide_eq_false_iff_not]
          omega
        rw [fault?, if_neg (by omega), noSurrogate]
        rfl
      obtain ⟨a, b, b', a', written, read⟩ :=
        order.exists_write_four (show c.toNat < 0x100000000 by omega)
      have whole : bytesOf order (c :: text) = a :: b :: b' :: a' :: bytesOf order text := by
        rw [bytesOf, List.flatMap_cons, written]
        rfl
      simp only [whole, decodeFrom, read, faultless, later]
      exact congrArg (fun first => Except.ok (first :: text)) (CodePoint.ofNat_toNat c)

theorem decode_of_encode {codec : String} {order : ByteOrder} {text : Text} {bytes : Bytes}
    (written : encode codec order text = .ok bytes) : decode order bytes = .ok text := by
  obtain ⟨plain, rfl⟩ := checked_eq_ok_iff.mp written
  exact decodeFrom_bytesOf order 0 plain

/-- The mark in front is taken off, and one at the beginning of the text is kept. -/
theorem decodeMarked_of_encode {codec : String} {text : Text} {bytes : Bytes}
    (written : encode codec .littleEndian text = .ok bytes) :
    decodeMarked (littleEndianMark ++ bytes) = .ok text := by
  obtain ⟨plain, rfl⟩ := checked_eq_ok_iff.mp written
  exact decodeFrom_bytesOf .littleEndian 4 plain

end Utf32

end LicenseSeal.Encoding
