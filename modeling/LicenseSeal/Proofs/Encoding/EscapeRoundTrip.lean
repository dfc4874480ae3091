import LicenseSeal.Encoding.Escaped
import LicenseSeal.Proofs.Encoding.UnicodeRoundTrip
import LicenseSeal.Proofs.Json.StringRoundTrip
import Mathlib.Data.List.TakeWhile
import Mathlib.Tactic.SplitIfs

/-!
# Escaped text read back

A text that is written with an escape for every backslash is read back.  The raw form escapes no
backslash: a text that looks like an escape is read as the character of the escape.
-/

namespace LicenseSeal.Encoding.Escaped

/-! ### Digits of codes -/

theorem length_hexDigits (width number : Nat) : (Text.hexDigits width number).length = width := by
  induction width generalizing number with
  | zero => rfl
  | succ width ih => rw [Text.hexDigits, List.length_append, ih, List.length_singleton]

private theorem hexValue?_digit (number : Nat) :
    Text.hexValue? (Text.hexDigit (number % 16)) = some (number % 16) :=
  Json.hexValue?_hexDigit (Nat.mod_lt _ (by decide))

theorem isSome_hexValue?_of_mem {width number : Nat} {c : CodePoint}
    (member : c ∈ Text.hexDigits width number) : (Text.hexValue? c).isSome = true := by
  induction width generalizing number with
  | zero => cases member
  | succ width ih =>
      rw [Text.hexDigits, List.mem_append, List.mem_singleton] at member
      rcases member with before | rfl
      · exact ih before
      · rw [hexValue?_digit]
        rfl

theorem numberOf_hexDigits {width number : Nat} (small : number < Nat.pow 16 width) :
    numberOf 16 (Text.hexDigits width number) = number := by
  induction width generalizing number with
  | zero => exact (Nat.lt_one_iff.mp small).symm
  | succ width ih =>
      have above : number / 16 < Nat.pow 16 width := Nat.div_lt_of_lt_mul (by
        rw [Nat.mul_comm]
        exact small)
      have read := ih above
      rw [numberOf] at read
      rw [numberOf, Text.hexDigits, List.foldl_append, read, List.foldl_cons, List.foldl_nil,
        hexValue?_digit]
      exact Nat.div_add_mod' number 16

variable {codecs : Codecs}

/-! ### One character -/

theorem readEscape_byCode {raw : Bool} {letter c : CodePoint} {count : Nat} {form : String}
    (known : codeLetter? raw letter = some (count, form)) (small : c.toNat < Nat.pow 16 count)
    (rest : Text) :
    readEscape codecs raw (letter :: Text.hexDigits count c.toNat ++ rest) =
      .ok ([c], 1 + count) := by
  have length := length_hexDigits count c.toNat
  have front : (Text.hexDigits count c.toNat ++ rest).take count = Text.hexDigits count c.toNat :=
    List.take_left' length
  have whole : (Text.hexDigits count c.toNat).takeWhile (fun c => (Text.hexValue? c).isSome) =
      Text.hexDigits count c.toNat := by
    exact List.takeWhile_eq_self_iff.mpr fun d member => isSome_hexValue?_of_mem member
  rw [List.cons_append, readEscape, known]
  simp only [front, whole, length, Nat.lt_irrefl, if_false, numberOf_hexDigits small,
    if_pos c.toNat_lt, CodePoint.ofNat_toNat]

/-- A code point stands for itself, or it is read back from what follows a backslash. -/
theorem writeChar_cases (codecs : Codecs) (c : CodePoint) :
    (writeChar false c = [c] ∧ c ≠ '\\' ∧ c.toNat < 0x100) ∨
      ∃ escaped, writeChar false c = ('\\' : CodePoint) :: escaped ∧
        ∀ rest, readEscape codecs false (escaped ++ rest) = .ok ([c], escaped.length) := by
  have coded {letter : CodePoint} {count : Nat} {form : String}
      (known : codeLetter? false letter = some (count, form))
      (small : c.toNat < Nat.pow 16 count) (rest : Text) :
      readEscape codecs false ((letter :: Text.hexDigits count c.toNat) ++ rest) =
        .ok ([c], (letter :: Text.hexDigits count c.toNat).length) := by
    rw [readEscape_byCode known small, List.length_cons, length_hexDigits, Nat.add_comm]
  have range := c.toNat_lt
  simp only [writeChar, longEscape, Bool.false_eq_true, if_false]
  split_ifs with beyond short backslash tab feed ret shown
  · exact .inr ⟨_, rfl, coded rfl short⟩
  · refine .inr ⟨_, rfl, coded rfl ?_⟩
    change c.toNat < 0x100000000
    omega
  · exact .inr ⟨_, rfl, fun rest => by rw [backslash]; rfl⟩
  · exact .inr ⟨_, rfl, fun rest => by rw [tab]; rfl⟩
  · exact .inr ⟨_, rfl, fun rest => by rw [feed]; rfl⟩
  · exact .inr ⟨_, rfl, fun rest => by rw [ret]; rfl⟩
  · exact .inl ⟨rfl, backslash, by omega⟩
  · refine .inr ⟨_, rfl, coded rfl ?_⟩
    change c.toNat < 0x100
    omega

theorem toNat_lt_of_hexValue? {c : CodePoint} (digit : (Text.hexValue? c).isSome = true) :
    c.toNat < 0x100 := by
  simp only [Text.hexValue?, CodePoint.le_def, CodePoint.toNat_char] at digit
  have nine : '9'.toNat = 0x39 := rfl
  have f : 'f'.toNat = 0x66 := rfl
  have upperF : 'F'.toNat = 0x46 := rfl
  split_ifs at digit <;> first | omega | cases digit

theorem toNat_lt_of_mem_writeChar {raw : Bool} {c d : CodePoint} (member : d ∈ writeChar raw c) :
    d.toNat < 0x100 := by
  have coded {letter : CodePoint} {count : Nat} (byte : letter.toNat < 0x100)
      (member : d ∈ byCode letter count c.toNat) : d.toNat < 0x100 := by
    rw [byCode, List.mem_cons, List.mem_cons] at member
    rcases member with rfl | rfl | digit
    · decide
    · exact byte
    · exact toNat_lt_of_hexValue? (isSome_hexValue?_of_mem digit)
  rw [writeChar] at member
  split_ifs at member with beyond isRaw backslash tab feed ret shown
  · rw [longEscape] at member
    split_ifs at member
    · exact coded (by decide) member
    · exact coded (by decide) member
  · rw [List.mem_singleton] at member
    rw [member]
    omega
  · simp only [List.mem_cons, List.not_mem_nil, or_false, or_self] at member
    rw [member]
    decide
  · simp only [List.mem_cons, List.not_mem_nil, or_false] at member
    rcases member with rfl | rfl <;> decide
  · simp only [List.mem_cons, List.not_mem_nil, or_false] at member
    rcases member with rfl | rfl <;> decide
  · simp only [List.mem_cons, List.not_mem_nil, or_false] at member
    rcases member with rfl | rfl <;> decide
  · rw [List.mem_singleton] at member
    rw [member]
    omega
  · exact coded (by decide) member

/-! ### Texts -/

/-- The bytes of a text are the characters that it is written with. -/
theorem map_encode (raw : Bool) (text : Text) :
    ((encode raw text).map fun byte => CodePoint.ofNat byte.toNat) =
      text.flatMap (writeChar raw) := by
  have whole : encode raw text = (text.flatMap (writeChar raw)).map byteOf := by
    rw [encode, List.map_flatMap]
  rw [whole]
  refine map_ofNat_toNat fun d member => ?_
  obtain ⟨c, -, written⟩ := List.mem_flatMap.mp member
  exact toNat_lt_of_mem_writeChar written

theorem length_le_length_written (text : Text) :
    text.length ≤ (text.flatMap (writeChar false)).length := by
  induction text with
  | nil => exact Nat.le_refl _
  | cons c text ih =>
      have nonempty : 1 ≤ (writeChar false c).length := by
        rcases writeChar_cases .ascii c with ⟨same, -⟩ | ⟨escaped, same, -⟩
        · simp [same]
        · simp [same]
      rw [List.flatMap_cons, List.length_cons, List.length_append]
      omega

theorem readFrom_written {fuel position : Nat} {text : Text} (enough : text.length ≤ fuel) :
    readFrom codecs false fuel position (text.flatMap (writeChar false)) = .ok text := by
  -- A character takes one unit of fuel, whatever it is written with.
  induction text generalizing fuel position with
  | nil => cases fuel <;> rfl
  | cons c text ih =>
      obtain ⟨fuel, rfl⟩ : ∃ count, fuel = count + 1 := ⟨fuel - 1, by
        rw [List.length_cons] at enough
        omega⟩
      have later (position : Nat) := @ih fuel position (by
        rw [List.length_cons] at enough
        omega)
      rw [List.flatMap_cons]
      rcases writeChar_cases codecs c with ⟨same, plain, -⟩ | ⟨escaped, same, read⟩
      · rw [same, List.singleton_append, readFrom, if_pos plain, later]
        rfl
      · rw [same, List.cons_append, readFrom, if_neg (by simp), read]
        dsimp only
        rw [List.drop_left, later]
        rfl

theorem decode_encode (codecs : Codecs) (text : Text) :
    decode codecs false (encode false text) = .ok text := by
  have written := map_encode false text
  have enough := length_le_length_written text
  rw [← written, List.length_map] at enough
  rw [decode, written]
  exact readFrom_written (by omega)

end LicenseSeal.Encoding.Escaped
