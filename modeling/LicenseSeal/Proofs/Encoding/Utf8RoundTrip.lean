import LicenseSeal.Encoding.Utf8

/-!
# UTF-8 read back

Decoding what was encoded gives the text back, so that different texts have different bytes.
-/

namespace LicenseSeal.Encoding.Utf8

private theorem toNat_ofNat {code : Nat} (small : code < 256) : (UInt8.ofNat code).toNat = code :=
  UInt8.toNat_ofNat_of_lt' small

private theorem continuation?_ofNat {payload : Nat} (small : payload < 0x40) :
    continuation? (UInt8.ofNat (0x80 + payload)) = some payload := by
  rw [continuation?, toNat_ofNat (by omega), if_pos (by omega), Nat.add_sub_cancel_left]

private theorem second?_ofNat {low high payload : Nat} (small : payload < 0x40)
    (above : low ≤ 0x80 + payload) (below : 0x80 + payload ≤ high) :
    second? low high (UInt8.ofNat (0x80 + payload)) = some payload := by
  rw [second?, toNat_ofNat (by omega), if_pos ⟨above, below⟩, continuation?_ofNat small]

/-- A second byte that no overlong form, surrogate or code beyond the last one begins with lies in
the range that the first byte leaves for it. -/
private theorem secondRange_bounds (first byte : Nat) (continues : 0x80 ≤ byte ∧ byte < 0xC0)
    (notOverlong : first = 0xE0 → 0xA0 ≤ byte) (notSurrogate : first = 0xED → byte < 0xA0)
    (notOverlong' : first = 0xF0 → 0x90 ≤ byte) (notBeyond : first = 0xF4 → byte < 0x90) :
    (secondRange first).1 ≤ byte ∧ byte ≤ (secondRange first).2 := by
  rw [secondRange]
  split
  · next same => exact ⟨notOverlong same, by omega⟩
  · split
    · next same => exact ⟨continues.1, by have := notSurrogate same; omega⟩
    · split
      · next same => exact ⟨notOverlong' same, by omega⟩
      · split
        · next same => exact ⟨continues.1, by have := notBeyond same; omega⟩
        · exact ⟨continues.1, by omega⟩

private theorem sequence_one {code : Nat} (small : code < 0x80) (rest : Bytes) :
    sequence code rest = .ok (code, 0) := by
  simp only [sequence, if_pos small]

private theorem sequence_two {code : Nat} (large : 0x80 ≤ code) (small : code < 0x800)
    (rest : Bytes) :
    sequence (0xC0 + code / 0x40) (UInt8.ofNat (0x80 + code % 0x40) :: rest) = .ok (code, 1) := by
  have range := secondRange_bounds (0xC0 + code / 0x40) (0x80 + code % 0x40)
    (by omega) (by omega) (by omega) (by omega) (by omega)
  simp only [sequence]
  rw [if_neg (by omega), if_neg (by omega), if_pos (by omega),
    second?_ofNat (by omega) range.1 range.2]
  simp only [Except.ok.injEq, Prod.mk.injEq, and_true]
  omega

private theorem sequence_three {code : Nat} (large : 0x800 ≤ code) (small : code < 0x10000)
    (valid : code < 0xD800 ∨ 0xDFFF < code) (rest : Bytes) :
    sequence (0xE0 + code / 0x1000) (UInt8.ofNat (0x80 + code / 0x40 % 0x40) ::
      UInt8.ofNat (0x80 + code % 0x40) :: rest) = .ok (code, 2) := by
  have range := secondRange_bounds (0xE0 + code / 0x1000)
    (0x80 + code / 0x40 % 0x40) (by omega) (by omega) (by omega) (by omega) (by omega)
  simp only [sequence]
  rw [if_neg (by omega), if_neg (by omega), if_neg (by omega), if_pos (by omega),
    second?_ofNat (by omega) range.1 range.2]
  simp only [continuation?_ofNat (Nat.mod_lt code (by decide : 0 < 0x40)),
    Except.ok.injEq, Prod.mk.injEq, and_true]
  omega

private theorem sequence_four {code : Nat} (large : 0x10000 ≤ code) (small : code < 0x110000)
    (rest : Bytes) :
    sequence (0xF0 + code / 0x40000) (UInt8.ofNat (0x80 + code / 0x1000 % 0x40) ::
      UInt8.ofNat (0x80 + code / 0x40 % 0x40) :: UInt8.ofNat (0x80 + code % 0x40) :: rest) =
        .ok (code, 3) := by
  have range := secondRange_bounds (0xF0 + code / 0x40000)
    (0x80 + code / 0x1000 % 0x40) (by omega) (by omega) (by omega) (by omega) (by omega)
  simp only [sequence]
  rw [if_neg (by omega), if_neg (by omega), if_neg (by omega), if_neg (by omega),
    if_pos (by omega), second?_ofNat (by omega) range.1 range.2]
  simp only [continuation?_ofNat (Nat.mod_lt code (by decide : 0 < 0x40)),
    continuation?_ofNat (Nat.mod_lt (code / 0x40) (by decide : 0 < 0x40)),
    Except.ok.injEq, Prod.mk.injEq, and_true]
  omega

private theorem sequence_encodeChar {c : CodePoint} (plain : c.isSurrogate = false) (rest : Bytes) :
    ∃ first others, encodeChar c = first :: others ∧
      sequence first.toNat (others ++ rest) = .ok (c.toNat, others.length) := by
  have valid := CodePoint.toNat_range plain
  rw [encodeChar]
  split
  · next one =>
      refine ⟨_, _, rfl, ?_⟩
      rw [toNat_ofNat (by omega)]
      exact sequence_one one rest
  · split
    · refine ⟨_, _, rfl, ?_⟩
      rw [toNat_ofNat (by omega)]
      exact sequence_two (by omega) (by omega) rest
    · split
      · refine ⟨_, _, rfl, ?_⟩
        rw [toNat_ofNat (by omega)]
        exact sequence_three (by omega) (by omega) (by omega) rest
      · refine ⟨_, _, rfl, ?_⟩
        rw [toNat_ofNat (by omega)]
        exact sequence_four (by omega) (by omega) rest

private theorem decodeFrom_bytesOf (position : Nat) {text : Text}
    (plain : ∀ c ∈ text, c.isSurrogate = false) :
    decodeFrom position (bytesOf text) = .ok text := by
  induction text generalizing position with
  | nil => rw [bytesOf, List.flatMap_nil, decodeFrom]
  | cons c text ih =>
      obtain ⟨first, others, bytes, read⟩ :=
        sequence_encodeChar (plain c List.mem_cons_self) (bytesOf text)
      have whole : bytesOf (c :: text) = first :: (others ++ bytesOf text) := by
        rw [bytesOf, List.flatMap_cons, bytes, List.cons_append]
        rfl
      have later := ih (position + 1 + others.length) fun d member =>
        plain d (List.mem_cons_of_mem c member)
      rw [whole, decodeFrom, read]
      simp only [List.drop_left, later, CodePoint.ofNat_toNat]

theorem encode_eq_ok_iff {text : Text} {bytes : Bytes} :
    encode text = .ok bytes ↔ (∀ c ∈ text, c.isSurrogate = false) ∧ bytesOf text = bytes :=
  checked_eq_ok_iff

theorem encode_of_plain {text : Text} (plain : ∀ c ∈ text, c.isSurrogate = false) :
    encode text = .ok (bytesOf text) :=
  encode_eq_ok_iff.mpr ⟨plain, rfl⟩

theorem decode_of_encode {text : Text} {bytes : Bytes} (written : encode text = .ok bytes) :
    decode bytes = .ok text := by
  obtain ⟨plain, rfl⟩ := encode_eq_ok_iff.mp written
  exact decodeFrom_bytesOf 0 plain

theorem encode_injective {first second : Text} {bytes : Bytes} (written : encode first = .ok bytes)
    (written' : encode second = .ok bytes) : first = second :=
  Except.ok.inj ((decode_of_encode written).symm.trans (decode_of_encode written'))

/-- A byte of ASCII stands for its character only. -/
theorem toNat_eq_of_mem_encodeChar {byte : UInt8} {c : CodePoint} (member : byte ∈ encodeChar c)
    (ascii : byte.toNat < 0x80) : c.toNat = byte.toNat := by
  have valid := c.toNat_lt
  simp only [encodeChar] at member
  split at member
  · rw [List.mem_singleton] at member
    rw [member, toNat_ofNat (by omega)]
  · exfalso
    split at member
    · simp only [List.mem_cons, List.not_mem_nil, or_false] at member
      rcases member with same | same <;> (rw [same, toNat_ofNat (by omega)] at ascii; omega)
    · split at member
      · simp only [List.mem_cons, List.not_mem_nil, or_false] at member
        rcases member with same | same | same <;>
          (rw [same, toNat_ofNat (by omega)] at ascii; omega)
      · simp only [List.mem_cons, List.not_mem_nil, or_false] at member
        rcases member with same | same | same | same <;>
          (rw [same, toNat_ofNat (by omega)] at ascii; omega)

end LicenseSeal.Encoding.Utf8
