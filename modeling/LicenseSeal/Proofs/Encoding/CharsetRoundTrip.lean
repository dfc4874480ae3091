import LicenseSeal.Encoding.Charset

/-!
# Charsets read back

A charset reads back what it writes: of several bytes for one character the last is written, and
each of them is read as the character.
-/

namespace LicenseSeal.Encoding.Charset

theorem getElem?_of_lastPlace? {c : CodePoint} {text : Text} {place : Nat}
    (found : lastPlace? c text = some place) : text[place]? = some c := by
  rw [lastPlace?, Option.map_eq_some_iff] at found
  obtain ⟨back, first, rfl⟩ := found
  obtain ⟨inside, here, -⟩ := List.idxOf?_eq_some_iff.mp first
  rw [List.length_reverse] at inside
  rw [List.getElem_reverse] at here
  rw [List.getElem?_eq_getElem (by omega)]
  exact congrArg some here

variable {charset : Charset}

theorem charOf?_of_byteOf? {c : CodePoint} {byte : UInt8}
    (written : charset.byteOf? c = some byte) : charset.charOf? byte = some c := by
  have fits := charset.fits
  have small {number : Nat} (less : number < 0x100) : (UInt8.ofNat number).toNat = number :=
    UInt8.toNat_ofNat_of_lt' less
  simp only [byteOf?] at written
  split at written
  · next place found =>
      obtain rfl := Option.some.inj written
      split at found
      · cases found
      · next used =>
          have here := getElem?_of_lastPlace? found
          have inside := (List.getElem?_eq_some_iff.mp here).1
          rw [charOf?, small (by omega), if_neg (by omega), Nat.add_sub_cancel_left, here]
          simp [Option.filter, used]
  · split at written
    · next same =>
        obtain rfl := Option.some.inj written
        rw [charOf?, small (by omega), if_pos same, CodePoint.ofNat_toNat]
    · cases written

private theorem decodeFrom_of_encodeFrom {text : Text} {bytes : Bytes}
    {position position' : Nat} (written : charset.encodeFrom position text = .ok bytes) :
    charset.decodeFrom position' bytes = .ok text := by
  induction text generalizing bytes position position' with
  | nil =>
      obtain rfl := Except.ok.inj written
      rfl
  | cons c text ih =>
      rw [encodeFrom] at written
      split at written
      · cases written
      · next byte here =>
          split at written
          · cases written
          · next bytes later =>
              obtain rfl := Except.ok.inj written
              simp only [decodeFrom, charOf?_of_byteOf? here, ih later]

theorem decode_of_encode {text : Text} {bytes : Bytes}
    (written : charset.encode text = .ok bytes) : charset.decode bytes = .ok text :=
  decodeFrom_of_encodeFrom written

end LicenseSeal.Encoding.Charset
