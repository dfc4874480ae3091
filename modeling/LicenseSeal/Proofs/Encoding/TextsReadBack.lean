import LicenseSeal.FileSystem.TextFile
import LicenseSeal.Proofs.Encoding.CharsetRoundTrip
import LicenseSeal.Proofs.Encoding.EscapeRoundTrip
import LicenseSeal.Proofs.Encoding.Utf7RoundTrip
import LicenseSeal.Proofs.Encoding.Utf8RoundTrip

/-!
# Texts read back

But for the raw escapes, every encoding without tables of the system reads back every text that it
has bytes for, with its line ends and with a mark at its beginning; only UTF-7 has bytes for two
surrogates that it reads back as one character.  What an encoding with tables reads back is up to
these.
-/

namespace LicenseSeal.Encoding

/-- An encoding whose bytes for a text stand for that text.  The raw escapes are left out, which
leave it open whether a backslash begins an escape. -/
def Settles : Encoding → Text → Prop
  | .escaped true, _ | .tabled _, _ => False
  | .utf7, text => Utf7.Unpaired text
  | _, _ => True

/-- An encoding that settles a text reads it back from its bytes. -/
theorem decode_of_encode {codecs : Codecs} {encoding : Encoding} {text : Text} {bytes : Bytes}
    (settles : encoding.Settles text) (written : encoding.encode codecs text = .ok bytes) :
    encoding.decode codecs bytes = .ok text := by
  have located {ε ε' α : Type} {outcome : Except ε α} {fail : ε → ε'} {result : α}
      (mapped : outcome.mapError fail = .ok result) : outcome = .ok result := by
    cases outcome with
    | error error => cases mapped
    | ok found => exact congrArg Except.ok (Except.ok.inj mapped)
  have marked {mark : Bytes} {outcome : Except EncodeError Bytes} {result : Bytes}
      (mapped : outcome.map (mark ++ ·) = .ok result) :
      ∃ bytes, outcome = .ok bytes ∧ result = mark ++ bytes := by
    cases outcome with
    | error error => cases mapped
    | ok found => exact ⟨found, rfl, (Except.ok.inj mapped).symm⟩
  cases encoding with
  | utf7 =>
      obtain rfl := Except.ok.inj written
      rw [decode, Utf7.decode_encode settles]
      rfl
  | utf8 =>
      rw [decode, Utf8.decode_of_encode (located written)]
      rfl
  | utf8Marked =>
      obtain ⟨plain, encoded, rfl⟩ := marked (located written)
      have unmarked : Text.dropLead? utf8Mark (utf8Mark ++ plain) = some plain :=
        Text.dropLead?_eq_some_iff.mpr rfl
      rw [decode, unmarked, Option.getD_some, Utf8.decode_of_encode encoded]
      rfl
  | utf16Marked =>
      obtain ⟨plain, encoded, rfl⟩ := marked (located written)
      rw [decode, Utf16.decodeMarked_of_encode encoded]
      rfl
  | utf16 order =>
      rw [decode, Utf16.decode_of_encode (located written)]
      rfl
  | utf32Marked =>
      obtain ⟨plain, encoded, rfl⟩ := marked (located written)
      rw [decode, Utf32.decodeMarked_of_encode encoded]
      rfl
  | utf32 order =>
      rw [decode, Utf32.decode_of_encode (located written)]
      rfl
  | escaped raw =>
      cases raw with
      | true => exact settles.elim
      | false =>
          obtain rfl := Except.ok.inj written
          rw [decode, Escaped.decode_encode]
          rfl
  | charset characters =>
      rw [decode, Charset.decode_of_encode (located written)]
      rfl
  | tabled name => exact settles.elim

theorem named_decode {name : Text} {encoding : Encoding}
    (known : named name .encode = .ok encoding) : named name .decode = .ok encoding := by
  rw [named] at known ⊢
  cases sense : meaning name with
  | error error =>
      rw [sense] at known
      cases known
  | ok found =>
      rw [sense] at known
      cases found with
      | text encoding => exact known
      | transformation => cases known
      | refusal => cases known

/-- A text is read back from the bytes that the encoding of a name has for it. -/
def ReadBack (codecs : Codecs) (name text : Text) : Prop :=
  ∀ bytes, FileSystem.encoded codecs name text = .ok bytes →
    decodeAs codecs name bytes = .ok text

variable {codecs : Codecs} {name text : Text} {encoding : Encoding} {bytes : Bytes}

theorem encoded_eq_ok_iff :
    FileSystem.encoded codecs name text = .ok bytes ↔
      ∃ encoding, named name .encode = .ok encoding ∧ encoding.encode codecs text = .ok bytes := by
  rw [FileSystem.encoded]
  cases named name .encode with
  | error error => simp
  | ok encoding => cases same : encoding.encode codecs text <;> simp [Except.mapError, same]

/-- The text of no bytes is empty without a look at the encoding. -/
theorem decodeAs_of_named (known : named name .decode = .ok encoding) :
    decodeAs codecs name bytes =
      if bytes.isEmpty then .ok []
      else (encoding.decode codecs bytes).mapError .ofCodec := by
  rw [decodeAs, known]

theorem decode_nil (untabled : ∀ table, encoding ≠ .tabled table) :
    encoding.decode codecs [] = .ok [] := by
  cases encoding with
  | tabled table => exact absurd rfl (untabled table)
  | utf8 =>
      rw [decode, Utf8.decode, Utf8.decodeFrom]
      rfl
  | utf8Marked =>
      have unmarked : (Text.dropLead? utf8Mark ([] : Bytes)).getD [] = [] := rfl
      rw [decode, unmarked, Utf8.decode, Utf8.decodeFrom]
      rfl
  | utf7 | utf16Marked | utf16 _ | utf32Marked | utf32 _ | escaped _ | charset _ => rfl

theorem readBack_of_settles (known : named name .encode = .ok encoding)
    (settles : encoding.Settles text) : ReadBack codecs name text := by
  intro bytes written
  obtain ⟨encoding', known', encodes⟩ := encoded_eq_ok_iff.mp written
  obtain rfl := Except.ok.inj (known.symm.trans known')
  have read := decode_of_encode settles encodes
  rw [decodeAs_of_named (named_decode known)]
  split
  · next empty =>
      have untabled (table : String) : encoding ≠ .tabled table := by
        rintro rfl
        exact settles
      rw [List.isEmpty_iff.mp empty, decode_nil untabled] at read
      exact congrArg Except.ok (Except.ok.inj read)
  · rw [read]
    rfl

end LicenseSeal.Encoding
