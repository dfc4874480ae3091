import LicenseSeal.Proofs.Text.Base64RoundTrip
import LicenseSeal.Signing.Serial

/-!
# Serials that verify

A signature is never empty, so that no serial is.  The serial of an accepted signature verifies, and
so does every other text that decodes to the signature.
-/

namespace LicenseSeal

theorem Rsa.ne_nil_of_verify {key : Rsa.PublicKey} {message signature : Bytes}
    (accepted : Rsa.verify key message signature = true) : signature ≠ [] := by
  rintro rfl
  simp only [verify, List.length_nil, Bool.and_eq_true, decide_eq_true_eq] at accepted
  obtain ⟨⟨⟨-, noRoom⟩, -⟩, padded⟩ := accepted
  rw [← noRoom, paddedDigest?, if_pos (by omega)] at padded
  cases padded

theorem Ed25519.ne_nil_of_verify {point message signature : Bytes}
    (accepted : Ed25519.verify point message signature = true) : signature ≠ [] := by
  rintro rfl
  rw [verify] at accepted
  split at accepted
  · next wellSized => cases wellSized
  · cases accepted

theorem Base64.encode_ne_nil {bytes : Bytes} (nonempty : bytes ≠ []) : encode bytes ≠ [] := by
  rcases bytes with _ | ⟨x, _ | ⟨y, _ | ⟨z, rest⟩⟩⟩
  · exact (nonempty rfl).elim
  · exact List.cons_ne_nil _ _
  · exact List.cons_ne_nil _ _
  · exact List.cons_ne_nil _ _

theorem PrivateKey.serial_ed25519 (seed payload : Bytes) :
    PrivateKey.serial (.ed25519 seed) payload = .ok (Base64.encode (Ed25519.sign seed payload)) :=
  rfl

theorem PrivateKey.isSurrogate_of_mem_serial {key : PrivateKey} {payload : Bytes} {serial : Text}
    (signs : key.serial payload = .ok serial) {c : CodePoint} (member : c ∈ serial) :
    c.isSurrogate = false := by
  rw [PrivateKey.serial] at signs
  split at signs
  · obtain rfl := Except.ok.inj signs
    exact Base64.isSurrogate_of_mem_encode member
  · cases signs

theorem PrivateKey.ne_nil_of_serial {key : PrivateKey} {payload : Bytes} {serial : Text}
    (signed : key.serial payload = .ok serial) : serial ≠ [] := by
  rw [PrivateKey.serial] at signed
  split at signed
  · next signature signs =>
      obtain rfl := Except.ok.inj signed
      apply Base64.encode_ne_nil
      cases key with
      | rsa key => exact Rsa.ne_nil_of_sign? signs
      | ed25519 seed =>
          obtain rfl := Option.some.inj signs
          exact Ed25519.sign_ne_nil seed payload
  · cases signed

namespace PublicKey

variable {key : PublicKey} {payload signature : Bytes}

theorem verifies_nil (key : PublicKey) (payload : Bytes) : key.verifies payload [] = false :=
  rfl

theorem ne_nil_of_accepts (accepted : key.accepts payload signature = true) : signature ≠ [] := by
  cases key with
  | rsa key => exact Rsa.ne_nil_of_verify accepted
  | ed25519 point => exact Ed25519.ne_nil_of_verify accepted

theorem verifies_encode (accepted : key.accepts payload signature = true) :
    key.verifies payload (Base64.encode signature) = true := by
  have nonempty := ne_nil_of_accepts accepted
  rw [verifies, Base64.decode?_encode]
  simp [accepted, nonempty]

/-- Exactly the texts of accepted signatures verify, whatever their last digit and their padding
hold beside the signature. -/
theorem verifies_iff_exists_encodeWith {serial : Text} :
    key.verifies payload serial = true ↔
      ∃ signature leftover marks, key.accepts payload signature = true ∧
        Base64.Leaves signature leftover marks ∧
        serial = Base64.encodeWith leftover marks signature := by
  constructor
  · intro verified
    rw [verifies] at verified
    cases decoded : Base64.decode? serial with
    | none =>
        rw [decoded] at verified
        cases verified
    | some signature =>
        rw [decoded] at verified
        have accepted := (Bool.and_eq_true_iff.mp verified).2
        obtain ⟨leftover, marks, leaves, -, written⟩ := Base64.decode?_eq_some_iff.mp decoded
        exact ⟨signature, leftover, marks, accepted, leaves, written⟩
  · rintro ⟨signature, leftover, marks, accepted, leaves, rfl⟩
    have nonempty := ne_nil_of_accepts accepted
    rw [verifies, Base64.decode?_encodeWith leaves fun _ => nonempty]
    simp [accepted, nonempty]

end PublicKey

end LicenseSeal
