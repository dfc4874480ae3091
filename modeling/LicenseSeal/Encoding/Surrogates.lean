import LicenseSeal.Encoding.Error

/-!
# Surrogates

The encodings of Unicode have bytes for every character and none for a surrogate.  Main statement:
`checked_eq_ok_iff` says when such an encoding gives bytes.
-/

namespace LicenseSeal.Encoding

/-- Refuses surrogates in a text whose first code point stands at a position.  The failure names the
first surrogate, or the whole run that it begins. -/
def refuseSurrogates (codec : String) (inRuns : Bool) (position : Nat) :
    Text → Except EncodeError Unit
  | [] => .ok ()
  | c :: rest =>
      if c.isSurrogate then
        let others := if inRuns then (rest.takeWhile CodePoint.isSurrogate).length else 0
        .error ⟨codec, position, position + 1 + others, c, "surrogates not allowed"⟩
      else refuseSurrogates codec inRuns (position + 1) rest

/-- The bytes of a text, unless it has a surrogate. -/
def checked (codec : String) (inRuns : Bool) (bytesOf : Text → Bytes) (text : Text) :
    Except EncodeError Bytes :=
  (refuseSurrogates codec inRuns 0 text).map fun _ => bytesOf text

theorem refuseSurrogates_eq_ok_iff {codec : String} {inRuns : Bool} {position : Nat} {text : Text} :
    refuseSurrogates codec inRuns position text = .ok () ↔ ∀ c ∈ text, c.isSurrogate = false := by
  induction text generalizing position with
  | nil => simp [refuseSurrogates]
  | cons c rest ih =>
      rw [refuseSurrogates]
      cases surrogate : c.isSurrogate <;> simp [surrogate, ih]

theorem checked_eq_ok_iff {codec : String} {inRuns : Bool} {bytesOf : Text → Bytes} {text : Text}
    {bytes : Bytes} :
    checked codec inRuns bytesOf text = .ok bytes ↔
      (∀ c ∈ text, c.isSurrogate = false) ∧ bytesOf text = bytes := by
  have accepted : refuseSurrogates codec inRuns 0 text = .ok () ↔
      ∀ c ∈ text, c.isSurrogate = false := refuseSurrogates_eq_ok_iff
  rw [checked, ← accepted]
  cases refuseSurrogates codec inRuns 0 text with
  | error error => simp [Except.map]
  | ok => simp [Except.map]

end LicenseSeal.Encoding
