import LicenseSeal.Proofs.Encoding.Utf8RoundTrip
import LicenseSeal.Proofs.Json.StringRoundTrip
import LicenseSeal.Proofs.Template.OnePassFragments
import LicenseSeal.Proofs.Template.TokenTexts
import LicenseSeal.Template.Fingerprint

/-!
# What a fingerprint identifies

The text that a fingerprint hashes is written from the literal texts and the names of the tokens,
and determines them.  The unsupported fragments that are written behind them add nothing, since the
literal texts determine these too.
-/

namespace LicenseSeal

/-! ### Hexadecimal texts -/

namespace Text

theorem bytes?_ofBytes (bytes : Bytes) : bytes? (ofBytes bytes) = some bytes := by
  induction bytes with
  | nil => rfl
  | cons byte rest ih =>
      have small := byte.toNat_lt
      have upper : hexValue? (hexDigit (byte.toNat / 16 % 16)) = some (byte.toNat / 16 % 16) :=
        Json.hexValue?_hexDigit (Nat.mod_lt _ (by decide))
      have lower : hexValue? (hexDigit (byte.toNat % 16)) = some (byte.toNat % 16) :=
        Json.hexValue?_hexDigit (Nat.mod_lt _ (by decide))
      have whole : UInt8.ofNat (byte.toNat / 16 % 16 * 16 + byte.toNat % 16) = byte := by
        have same : byte.toNat / 16 % 16 * 16 + byte.toNat % 16 = byte.toNat := by omega
        rw [same, UInt8.ofNat_toNat]
      have written : ofBytes (byte :: rest) =
          hexDigit (byte.toNat / 16 % 16) :: hexDigit (byte.toNat % 16) :: ofBytes rest := rfl
      simp only [written, bytes?, upper, lower, ih, Option.bind_eq_bind, Option.bind_some, whole]

theorem ofBytes_injective {first second : Bytes} (same : ofBytes first = ofBytes second) :
    first = second := by
  have read := congrArg bytes? same
  rw [bytes?_ofBytes, bytes?_ofBytes] at read
  exact Option.some.inj read

end Text

/-! ### Segments -/

namespace Json

theorem object_one_append (name value rest : Text) :
    object [(name, value)] ++ rest =
      CodePoint.char '\x7b' :: (string name ++
        (CodePoint.char ':' :: (value ++ (CodePoint.char '\x7d' :: rest)))) := by
  simp only [object, List.map_cons, List.map_nil, Text.join, List.cons_append, List.append_assoc,
    List.nil_append]

theorem object_two (name value name' value' : Text) :
    object [(name, value), (name', value')] =
      CodePoint.char '\x7b' :: (string name ++ (CodePoint.char ':' :: (value ++
        (CodePoint.char ',' :: (string name' ++ (CodePoint.char ':' :: (value' ++
          [CodePoint.char '\x7d']))))))) := by
  simp only [object, List.map_cons, List.map_nil, Text.join, List.cons_append, List.append_assoc,
    List.nil_append]

end Json

namespace Grammar

/-- A node as JSON: its literal text or its name. -/
def Node.identity : Node → Text
  | .literal text => Json.object [("literal".text, Json.string text)]
  | .capture name _ => Json.object [("token".text, Json.string name)]

/-- The texts of the fragments in a node that look like placeholders. -/
def Node.fragmentTexts : Node → List Text
  | .literal text => (Template.fragmentsFrom 0 text).map (·.text)
  | .capture _ _ => []

theorem identity_ofSegment (segment : Segment) :
    (Node.ofSegment segment).identity = segment.identity := by
  cases segment <;> rfl

end Grammar

namespace Segment

/-- What a segment is and the text that says which. -/
private def member : Segment → Text × Text
  | .literal text => ("literal".text, text)
  | .token name _ => ("token".text, name)

private theorem identity_append (segment : Segment) (rest : Text) :
    segment.identity ++ rest =
      CodePoint.char '\x7b' :: (Json.string segment.member.1 ++
        (CodePoint.char ':' :: (Json.string segment.member.2 ++
          (CodePoint.char '\x7d' :: rest)))) := by
  cases segment with
  | literal text => exact Json.object_one_append _ _ rest
  | token name raw => exact Json.object_one_append _ _ rest

private theorem ofSegment_eq_of_member_eq {first second : Segment}
    (same : first.member = second.member) :
    Grammar.Node.ofSegment first = Grammar.Node.ofSegment second := by
  obtain ⟨sameKind, sameText⟩ := Prod.mk.inj same
  have kinds : "literal".text ≠ "token".text := by decide
  cases first with
  | literal text =>
      cases second with
      | literal text' => exact congrArg Grammar.Node.literal sameText
      | token name raw => exact (kinds sameKind).elim
  | token name raw =>
      cases second with
      | literal text => exact (kinds sameKind.symm).elim
      | token name' raw' => exact congrArg (Grammar.Node.capture · true) sameText

theorem delimited_identity : Json.Delimited identity Grammar.Node.ofSegment := by
  constructor
  · intro first second rest rest' same
    rw [identity_append, identity_append] at same
    obtain ⟨sameKind, afterKind⟩ := Json.string_append_inj (List.cons.inj same).2
    obtain ⟨sameText, afterText⟩ := Json.string_append_inj (List.cons.inj afterKind).2
    exact ⟨ofSegment_eq_of_member_eq (Prod.ext sameKind sameText), (List.cons.inj afterText).2⟩
  · intro segment rest rest' same
    rw [identity_append] at same
    exact absurd (List.cons.inj same).1 (by decide)

end Segment

/-! ### Unsupported fragments -/

namespace Template

theorem map_text_fragmentsFrom (start start' : Nat) (text : Text) :
    (fragmentsFrom start text).map (·.text) = (fragmentsFrom start' text).map (·.text) := by
  induction start, text using fragmentsFrom.induct generalizing start' with
  | case1 start => rw [fragmentsFrom, fragmentsFrom]
  | case2 start c rest found read ih =>
      rw [fragmentsFrom_of_some read, fragmentsFrom_of_some read, List.map_cons, List.map_cons,
        ih (start' + found.text.length)]
  | case3 start c rest unread ih =>
      rw [fragmentsFrom_of_none unread, fragmentsFrom_of_none unread, ih (start' + 1)]

end Template

namespace Scan

private theorem map_text_placedFrom (start : Nat) (segments : List Segment) :
    ((placedFrom start segments).flatMap fragmentsIn).map (·.text) =
      (segments.map Grammar.Node.ofSegment).flatMap Grammar.Node.fragmentTexts := by
  induction segments generalizing start with
  | nil => rfl
  | cons segment segments ih =>
      rw [placedFrom, List.flatMap_cons, List.map_append, ih, List.map_cons, List.flatMap_cons]
      cases segment with
      | literal text =>
          exact congrArg (· ++ _) (Template.map_text_fragmentsFrom start 0 text)
      | token name raw => rfl

theorem map_text_unsupported (scan : Scan) :
    scan.unsupported.map (·.text) =
      (scan.segments.map Grammar.Node.ofSegment).flatMap Grammar.Node.fragmentTexts := by
  rw [unsupported_eq]
  exact map_text_placedFrom 0 scan.segments

variable {first second : Scan}

/-- The text that identifies a template determines its literal texts and the names of its tokens,
and is determined by them. -/
theorem identity_eq_iff :
    first.identity = second.identity ↔
      first.segments.map Grammar.Node.ofSegment = second.segments.map Grammar.Node.ofSegment := by
  constructor
  · intro same
    rw [identity, identity, Json.object_two, Json.object_two] at same
    obtain ⟨-, behind⟩ := Json.string_append_inj (List.cons.inj same).2
    exact (Json.array_append_inj Segment.delimited_identity (List.cons.inj behind).2).1
  · intro same
    have written (scan : Scan) : scan.segments.map Segment.identity =
        (scan.segments.map Grammar.Node.ofSegment).map Grammar.Node.identity := by
      simp only [List.map_map, Function.comp_def, Grammar.identity_ofSegment]
    simp only [identity, unsupportedTexts, map_text_unsupported, written, same]

end Scan

namespace Template

variable {template first second hash : Text}

theorem fingerprint_eq_ok_iff :
    fingerprint template = .ok hash ↔ ∃ bytes,
      Encoding.Utf8.encode (scan template).identity = .ok bytes ∧
        Text.ofBytes (Sha256.digest bytes) = hash := by
  rw [fingerprint]
  cases Encoding.Utf8.encode (scan template).identity <;> simp [Except.map]

/-- Unless two identities have one digest, equal fingerprints mean equal identities. -/
theorem fingerprint_eq_ok_iff_of_noCollision
    (noCollision : ∀ bytes bytes', Encoding.Utf8.encode (scan first).identity = .ok bytes →
      Encoding.Utf8.encode (scan second).identity = .ok bytes' →
      Sha256.digest bytes = Sha256.digest bytes' → bytes = bytes')
    (hashed : fingerprint first = .ok hash) :
    fingerprint second = .ok hash ↔
      (scan first).segments.map Grammar.Node.ofSegment =
        (scan second).segments.map Grammar.Node.ofSegment := by
  rw [← Scan.identity_eq_iff]
  constructor
  · intro hashed'
    obtain ⟨bytes, encoded, rfl⟩ := fingerprint_eq_ok_iff.mp hashed
    obtain ⟨bytes', encoded', same⟩ := fingerprint_eq_ok_iff.mp hashed'
    obtain rfl := noCollision bytes bytes' encoded encoded' (Text.ofBytes_injective same).symm
    exact Encoding.Utf8.encode_injective encoded encoded'
  · intro same
    rw [fingerprint, ← same]
    exact hashed

end Template

end LicenseSeal
