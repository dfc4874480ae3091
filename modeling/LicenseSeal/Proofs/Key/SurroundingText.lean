import LicenseSeal.Proofs.License.Outcome

/-!
# Text around a public key

The reader of key blocks skips what stands around them.  A public key is found in a content with any
text behind its block and with text without dashes in front.  But whether the public or the private
reader is used is decided by words that may stand anywhere: a public key is loaded exactly if the
content does not mention private keys.
-/

namespace LicenseSeal

namespace Pem

theorem firstBlock?_append_left {before : Bytes} (noDash : 0x2D ∉ before) (bytes : Bytes) :
    firstBlock? (before ++ bytes) = firstBlock? bytes := by
  rw [firstBlock?, firstBlock?, cut?_append_left noDash]

theorem firstBlock?_append_right {bytes : Bytes} {block : Block}
    (first : firstBlock? bytes = some block) (after : Bytes) :
    firstBlock? (bytes ++ after) = some block := by
  obtain ⟨⟨cut, rest⟩, found, formed⟩ := Option.bind_eq_some_iff.mp first
  rw [firstBlock?, cut?_append_right found after]
  exact formed

theorem label_of_block? {cut : Cut} {block : Block} (formed : cut.block? = some block) :
    Encoding.Utf8.decode? cut.label = some block.label := by
  simp only [Cut.block?, Option.bind_eq_bind, Option.bind_eq_some_iff] at formed
  obtain ⟨label, decoded, headers, -, content, -, same⟩ := formed
  split at same
  · obtain rfl := Option.some.inj same
    exact decoded
  · cases same

end Pem

namespace PublicKey

/-- The first block of a content holds a public key. -/
structure StandsFirst (content : Bytes) (key : PublicKey) : Prop where
  exists_block : ∃ block, Pem.firstBlock? content = some block ∧
    ((block.label = "PUBLIC KEY".text ∧ Key.ofPublicInformation block.content = .ok key) ∨
      (block.label = "RSA PUBLIC KEY".text ∧ Key.ofRsaPublic block.content = .ok key))

/-- No block of a content has the label of a private key. -/
def NoPrivateBlock (content : Bytes) : Prop :=
  ∀ cut ∈ Pem.cuts content.length content,
    (Encoding.Utf8.decode? cut.label).bind Key.PrivateLabel.ofText? = none

instance (content : Bytes) : Decidable (NoPrivateBlock content) :=
  inferInstanceAs (Decidable (∀ cut ∈ _, _))

variable {content : Bytes} {key : PublicKey}

theorem StandsFirst.append (stands : StandsFirst content key) {before : Bytes}
    (noDash : 0x2D ∉ before) (after : Bytes) : StandsFirst (before ++ content ++ after) key := by
  obtain ⟨block, first, holds⟩ := stands.exists_block
  refine ⟨block, ?_, holds⟩
  rw [List.append_assoc, Pem.firstBlock?_append_left noDash]
  exact Pem.firstBlock?_append_right first after

/-- A public key that stands first is read unless private keys are mentioned. -/
theorem read_of_standsFirst (stands : StandsFirst content key)
    (unmentioned : ¬ privateMark <:+: content) : read content = .ok key := by
  obtain ⟨block, first, holds⟩ := stands.exists_block
  rw [read, if_neg (mt Text.isSome_cutAt?_iff.mp unmentioned), first]
  rcases holds with ⟨label, holds⟩ | ⟨label, holds⟩
  · exact (if_pos label).trans holds
  · have other : block.label ≠ "PUBLIC KEY".text := by
      rw [label]
      decide
    exact (if_neg other).trans ((if_pos label).trans holds)

private theorem exists_of_mem_mapM {α β : Type} {image : α → Option β} {items : List α}
    {results : List β} (gathered : items.mapM image = some results) :
    ∀ result ∈ results, ∃ item ∈ items, image item = some result := by
  induction items generalizing results with
  | nil =>
      obtain rfl := Option.some.inj gathered
      intro result member
      cases member
  | cons item items ih =>
      simp only [List.mapM_cons, Option.bind_eq_bind, Option.bind_eq_some_iff, Option.pure_def,
        Option.some.injEq] at gathered
      obtain ⟨first, same, others, rest, rfl⟩ := gathered
      intro result member
      rcases List.mem_cons.mp member with rfl | later
      · exact ⟨item, List.mem_cons_self, same⟩
      · obtain ⟨item', member', same'⟩ := ih rest result later
        exact ⟨item', List.mem_cons_of_mem item member', same'⟩

theorem read_private_of_noPrivateBlock (noPrivate : NoPrivateBlock content)
    (password : Option Bytes) : PrivateKey.read content password = .error .invalid := by
  have unfound : Key.privateBlock? content = none := by
    rw [Key.privateBlock?]
    cases gathered : Pem.blocks? content with
    | none => rfl
    | some blocks =>
        refine List.findSome?_eq_none_iff.mpr fun block member => ?_
        obtain ⟨cut, inside, formed⟩ := exists_of_mem_mapM gathered block member
        have unlabelled := noPrivate cut inside
        rw [Pem.label_of_block? formed] at unlabelled
        exact congrArg (Option.map fun label => (label, block)) unlabelled
  rw [PrivateKey.read, unfound]

/-- Where private keys are mentioned without being there, no key is read. -/
theorem read_of_mentioned (noPrivate : NoPrivateBlock content)
    (mentioned : privateMark <:+: content) : read content = .error .invalid := by
  rw [read, if_pos (Text.isSome_cutAt?_iff.mpr mentioned),
    read_private_of_noPrivateBlock noPrivate]
  rfl

/-- A content whose first block holds a public key and that has no block with a private one loads as
this key, whatever stands around the block, unless the words for private keys occur in it; then it
is refused.  Text without dashes in front of the block and any text behind it leave it the first. -/
theorem load_iff_unmentioned (stands : StandsFirst content key)
    (noPrivate : NoPrivateBlock content) (source : Text) :
    (load content source = .ok key ↔ ¬ privateMark <:+: content) ∧
      (privateMark <:+: content → load content source = .error ⟨.invalid .verifying, source⟩) ∧
      ∀ before after, 0x2D ∉ before → StandsFirst (before ++ content ++ after) key := by
  have refused (mentioned : privateMark <:+: content) :
      load content source = .error ⟨.invalid .verifying, source⟩ := by
    rw [load, read_of_mentioned noPrivate mentioned]
    rfl
  refine ⟨⟨?_, ?_⟩, refused, fun before after noDash => stands.append noDash after⟩
  · intro loads mentioned
    rw [refused mentioned] at loads
    cases loads
  · intro unmentioned
    rw [load, read_of_standsFirst stands unmentioned]
    rfl

end PublicKey

namespace Sample

/-- A remark in front of a key, and the key of `publicKeyText`. -/
def remarked (remark : String) : Bytes :=
  Encoding.Utf8.bytesOf remark.text ++ Encoding.Utf8.bytesOf publicKeyText

theorem standsFirst_remarked {remark : String}
    (noDash : 0x2D ∉ Encoding.Utf8.bytesOf remark.text) :
    PublicKey.StandsFirst (remarked remark) (.ed25519 point) := by
  -- A remark is skipped, so only the block of the key itself is evaluated.
  have first : ((Pem.firstBlock? (Encoding.Utf8.bytesOf publicKeyText)).map fun block =>
      (block.label, (Key.ofPublicInformation block.content).toOption)) =
        some ("PUBLIC KEY".text, some (.ed25519 point)) := by
    decide +kernel
  obtain ⟨block, found, same⟩ := Option.map_eq_some_iff.mp first
  obtain ⟨label, holds⟩ := Prod.mk.inj same
  refine ⟨block, ?_, .inl ⟨label, ?_⟩⟩
  · rw [remarked, Pem.firstBlock?_append_left noDash, found]
  · cases read : Key.ofPublicInformation block.content with
    | error fault =>
        rw [read] at holds
        cases holds
    | ok key =>
        rw [read] at holds
        exact congrArg Except.ok (Option.some.inj holds)

end Sample

namespace PublicKey

/-- A remark in front of a key changes nothing. -/
theorem load_iff_unmentioned_remarked :
    StandsFirst (Sample.remarked "the public half\n") (.ed25519 Sample.point) ∧
      NoPrivateBlock (Sample.remarked "the public half\n") ∧
      load (Sample.remarked "the public half\n") [] = .ok (.ed25519 Sample.point) := by
  have stands : StandsFirst (Sample.remarked "the public half\n") (.ed25519 Sample.point) :=
    Sample.standsFirst_remarked (by decide +kernel)
  have noPrivate : NoPrivateBlock (Sample.remarked "the public half\n") := by decide +kernel
  have unmentioned : ¬ privateMark <:+: Sample.remarked "the public half\n" := by
    decide +kernel
  exact ⟨stands, noPrivate, (load_iff_unmentioned stands noPrivate []).1.mpr unmentioned⟩

/-- A public key is not always loaded: a remark about private keys keeps it from being read, though
the content has no block with one. -/
theorem exists_unloaded_public_key :
    ∃ content key, StandsFirst content key ∧ NoPrivateBlock content ∧
      ∀ source, load content source = .error ⟨.invalid .verifying, source⟩ := by
  have stands : StandsFirst (Sample.remarked "not the PRIVATE KEY\n") (.ed25519 Sample.point) :=
    Sample.standsFirst_remarked (by decide +kernel)
  have noPrivate : NoPrivateBlock (Sample.remarked "not the PRIVATE KEY\n") := by decide +kernel
  refine ⟨_, _, stands, noPrivate, fun source => ?_⟩
  rw [load, read_of_mentioned noPrivate (by decide +kernel)]
  rfl

end PublicKey

end LicenseSeal
