/-!
# Code points

A code point is a character or a surrogate.  A surrogate stands for nothing by itself, and no
encoding of Unicode has bytes for it, but an escape can write one alone.
-/

namespace LicenseSeal

/-- A code point: a character, or a surrogate by its distance from the first one. -/
inductive CodePoint where
  | char (c : Char)
  | surrogate (index : Fin 0x800)
  deriving DecidableEq, Repr, Inhabited

instance : Coe Char CodePoint := ⟨CodePoint.char⟩

namespace CodePoint

def toNat : CodePoint → Nat
  | char c => c.toNat
  | surrogate index => 0xD800 + index

/-- The code point of a number; a number that is too large has the one of zero. -/
def ofNat (code : Nat) : CodePoint :=
  if inside : 0xD800 ≤ code ∧ code < 0xE000 then .surrogate ⟨code - 0xD800, by omega⟩
  else .char (Char.ofNat code)

def char? : CodePoint → Option Char
  | char c => some c
  | surrogate _ => none

def isSurrogate : CodePoint → Bool
  | char _ => false
  | surrogate _ => true

instance : LE CodePoint := ⟨fun first second => first.toNat ≤ second.toNat⟩

instance : LT CodePoint := ⟨fun first second => first.toNat < second.toNat⟩

instance (first second : CodePoint) : Decidable (first ≤ second) :=
  inferInstanceAs (Decidable (first.toNat ≤ second.toNat))

instance (first second : CodePoint) : Decidable (first < second) :=
  inferInstanceAs (Decidable (first.toNat < second.toNat))

theorem le_def {first second : CodePoint} : first ≤ second ↔ first.toNat ≤ second.toNat :=
  Iff.rfl

@[simp] theorem toNat_char (c : Char) : (char c).toNat = c.toNat :=
  rfl

/-- The lower case of a letter of ASCII. -/
def toLower : CodePoint → CodePoint
  | char c => char c.toLower
  | surrogate index => surrogate index

/-- The upper case of a letter of ASCII. -/
def toUpper : CodePoint → CodePoint
  | char c => char c.toUpper
  | surrogate index => surrogate index

/-- A letter or a digit of ASCII. -/
def isAlphanum : CodePoint → Bool
  | char c => c.isAlphanum
  | surrogate _ => false

theorem isSurrogate_iff {c : CodePoint} :
    c.isSurrogate = true ↔ 0xD800 ≤ c.toNat ∧ c.toNat < 0xE000 := by
  cases c with
  | char c =>
      have valid := c.valid
      simp only [UInt32.isValidChar, Nat.isValidChar] at valid
      simp only [isSurrogate, toNat, Char.toNat, Bool.false_eq_true, false_iff]
      omega
  | surrogate index =>
      have := index.isLt
      simp only [isSurrogate, toNat, true_iff]
      omega

theorem ofNat_toNat (c : CodePoint) : ofNat c.toNat = c := by
  cases c with
  | char c =>
      have outside : ¬ (0xD800 ≤ c.toNat ∧ c.toNat < 0xE000) := fun inside => by
        have surrogate := (isSurrogate_iff (c := char c)).mpr inside
        cases surrogate
      rw [toNat, ofNat, dif_neg outside, Char.ofNat_toNat]
  | surrogate index =>
      have := index.isLt
      have inside : 0xD800 ≤ 0xD800 + (index : Nat) ∧ 0xD800 + (index : Nat) < 0xE000 := by omega
      rw [toNat, ofNat, dif_pos inside]
      refine congrArg surrogate (Fin.ext ?_)
      exact Nat.add_sub_cancel_left 0xD800 index

theorem toNat_lt (c : CodePoint) : c.toNat < 0x110000 := by
  cases c with
  | char c =>
      have valid := c.valid
      simp only [toNat, Char.toNat, UInt32.isValidChar, Nat.isValidChar] at *
      omega
  | surrogate index =>
      have := index.isLt
      simp only [toNat]
      omega

/-- A character is below the surrogates, or between them and the end. -/
theorem toNat_range {c : CodePoint} (plain : c.isSurrogate = false) :
    c.toNat < 0xD800 ∨ (0xDFFF < c.toNat ∧ c.toNat < 0x110000) := by
  have small := c.toNat_lt
  have outside : ¬ (0xD800 ≤ c.toNat ∧ c.toNat < 0xE000) := fun inside => by
    rw [isSurrogate_iff.mpr inside] at plain
    cases plain
  omega

theorem toNat_ofNat {code : Nat} (small : code < 0x110000) : (ofNat code).toNat = code := by
  rw [ofNat]
  split
  · next inside =>
      simp only [toNat]
      omega
  · next outside =>
      have valid : code.isValidChar := by
        rw [Nat.isValidChar]
        omega
      rw [toNat, Char.ofNat, dif_pos valid]
      rfl

end CodePoint

end LicenseSeal

/-- The code points of a string. -/
def String.text (string : String) : List LicenseSeal.CodePoint :=
  string.toList.map LicenseSeal.CodePoint.char

theorem String.isSurrogate_of_mem_text {string : String} {c : LicenseSeal.CodePoint}
    (member : c ∈ string.text) : c.isSurrogate = false := by
  obtain ⟨letter, -, rfl⟩ := List.mem_map.mp member
  rfl
