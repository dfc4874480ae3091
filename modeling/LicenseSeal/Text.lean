import LicenseSeal.Text.CodePoint

/-!
# Text and bytes

A text is the list of its code points, so a position is a count of code points and a reader is a
recursion on what is left.  Bytes are a list for the same reason.
-/

namespace LicenseSeal

/-- A text: its code points in order. -/
abbrev Text := List CodePoint

/-- Raw content: its bytes in order. -/
abbrev Bytes := List UInt8

namespace Text

/-- The decimal digits of a natural number. -/
def ofNat (number : Nat) : Text :=
  (Nat.toDigits 10 number).map CodePoint.char

/-- The decimal digits of an integer, after a minus sign when it is negative. -/
def ofInt : Int → Text
  | .ofNat number => ofNat number
  | .negSucc number => '-' :: ofNat (number + 1)

/-- What follows `lead` in a list that begins with it. -/
def dropLead? {α : Type} [DecidableEq α] : (lead list : List α) → Option (List α)
  | [], list => some list
  | _ :: _, [] => none
  | first :: lead, head :: list => if first = head then dropLead? lead list else none

theorem dropLead?_eq_some_iff {α : Type} [DecidableEq α] {lead list rest : List α} :
    dropLead? lead list = some rest ↔ list = lead ++ rest := by
  induction lead generalizing list with
  | nil => simp [dropLead?]
  | cons first lead ih =>
      cases list with
      | nil => simp [dropLead?]
      | cons head list =>
          by_cases same : first = head
          · simp [dropLead?, same, ih]
          · simp [dropLead?, same, Ne.symm same]

/-- What stands in front of the first occurrence of `mark` in a list, and what follows it. -/
def cutAt? {α : Type} [DecidableEq α] (mark : List α) : List α → Option (List α × List α)
  | [] => if mark.isEmpty then some ([], []) else none
  | head :: list =>
      match dropLead? mark (head :: list) with
      | some rest => some ([], rest)
      | none => (cutAt? mark list).map fun parts => (head :: parts.1, parts.2)

/-- A list is cut at a mark if the mark stands somewhere in it. -/
theorem isSome_cutAt?_iff {α : Type} [DecidableEq α] {mark list : List α} :
    (cutAt? mark list).isSome ↔ mark <:+: list := by
  induction list with
  | nil => cases mark <;> simp [cutAt?]
  | cons head list ih =>
      rw [cutAt?, List.infix_cons_iff]
      cases front : dropLead? mark (head :: list) with
      | some rest =>
          have isFront : mark <+: head :: list := ⟨rest, (dropLead?_eq_some_iff.mp front).symm⟩
          simp [isFront]
      | none =>
          have noFront : ¬ mark <+: head :: list := by
            rintro ⟨rest, whole⟩
            rw [dropLead?_eq_some_iff.mpr whole.symm] at front
            cases front
          simp [noFront, ih]

/-- The texts one after the other, with a separator between neighbours. -/
def join (separator : Text) : List Text → Text
  | [] => []
  | [only] => only
  | first :: second :: rest => first ++ separator ++ join separator (second :: rest)

/-- The value of a decimal digit. -/
def digitValue? (c : CodePoint) : Option Nat :=
  if '0' ≤ c ∧ c ≤ '9' then some (c.toNat - '0'.toNat) else none

/-- A decimal digit of ASCII. -/
def isDigit (c : CodePoint) : Bool :=
  '0' ≤ c && c ≤ '9'

/-- The number that a run of decimal digits writes; other characters count as zero. -/
def natOfDigits (digits : Text) : Nat :=
  digits.foldl (fun number c => number * 10 + (digitValue? c).getD 0) 0

/-- The value of a hexadecimal digit of either case. -/
def hexValue? (c : CodePoint) : Option Nat :=
  if '0' ≤ c ∧ c ≤ '9' then some (c.toNat - '0'.toNat)
  else if 'a' ≤ c ∧ c ≤ 'f' then some (c.toNat - 'a'.toNat + 10)
  else if 'A' ≤ c ∧ c ≤ 'F' then some (c.toNat - 'A'.toNat + 10)
  else none

/-- The lower-case hexadecimal digit of a number below sixteen. -/
def hexDigit (value : Nat) : CodePoint :=
  if value < 10 then CodePoint.ofNat ('0'.toNat + value)
  else CodePoint.ofNat ('a'.toNat + (value - 10))

/-- The lowest `width` hexadecimal digits of a number, highest first. -/
def hexDigits : (width : Nat) → (number : Nat) → Text
  | 0, _ => []
  | width + 1, number => hexDigits width (number / 16) ++ [hexDigit (number % 16)]

/-- A code point, or its escape if it is a surrogate. -/
private def shown : CodePoint → Text
  | .char c => [c]
  | .surrogate index => '\\' :: 'u' :: hexDigits 4 (0xD800 + index)

/-- The text with an escape in the place of each surrogate. -/
def withoutSurrogates (text : Text) : Text :=
  text.flatMap shown

/-- A text as a string, for messages and output. -/
def str (text : Text) : String :=
  String.ofList (text.withoutSurrogates.filterMap CodePoint.char?)

/-- The lower-case hexadecimal text of bytes, two digits for each. -/
def ofBytes (bytes : Bytes) : Text :=
  bytes.flatMap fun byte => hexDigits 2 byte.toNat

/-- The bytes that a hexadecimal text writes, two digits for each. -/
def bytes? : Text → Option Bytes
  | [] => some []
  | high :: low :: rest => do
      let upper ← hexValue? high
      let lower ← hexValue? low
      let others ← bytes? rest
      some (UInt8.ofNat (upper * 16 + lower) :: others)
  | [_] => none

/-- The text without its leading and trailing characters of a class. -/
def trimBy (drops : CodePoint → Bool) (text : Text) : Text :=
  ((text.dropWhile drops).reverse.dropWhile drops).reverse

/-- The pieces of a text between the places where one character stands. -/
def splitAt (separator : CodePoint) : Text → List Text
  | [] => [[]]
  | c :: rest =>
      if c = separator then [] :: splitAt separator rest
      else
        match splitAt separator rest with
        | [] => [[c]]
        | piece :: pieces => (c :: piece) :: pieces

/-- The text with a carriage return, alone or in front of a line feed, made a line feed. -/
def unifyLineEnds : Text → Text
  | [] => []
  | '\r' :: '\n' :: rest => '\n' :: unifyLineEnds rest
  | c :: rest => (if c = '\r' then '\n' else c) :: unifyLineEnds rest

/-- The letter's lower case, for ASCII letters. -/
def lowerAscii (text : Text) : Text :=
  text.map CodePoint.toLower

end Text

end LicenseSeal
