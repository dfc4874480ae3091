import LicenseSeal.Text.Base64
import Mathlib.Data.List.Basic
import Mathlib.Tactic.SplitIfs

/-!
# Base64 read back

Decoding the standard text of some bytes gives the bytes back.  It is not the only text that does:
padding leaves bits of the last digit over, and behind whole groups more padding can stand.
`encodeWith` writes every text of some bytes, and `decode?_eq_some_iff` says that no other text
decodes to them.
-/

namespace LicenseSeal.Base64

/-- The text of bytes with a number in the bits of the last digit that padding leaves over, and with
marks of padding behind whole groups. -/
def encodeWith (leftover marks : Nat) : Bytes → Text
  | [] => List.replicate marks '='
  | [x] => [digit (x.toNat / 4), digit (x.toNat % 4 * 16 + leftover), '=', '=']
  | [x, y] =>
      [digit (x.toNat / 4), digit (x.toNat % 4 * 16 + y.toNat / 16),
        digit (y.toNat % 16 * 4 + leftover), '=']
  | x :: y :: z :: rest =>
      digit (x.toNat / 4) :: digit (x.toNat % 4 * 16 + y.toNat / 16)
        :: digit (y.toNat % 16 * 4 + z.toNat / 64) :: digit (z.toNat % 64)
        :: encodeWith leftover marks rest

/-- The number of ways to fill the bits that are left over behind a number of bytes. -/
def room (count : Nat) : Nat :=
  match count % 3 with
  | 0 => 1
  | 1 => 16
  | _ => 4

/-- What the last digit and the padding of a text of some bytes can hold beside the bytes: the bits
that are left over have room for a number, and only whole groups can have more padding behind
them. -/
structure Leaves (bytes : Bytes) (leftover marks : Nat) : Prop where
  leftover_lt : leftover < room bytes.length
  whole : marks ≠ 0 → bytes.length % 3 = 0

private theorem room_add_three (count : Nat) : room (count + 3) = room count := by
  have sameGroup : (count + 3) % 3 = count % 3 := by omega
  rw [room, sameGroup, room]

private theorem leaves_cons_iff {x y z : UInt8} {rest : Bytes} {leftover marks : Nat} :
    Leaves (x :: y :: z :: rest) leftover marks ↔ Leaves rest leftover marks := by
  have length : (x :: y :: z :: rest).length = rest.length + 3 := rfl
  have sameGroup : (rest.length + 3) % 3 = rest.length % 3 := by omega
  constructor
  · rintro ⟨less, whole⟩
    rw [length, room_add_three] at less
    rw [length, sameGroup] at whole
    exact ⟨less, whole⟩
  · rintro ⟨less, whole⟩
    constructor
    · rw [length, room_add_three]
      exact less
    · rw [length, sameGroup]
      exact whole

theorem encodeWith_zero (bytes : Bytes) : encodeWith 0 0 bytes = encode bytes := by
  induction bytes using encode.induct with
  | case1 => rfl
  | case2 x => rfl
  | case3 x y => rfl
  | case4 x y z rest ih => rw [encodeWith, encode, ih]

theorem leaves_zero (bytes : Bytes) : Leaves bytes 0 0 := by
  constructor
  · rw [room]
    split <;> decide
  · intro impossible
    exact (impossible rfl).elim

theorem value?_digit {value : Nat} (small : value < 64) :
    value? (digit value) = some value := by
  have all : ∀ value : Fin 64, value? (digit value) = some value.val := by decide
  exact all ⟨value, small⟩

theorem isSurrogate_digit (value : Nat) : (digit value).isSurrogate = false := by
  have plain {code : Nat} (ascii : code < 0x80) : (CodePoint.ofNat code).isSurrogate = false := by
    rw [CodePoint.ofNat, dif_neg (by omega)]
    rfl
  have upper : 'A'.toNat = 0x41 := rfl
  have lower : 'a'.toNat = 0x61 := rfl
  have zero : '0'.toNat = 0x30 := rfl
  rw [digit]
  split_ifs
  · exact plain (by omega)
  · exact plain (by omega)
  · exact plain (by omega)
  · rfl
  · rfl

theorem isSurrogate_of_mem_encode {bytes : Bytes} {c : CodePoint} (member : c ∈ encode bytes) :
    c.isSurrogate = false := by
  induction bytes using encode.induct with
  | case1 => cases member
  | case2 x =>
      simp only [encode, List.mem_cons, List.not_mem_nil, or_false] at member
      rcases member with rfl | rfl | rfl | rfl <;> first | exact isSurrogate_digit _ | rfl
  | case3 x y =>
      simp only [encode, List.mem_cons, List.not_mem_nil, or_false] at member
      rcases member with rfl | rfl | rfl | rfl <;> first | exact isSurrogate_digit _ | rfl
  | case4 x y z rest ih =>
      simp only [encode, List.mem_cons] at member
      rcases member with rfl | rfl | rfl | rfl | later
      iterate 4 exact isSurrogate_digit _
      exact ih later

theorem digits_digit {value : Nat} (small : value < 64) (rest : Text) :
    digits (digit value :: rest) = (value :: (digits rest).1, (digits rest).2) := by
  rw [digits, value?_digit small]

private theorem digits_padding (rest : Text) :
    digits ('=' :: rest) = ([], ('=' : CodePoint) :: rest) := by
  have noDigit : value? '=' = none := by decide
  rw [digits, noDigit]

private theorem digits_marks (marks : Nat) :
    digits (List.replicate marks ('=' : CodePoint)) =
      ([], List.replicate marks ('=' : CodePoint)) := by
  cases marks with
  | zero => rfl
  | succ marks => exact digits_padding _

private theorem eq_ofNat {byte : UInt8} {number : Nat} (same : number = byte.toNat) :
    UInt8.ofNat number = byte := by
  rw [same, UInt8.ofNat_toNat]

private theorem completes_add_four {count padding : Nat}
    (complete : count = 0 ∨ completes count padding) : completes (count + 4) padding := by
  have sameGroup : (count + 4) % 4 = count % 4 := by omega
  rcases complete with rfl | complete
  · simp [completes]
  · simp only [completes, sameGroup] at complete ⊢
    split at complete <;> simp_all

/-- The numbers that a text of some bytes writes hold the bytes, and its padding completes them. -/
private theorem digits_encodeWith {bytes : Bytes} {leftover marks : Nat}
    (leaves : Leaves bytes leftover marks) :
    ((digits (encodeWith leftover marks bytes)).2.all (· = '=') ∧
      (bytes = [] ∧ (digits (encodeWith leftover marks bytes)).1 = [] ∨
        completes (digits (encodeWith leftover marks bytes)).1.length
          (digits (encodeWith leftover marks bytes)).2.length)) ∧
        bytesOf (digits (encodeWith leftover marks bytes)).1 = bytes := by
  induction bytes using encode.induct with
  | case1 =>
      rw [encodeWith, digits_marks]
      refine ⟨⟨?_, .inl ⟨rfl, rfl⟩⟩, rfl⟩
      simp
  | case2 x =>
      have := x.toNat_lt
      have less : leftover < 16 := leaves.leftover_lt
      rw [encodeWith, digits_digit (by omega), digits_digit (by omega), digits_padding]
      refine ⟨⟨rfl, .inr rfl⟩, ?_⟩
      rw [bytesOf, eq_ofNat]
      omega
  | case3 x y =>
      have := x.toNat_lt
      have := y.toNat_lt
      have less : leftover < 4 := leaves.leftover_lt
      rw [encodeWith, digits_digit (by omega), digits_digit (by omega), digits_digit (by omega),
        digits_padding]
      refine ⟨⟨rfl, .inr rfl⟩, ?_⟩
      rw [bytesOf, eq_ofNat, eq_ofNat] <;> omega
  | case4 x y z rest ih =>
      have := x.toNat_lt
      have := y.toNat_lt
      have := z.toNat_lt
      obtain ⟨⟨padding, complete⟩, back⟩ := ih (leaves_cons_iff.mp leaves)
      rw [encodeWith, digits_digit (by omega), digits_digit (by omega), digits_digit (by omega),
        digits_digit (by omega)]
      refine ⟨⟨padding, .inr ?_⟩, ?_⟩
      · apply completes_add_four
        rcases complete with ⟨-, none⟩ | complete
        · left
          exact congrArg List.length none
        · right
          exact complete
      · rw [bytesOf, eq_ofNat, eq_ofNat, eq_ofNat, back] <;> omega

theorem decode?_encodeWith {bytes : Bytes} {leftover marks : Nat}
    (leaves : Leaves bytes leftover marks) (some : marks ≠ 0 → bytes ≠ []) :
    decode? (encodeWith leftover marks bytes) = .some bytes := by
  obtain ⟨⟨padding, complete⟩, back⟩ := digits_encodeWith leaves
  have completed : completes (digits (encodeWith leftover marks bytes)).1.length
      (digits (encodeWith leftover marks bytes)).2.length = true := by
    rcases complete with ⟨rfl, -⟩ | complete
    · obtain rfl : marks = 0 := Classical.byContradiction fun many => some many rfl
      rfl
    · exact complete
  simp only [decode?, padding, completed, Bool.and_self, if_true, back]

theorem decode?_encode (bytes : Bytes) : decode? (encode bytes) = some bytes := by
  rw [← encodeWith_zero]
  exact decode?_encodeWith (leaves_zero bytes) fun impossible => (impossible rfl).elim

/-! ### No other texts -/

private theorem eq_digit_of_value? {c : CodePoint} {value : Nat} (read : value? c = some value) :
    value < 64 ∧ c = digit value := by
  have named {code : Nat} (same : code = c.toNat) : c = CodePoint.ofNat code := by
    rw [same, CodePoint.ofNat_toNat]
  simp only [value?, CodePoint.le_def, CodePoint.toNat_char] at read
  split_ifs at read with upper lower decimal plus slash
  · obtain rfl := Option.some.inj read
    have bound : c.toNat - 'A'.toNat < 26 := by
      have : 'Z'.toNat = 'A'.toNat + 25 := rfl
      omega
    refine ⟨by omega, ?_⟩
    rw [digit, if_pos bound]
    apply named
    omega
  · obtain rfl := Option.some.inj read
    have : 'z'.toNat = 'a'.toNat + 25 := rfl
    refine ⟨by omega, ?_⟩
    rw [digit, if_neg (by omega), if_pos (by omega)]
    apply named
    omega
  · obtain rfl := Option.some.inj read
    have : '9'.toNat = '0'.toNat + 9 := rfl
    refine ⟨by omega, ?_⟩
    rw [digit, if_neg (by omega), if_neg (by omega), if_pos (by omega)]
    apply named
    omega
  · obtain rfl := Option.some.inj read
    exact ⟨by omega, plus⟩
  · obtain rfl := Option.some.inj read
    exact ⟨by omega, slash⟩

private theorem eq_of_digits (text : Text) :
    text = (digits text).1.map digit ++ (digits text).2 ∧
      ∀ value ∈ (digits text).1, value < 64 := by
  induction text with
  | nil => exact ⟨rfl, by simp [digits]⟩
  | cons c rest ih =>
      rw [digits]
      cases read : value? c with
      | none => simp
      | some value =>
          obtain ⟨small, same⟩ := eq_digit_of_value? read
          obtain ⟨whole, others⟩ := ih
          refine ⟨?_, ?_⟩
          · change c :: rest = digit value :: ((digits rest).1.map digit ++ (digits rest).2)
            rw [← whole, ← same]
          · intro other member
            rcases List.mem_cons.mp member with rfl | later
            · exact small
            · exact others other later

/-- Numbers with the padding that completes them write the bytes that the numbers hold. -/
private theorem exists_encodeWith_eq {values : List Nat} {marks : Nat}
    (small : ∀ value ∈ values, value < 64)
    (complete : values = [] ∨ completes values.length marks) :
    ∃ leftover marks', Leaves (bytesOf values) leftover marks' ∧ (marks' ≠ 0 → marks' = marks) ∧
      values.map digit ++ List.replicate marks ('=' : CodePoint) =
        encodeWith leftover marks' (bytesOf values) := by
  induction values using bytesOf.induct with
  | case1 a b c d rest ih =>
      have := small a (by simp)
      have := small b (by simp)
      have := small c (by simp)
      have := small d (by simp)
      have complete' : rest = [] ∨ completes rest.length marks := by
        cases rest with
        | nil => exact .inl rfl
        | cons first others =>
            right
            have complete := complete.resolve_left (List.cons_ne_nil _ _)
            have sameGroup : (others.length + 5) % 4 = (others.length + 1) % 4 := by omega
            simp only [completes, List.length_cons, sameGroup] at complete ⊢
            split at complete <;> simp_all
      obtain ⟨leftover, marks', leaves, same, written⟩ := ih (fun value member => small value (by
        simp only [List.mem_cons]
        exact .inr (.inr (.inr (.inr member))))) complete'
      refine ⟨leftover, marks', ?_, same, ?_⟩
      · rw [bytesOf]
        exact leaves_cons_iff.mpr leaves
      · rw [bytesOf, encodeWith, ← written]
        simp only [UInt8.toNat_ofNat', List.map_cons, List.cons_append, List.cons.injEq, and_true]
        refine ⟨?_, ?_, ?_, ?_⟩ <;> (apply congrArg digit; omega)
  | case2 a b c =>
      have := small a (by simp)
      have := small b (by simp)
      have := small c (by simp)
      have complete := complete.resolve_left (List.cons_ne_nil _ _)
      obtain rfl : marks = 1 := by simpa [completes] using complete
      refine ⟨c % 4, 0, ⟨?_, by simp⟩, by simp, ?_⟩
      · change c % 4 < 4
        omega
      · simp only [bytesOf, encodeWith, UInt8.toNat_ofNat', List.map_cons, List.map_nil,
          List.replicate_one, List.cons_append, List.nil_append, List.cons.injEq, and_true]
        refine ⟨?_, ?_, ?_⟩ <;> (apply congrArg digit; omega)
  | case3 a b =>
      have := small a (by simp)
      have := small b (by simp)
      have complete := complete.resolve_left (List.cons_ne_nil _ _)
      obtain rfl : marks = 2 := by simpa [completes] using complete
      refine ⟨b % 16, 0, ⟨?_, by simp⟩, by simp, ?_⟩
      · change b % 16 < 16
        omega
      · simp only [bytesOf, encodeWith, UInt8.toNat_ofNat', List.map_cons, List.map_nil,
          List.replicate_succ, List.replicate_zero, List.cons_append, List.nil_append,
          List.cons.injEq, and_true]
        refine ⟨?_, ?_⟩ <;> (apply congrArg digit; omega)
  | case4 values noGroup noThree noTwo =>
      match values with
      | [] => exact ⟨0, marks, ⟨Nat.zero_lt_one, fun _ => rfl⟩, fun _ => rfl, rfl⟩
      | [a] => simp [completes] at complete
      | [a, b] => exact (noTwo a b rfl).elim
      | [a, b, c] => exact (noThree a b c rfl).elim
      | a :: b :: c :: d :: rest => exact (noGroup a b c d rest rfl).elim

/-- The texts that are read as some bytes are those of the bytes with any number in the bits that
are left over, and, behind whole groups, with any padding. -/
theorem decode?_eq_some_iff {text : Text} {bytes : Bytes} :
    decode? text = some bytes ↔
      ∃ leftover marks, Leaves bytes leftover marks ∧ (marks ≠ 0 → bytes ≠ []) ∧
        text = encodeWith leftover marks bytes := by
  constructor
  · intro decoded
    obtain ⟨whole, small⟩ := eq_of_digits text
    simp only [decode?] at decoded
    split at decoded
    · next proper =>
        obtain rfl := Option.some.inj decoded
        obtain ⟨padding, complete⟩ := Bool.and_eq_true_iff.mp proper
        have marks : (digits text).2 = List.replicate (digits text).2.length ('=' : CodePoint) := by
          apply List.eq_replicate_of_mem
          intro c member
          simpa using List.all_eq_true.mp padding c member
        obtain ⟨leftover, marks', leaves, same, written⟩ :=
          exists_encodeWith_eq small (.inr complete)
        refine ⟨leftover, marks', leaves, ?_, ?_⟩
        · intro many empty
          rw [same many] at many
          have none : (digits text).1 = [] := by
            match values : (digits text).1 with
            | [] => rfl
            | [a] => simp [values, completes] at complete
            | [a, b] => simp [values, bytesOf] at empty
            | [a, b, c] => simp [values, bytesOf] at empty
            | a :: b :: c :: d :: rest => simp [values, bytesOf] at empty
          rw [none] at complete
          simp [completes, many] at complete
        · rw [← written, ← marks]
          exact whole
    · cases decoded
  · rintro ⟨leftover, marks, leaves, some, rfl⟩
    exact decode?_encodeWith leaves some

/-- A text determines what its last digit and its padding hold beside the bytes. -/
theorem encodeWith_inj {bytes : Bytes} {leftover leftover' marks marks' : Nat}
    (leaves : Leaves bytes leftover marks) (leaves' : Leaves bytes leftover' marks')
    (same : encodeWith leftover marks bytes = encodeWith leftover' marks' bytes) :
    leftover = leftover' ∧ marks = marks' := by
  have digit_inj {first second : Nat} (small : first < 64) (small' : second < 64)
      (same : digit first = digit second) : first = second := by
    have read := congrArg value? same
    rw [value?_digit small, value?_digit small'] at read
    exact Option.some.inj read
  induction bytes using encode.induct with
  | case1 =>
      have none : leftover < 1 := leaves.leftover_lt
      have none' : leftover' < 1 := leaves'.leftover_lt
      have sameLength := congrArg List.length same
      simp only [encodeWith, List.length_replicate] at sameLength
      exact ⟨by omega, sameLength⟩
  | case2 x =>
      have less : leftover < 16 := leaves.leftover_lt
      have less' : leftover' < 16 := leaves'.leftover_lt
      have none := mt leaves.whole (by simp)
      have none' := mt leaves'.whole (by simp)
      simp only [encodeWith, List.cons.injEq, and_true, true_and] at same
      have := digit_inj (by omega) (by omega) same
      omega
  | case3 x y =>
      have less : leftover < 4 := leaves.leftover_lt
      have less' : leftover' < 4 := leaves'.leftover_lt
      have none := mt leaves.whole (by simp)
      have none' := mt leaves'.whole (by simp)
      simp only [encodeWith, List.cons.injEq, and_true, true_and] at same
      have := digit_inj (by omega) (by omega) same
      omega
  | case4 x y z rest ih =>
      apply ih (leaves_cons_iff.mp leaves) (leaves_cons_iff.mp leaves')
      simpa only [encodeWith, List.cons.injEq, true_and] using same

end LicenseSeal.Base64
