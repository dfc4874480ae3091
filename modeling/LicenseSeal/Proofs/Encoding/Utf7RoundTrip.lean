import LicenseSeal.Encoding.Utf7
import LicenseSeal.Proofs.Encoding.UnicodeRoundTrip
import LicenseSeal.Proofs.Text.Base64RoundTrip
import Mathlib.Data.List.Chain
import Mathlib.Tactic.SplitIfs

/-!
# UTF-7 read back

A run in base 64 ends with its last digit, because a hyphen or a character that is no digit follows
it; its digits hold the units of its characters and fewer than six bits more, all of them zero.
Hence a text is read back run by run.  The units of two surrogates that stand side by side may make
a pair, which is read as one character; such a text is not read back.
-/

namespace LicenseSeal.Encoding.Utf7

/-! ### The digits of a run -/

/-- The numbers of six bits that hold bytes, the last one filled with zeros. -/
def sextets : Bytes → List Nat
  | [] => []
  | [x] => [x.toNat / 4, x.toNat % 4 * 16]
  | [x, y] => [x.toNat / 4, x.toNat % 4 * 16 + y.toNat / 16, y.toNat % 16 * 4]
  | x :: y :: z :: rest =>
      x.toNat / 4 :: (x.toNat % 4 * 16 + y.toNat / 16) :: (y.toNat % 16 * 4 + z.toNat / 64)
        :: z.toNat % 64 :: sextets rest

theorem sextets_lt (bytes : Bytes) : ∀ value ∈ sextets bytes, value < 64 := by
  induction bytes using sextets.induct with
  | case1 => simp [sextets]
  | case2 x =>
      have := x.toNat_lt
      simp only [sextets, List.forall_mem_cons, List.not_mem_nil, false_imp_iff, implies_true,
        and_true]
      omega
  | case3 x y =>
      have := x.toNat_lt
      have := y.toNat_lt
      simp only [sextets, List.forall_mem_cons, List.not_mem_nil, false_imp_iff, implies_true,
        and_true]
      omega
  | case4 x y z rest ih =>
      have := x.toNat_lt
      have := y.toNat_lt
      have := z.toNat_lt
      simp only [sextets, List.forall_mem_cons]
      exact ⟨by omega, by omega, by omega, by omega, ih⟩

theorem digit_ne {value : Nat} (small : value < 64) {c : CodePoint}
    (noDigit : Base64.value? c = none) :
    Base64.digit value ≠ c := by
  rintro rfl
  rw [Base64.value?_digit small] at noDigit
  cases noDigit

/-- Without its padding the text of bytes is the digits of their numbers. -/
theorem filter_encode (bytes : Bytes) :
    (Base64.encode bytes).filter (fun (c : CodePoint) => c ≠ '=') =
      (sextets bytes).map Base64.digit := by
  have keeps {value : Nat} (small : value < 64) (rest : Text) :
      (Base64.digit value :: rest).filter (fun (c : CodePoint) => c ≠ '=') =
        Base64.digit value :: rest.filter (fun (c : CodePoint) => c ≠ '=') :=
    List.filter_cons_of_pos (decide_eq_true (digit_ne small (by decide)))
  have small := sextets_lt bytes
  induction bytes using sextets.induct with
  | case1 => rfl
  | case2 x =>
      simp only [sextets, List.forall_mem_cons] at small
      rw [Base64.encode, keeps small.1, keeps small.2.1]
      rfl
  | case3 x y =>
      simp only [sextets, List.forall_mem_cons] at small
      rw [Base64.encode, keeps small.1, keeps small.2.1, keeps small.2.2.1]
      rfl
  | case4 x y z rest ih =>
      simp only [sextets, List.forall_mem_cons] at small
      rw [Base64.encode, keeps small.1, keeps small.2.1, keeps small.2.2.1, keeps small.2.2.2.1,
        ih small.2.2.2.2]
      rfl

theorem digits_append {values : List Nat} (small : ∀ value ∈ values, value < 64) {rest : Text}
    (ends : ∀ c ∈ rest.head?, Base64.value? c = none) :
    Base64.digits (values.map Base64.digit ++ rest) = (values, rest) := by
  induction values with
  | nil =>
      cases rest with
      | nil => rfl
      | cons c rest =>
          rw [List.map_nil, List.nil_append, Base64.digits, ends c rfl]
  | cons value values ih =>
      rw [List.forall_mem_cons] at small
      rw [List.map_cons, List.cons_append, Base64.digits_digit small.1, ih small.2]

/-! ### The units of a run -/

/-- Digits that have been read hold units and fewer than six bits more, which are zero. -/
structure Section.Holds (found : Section) (units : List Nat) : Prop where
  units : found.units = units
  bits : found.bits < 6
  rest : found.rest = 0

theorem readSection_of_short {bits rest digit : Nat} (short : bits + 6 < 16) (digits : List Nat) :
    readSection bits rest (digit :: digits) = readSection (bits + 6) (rest * 0x40 + digit) digits :=
  if_pos short

theorem readSection_of_full {bits rest digit unit left : Nat} (full : 10 ≤ bits)
    (value : rest * 0x40 + digit = unit * Nat.pow 2 (bits - 10) + left)
    (small : left < Nat.pow 2 (bits - 10)) (digits : List Nat) :
    readSection bits rest (digit :: digits) =
      { readSection (bits - 10) left digits with
        units := unit :: (readSection (bits - 10) left digits).units } := by
  have behind : bits + 6 - 16 = bits - 10 := by omega
  have whole : (unit * Nat.pow 2 (bits - 10) + left) / Nat.pow 2 (bits - 10) = unit := by
    rw [Nat.mul_comm, Nat.mul_add_div (by omega), Nat.div_eq_of_lt small, Nat.add_zero]
  have more : (unit * Nat.pow 2 (bits - 10) + left) % Nat.pow 2 (bits - 10) = left := by
    exact Nat.mul_add_mod_of_lt small
  rw [readSection, if_neg (by omega)]
  simp only [value, behind, whole, more]

/-- The digits of units hold the units: three of them fill eight digits. -/
theorem holds_readSection : ∀ {units : List Nat}, (∀ unit ∈ units, unit < 0x10000) →
    (readSection 0 0 (sextets (units.flatMap (ByteOrder.bigEndian.write 2)))).Holds units
  | [], _ => ⟨rfl, by decide, rfl⟩
  | [u], small => by
      simp only [List.forall_mem_cons] at small
      simp only [List.flatMap_cons, List.flatMap_nil, ByteOrder.write_two_bigEndian,
        List.cons_append, List.nil_append, sextets, ByteOrder.toNat_ofNat_mod]
      rw [readSection_of_short (by decide), readSection_of_short (by decide),
        @readSection_of_full _ _ _ u 0 (by decide)]
      · exact ⟨rfl, (by decide : 2 < 6), rfl⟩
      · change _ = u * 4 + 0
        omega
      · decide
  | [u, v], small => by
      simp only [List.forall_mem_cons] at small
      simp only [List.flatMap_cons, List.flatMap_nil, ByteOrder.write_two_bigEndian,
        List.cons_append, List.nil_append, sextets, ByteOrder.toNat_ofNat_mod]
      rw [readSection_of_short (by decide), readSection_of_short (by decide),
        @readSection_of_full _ _ _ u (v / 0x4000) (by decide),
        readSection_of_short (by decide), readSection_of_short (by decide),
        @readSection_of_full _ _ _ v 0 (by decide)]
      · exact ⟨rfl, (by decide : 4 < 6), rfl⟩
      · change _ = v * 16 + 0
        omega
      · decide
      · change _ = u * 4 + _
        omega
      · change _ < 4
        omega
  -- Three units are eight digits, so that no bits are left over in front of the others.
  | u :: v :: w :: rest, small => by
      simp only [List.forall_mem_cons] at small
      have behind := holds_readSection small.2.2.2
      simp only [List.flatMap_cons, ByteOrder.write_two_bigEndian, List.cons_append,
        List.nil_append, sextets, ByteOrder.toNat_ofNat_mod]
      rw [readSection_of_short (by decide), readSection_of_short (by decide),
        @readSection_of_full _ _ _ u (v / 0x4000) (by decide),
        readSection_of_short (by decide), readSection_of_short (by decide),
        @readSection_of_full _ _ _ v (w / 0x1000) (by decide),
        readSection_of_short (by decide), @readSection_of_full _ _ _ w 0 (by decide)]
      · refine ⟨?_, behind.bits, behind.rest⟩
        change u :: v :: w :: _ = _
        rw [behind.units]
      · change _ = w * 1 + 0
        omega
      · decide
      · change _ = v * 16 + _
        omega
      · change _ < 16
        omega
      · change _ = u * 4 + _
        omega
      · change _ < 4
        omega

/-- A text in which no two surrogates stand side by side that make a pair. -/
def Unpaired (text : Text) : Prop :=
  text.IsChain fun c next => ¬ (isHigh c.toNat && isLow next.toNat) = true

/-- No two code points of a text without surrogates make a pair. -/
theorem unpaired_of_plain {text : Text} (plain : ∀ c ∈ text, c.isSurrogate = false) :
    Unpaired text := by
  refine List.Pairwise.isChain (List.pairwise_of_forall_mem_list fun c member next _ => ?_)
  have range := CodePoint.toNat_range (plain c member)
  simp only [isHigh, isLow, Bool.and_eq_true, decide_eq_true_eq]
  omega

/-- What the units of an unpaired text begin with makes no pair with the code point in front. -/
private theorem isLow_of_head? {c : CodePoint} {text : Text} (unpaired : Unpaired (c :: text))
    (high : isHigh c.toNat = true) :
    ∀ unit ∈ (text.flatMap Utf16.units).head?, isLow unit = false := by
  cases text with
  | nil => simp
  | cons next text =>
      have apart := (List.isChain_cons_cons.mp unpaired).1
      rw [high, Bool.true_and] at apart
      intro unit first
      rcases Utf16.units_cases next with ⟨same, -⟩ | ⟨first', low, same, above, below, -⟩
      · rw [List.flatMap_cons, same] at first
        obtain rfl := Option.some.inj first
        exact Bool.eq_false_iff.mpr apart
      · rw [List.flatMap_cons, same] at first
        obtain rfl := Option.some.inj first
        simp only [isLow, Bool.and_eq_false_iff, decide_eq_false_iff_not]
        omega

private theorem charsOf_cons {unit : Nat} {units : List Nat}
    (alone : isHigh unit = true → ∀ next ∈ units.head?, isLow next = false) :
    charsOf (unit :: units) = CodePoint.ofNat unit :: charsOf units := by
  cases units with
  | nil => rfl
  | cons next units =>
      have noPair : (isHigh unit && isLow next) = false := by
        cases high : isHigh unit with
        | false => rfl
        | true => rw [alone high next rfl, Bool.and_false]
      rw [charsOf, noPair]
      rfl

theorem charsOf_flatMap_units {text : Text} (unpaired : Unpaired text) :
    charsOf (text.flatMap Utf16.units) = text := by
  induction text with
  | nil => rfl
  | cons c text ih =>
      have later := ih unpaired.tail
      rw [List.flatMap_cons]
      rcases Utf16.units_cases c with ⟨same, -⟩ |
        ⟨high, low, same, above, below, above', below', denotes⟩
      · rw [same, List.singleton_append, charsOf_cons (isLow_of_head? unpaired), later,
          CodePoint.ofNat_toNat]
      · have pair : (isHigh high && isLow low) = true := by
          simp only [isHigh, isLow, Bool.and_eq_true, decide_eq_true_eq]
          omega
        rw [same, List.cons_append, List.singleton_append, charsOf, if_pos pair, later, denotes,
          CodePoint.ofNat_toNat]

/-- The digits of a run of characters. -/
def runDigits (run : Text) : List Nat :=
  sextets (Utf16.bytesOf .bigEndian run)

theorem shifted_eq (run : Text) :
    shifted run = ('+' : CodePoint) :: (runDigits run).map Base64.digit := by
  rw [shifted, filter_encode, runDigits]

theorem runDigits_lt (run : Text) : ∀ value ∈ runDigits run, value < 64 :=
  sextets_lt _

theorem readSection_runDigits (run : Text) :
    (readSection 0 0 (runDigits run)).units = run.flatMap Utf16.units ∧
      leftOver? (readSection 0 0 (runDigits run)) = none := by
  have bytes : Utf16.bytesOf .bigEndian run =
      (run.flatMap Utf16.units).flatMap (ByteOrder.bigEndian.write 2) := by
    rw [Utf16.bytesOf, List.flatMap_assoc]
  have small : ∀ unit ∈ run.flatMap Utf16.units, unit < 0x10000 := by
    intro unit member
    obtain ⟨c, -, written⟩ := List.mem_flatMap.mp member
    rcases Utf16.units_cases c with ⟨same, small⟩ |
      ⟨high, low, same, above, below, above', below', -⟩
    · rw [same, List.mem_singleton] at written
      omega
    · simp only [same, List.mem_cons, List.not_mem_nil, or_false] at written
      omega
  have holds := holds_readSection small
  rw [← bytes] at holds
  rw [runDigits]
  constructor
  · exact holds.units
  · have few := holds.bits
    rw [leftOver?, if_neg (by omega), holds.rest]
    rfl

theorem runDigits_ne_nil (c : CodePoint) (run : Text) : runDigits (c :: run) ≠ [] := by
  intro empty
  have read := (readSection_runDigits (c :: run)).1
  rw [empty, List.flatMap_cons] at read
  rcases Utf16.units_cases c with ⟨same, -⟩ | ⟨high, low, same, -⟩
  · rw [same] at read
    cases read
  · rw [same] at read
    cases read

/-! ### Whole texts -/

theorem isDirect_bounds {c : CodePoint} (direct : isDirect c = true) :
    c.toNat < 0x80 ∧ c ≠ '+' := by
  simp only [isDirect, Bool.or_eq_true, Bool.and_eq_true, decide_eq_true_eq] at direct
  rcases direct with ((rfl | rfl) | rfl) | ⟨⟨⟨-, small⟩, noPlus⟩, -⟩
  · decide
  · decide
  · decide
  · exact ⟨by omega, noPlus⟩

theorem write_of_direct {c : CodePoint} (direct : isDirect c = true) (rest : Text) :
    write (c :: rest) = c :: write rest := by
  rw [write, if_neg (isDirect_bounds direct).2, if_pos direct]

theorem write_of_indirect {c : CodePoint} (noPlus : c ≠ '+') (indirect : ¬ isDirect c = true)
    (rest : Text) :
    write (c :: rest) =
      shifted (c :: rest.takeWhile fun c => !isDirect c) ++
        (ending (rest.dropWhile fun c => !isDirect c) ++
          write (rest.dropWhile fun c => !isDirect c)) := by
  rw [write, if_neg noPlus, if_neg indirect]
  exact List.append_assoc _ _ _

theorem head?_dropWhile_indirect (text : Text) :
    ∀ c ∈ (text.dropWhile fun c => !isDirect c).head?, isDirect c = true := by
  intro c first
  have stops := List.head?_dropWhile_not (fun c => !isDirect c) text
  rw [Option.mem_def.mp first] at stops
  simpa using stops

theorem eq_of_mem_ending {behind : Text} {c : CodePoint} (member : c ∈ ending behind) :
    c = '-' := by
  cases behind with
  | nil => exact List.mem_singleton.mp member
  | cons d rest =>
      rw [ending] at member
      split at member
      · exact List.mem_singleton.mp member
      · cases member

/-- What is written behind a run ends its digits. -/
theorem ending_cases {behind : Text} (starts : ∀ c ∈ behind.head?, isDirect c = true) :
    ending behind ++ write behind = ('-' : CodePoint) :: write behind ∨
      ∃ c rest, ending behind ++ write behind = c :: write rest ∧ behind = c :: rest ∧
        c ≠ '-' ∧ Base64.value? c = none := by
  cases behind with
  | nil => exact .inl rfl
  | cons c rest =>
      rw [ending]
      split
      · exact .inl rfl
      · next shows =>
          right
          simp only [isDigit64, Bool.or_eq_true, decide_eq_true_eq, not_or, Bool.not_eq_true,
            Option.isSome_eq_false_iff, Option.isNone_iff_eq_none] at shows
          exact ⟨c, rest, write_of_direct (starts c rfl) rest, rfl, shows.2, shows.1⟩

theorem readFrom_direct {fuel position : Nat} {c : CodePoint} {written text : Text}
    (direct : isDirect c = true)
    (later : readFrom fuel (position + 1) written = .ok text) :
    readFrom (fuel + 1) position (c :: written) = .ok (c :: text) := by
  obtain ⟨small, noPlus⟩ := isDirect_bounds direct
  rw [readFrom, if_pos noPlus, if_pos small, later]
  rfl

/-- A run is read up to what ends its digits; a hyphen there is taken with it. -/
theorem readFrom_shifted {fuel position : Nat} {c next : CodePoint} {run after text : Text}
    (unpaired : Unpaired (c :: run)) (ends : Base64.value? next = none)
    (later : ∀ position, readFrom fuel position (if next = '-' then after else next :: after) =
      .ok text) :
    readFrom (fuel + 1) position (shifted (c :: run) ++ next :: after) =
      .ok (c :: run ++ text) := by
  have digits : Base64.digits ((runDigits (c :: run)).map Base64.digit ++ next :: after) =
      (runDigits (c :: run), next :: after) :=
    digits_append (runDigits_lt _) fun d here => by
      obtain rfl := Option.some.inj here
      exact ends
  have noHyphen :
      ((runDigits (c :: run)).map Base64.digit ++ next :: after).head? ≠ some (.char '-') := by
    cases same : runDigits (c :: run) with
    | nil => exact absurd same (runDigits_ne_nil c run)
    | cons value values =>
        have small := runDigits_lt (c :: run)
        rw [same, List.forall_mem_cons] at small
        intro first
        exact digit_ne small.1 (by decide) (Option.some.inj first)
  have some : (runDigits (c :: run)).isEmpty = false :=
    List.isEmpty_eq_false_iff.mpr (runDigits_ne_nil c run)
  obtain ⟨units, whole⟩ := readSection_runDigits (c :: run)
  rw [shifted_eq, List.cons_append, readFrom, if_neg (by simp), if_neg noHyphen]
  simp only [digits, some, Bool.false_eq_true, if_false, units, whole,
    charsOf_flatMap_units unpaired]
  split
  · next hyphen =>
      rw [if_pos hyphen] at later
      rw [later]
      rfl
  · next noHyphen =>
      rw [if_neg noHyphen] at later
      rw [later]
      rfl

theorem readFrom_write {text : Text} (unpaired : Unpaired text) :
    ∀ {fuel position : Nat}, (write text).length ≤ fuel →
      readFrom fuel position (write text) = .ok text := by
  -- A run is written and read as one, so the induction is on the runs and not on the characters.
  induction text using write.induct with
  | case1 =>
      intro fuel position _
      rw [write]
      cases fuel <;> rfl
  | case2 rest ih =>
      intro fuel position enough
      rw [write, if_pos rfl] at enough ⊢
      obtain ⟨fuel, rfl⟩ : ∃ count, fuel = count + 1 := ⟨fuel - 1, by
        simp only [List.length_cons] at enough
        omega⟩
      have later : readFrom fuel (position + 2) (write rest) = .ok rest := ih unpaired.tail (by
        simp only [List.length_cons] at enough
        omega)
      simp [readFrom, later, Except.map]
  | case3 c rest noPlus direct ih =>
      intro fuel position enough
      rw [write_of_direct direct] at enough ⊢
      obtain ⟨fuel, rfl⟩ : ∃ count, fuel = count + 1 := ⟨fuel - 1, by
        simp only [List.length_cons] at enough
        omega⟩
      exact readFrom_direct direct (ih unpaired.tail (by
        simp only [List.length_cons] at enough
        omega))
  | case4 c rest noPlus indirect behind =>
      rename_i ih
      simp only [behind] at ih
      intro fuel position enough
      rw [write_of_indirect noPlus indirect] at enough ⊢
      have whole : c :: rest.takeWhile (fun c => !isDirect c) ++
          rest.dropWhile (fun c => !isDirect c) = c :: rest := by
        rw [List.cons_append, List.takeWhile_append_dropWhile]
      have runUnpaired : Unpaired (c :: rest.takeWhile fun c => !isDirect c) :=
        unpaired.prefix ⟨_, whole⟩
      have ih (fuel position : Nat) := @ih (unpaired.suffix ⟨_, whole⟩) fuel position
      have starts := head?_dropWhile_indirect rest
      have some : 1 ≤ (shifted (c :: rest.takeWhile fun c => !isDirect c)).length := by
        simp [shifted]
      rw [List.length_append] at enough
      obtain ⟨fuel, rfl⟩ : ∃ count, fuel = count + 1 := ⟨fuel - 1, by omega⟩
      rcases ending_cases starts with hyphen | ⟨d, others, same, first, noHyphen, ends⟩
      · rw [hyphen, List.length_cons] at enough
        rw [hyphen, readFrom_shifted runUnpaired (by decide) fun position => by
          rw [if_pos rfl]
          exact ih _ _ (by omega), whole]
      · have written : write (rest.dropWhile fun c => !isDirect c) = d :: write others := by
          rw [first]
          exact write_of_direct (starts d (by rw [first]; rfl)) others
        rw [same] at enough
        rw [same, readFrom_shifted runUnpaired ends fun position => by
          rw [if_neg noHyphen, ← written]
          exact ih _ _ (by rw [written]; omega), whole]

theorem toNat_digit_lt {value : Nat} (small : value < 64) : (Base64.digit value).toNat < 0x80 := by
  have all : ∀ value : Fin 64, (Base64.digit value).toNat < 0x80 := by decide
  exact all ⟨value, small⟩

theorem toNat_lt_of_mem_write {text : Text} : ∀ d ∈ write text, d.toNat < 0x80 := by
  induction text using write.induct with
  | case1 => simp [write]
  | case2 rest ih =>
      rw [write, if_pos rfl, List.forall_mem_cons, List.forall_mem_cons]
      exact ⟨by decide, by decide, ih⟩
  | case3 c rest noPlus direct ih =>
      rw [write_of_direct direct, List.forall_mem_cons]
      exact ⟨(isDirect_bounds direct).1, ih⟩
  | case4 c rest noPlus indirect behind =>
      rename_i ih
      simp only [behind] at ih
      rw [write_of_indirect noPlus indirect, shifted_eq]
      intro d member
      simp only [List.cons_append, List.mem_cons, List.mem_append, List.mem_map] at member
      rcases member with rfl | ⟨value, digit, rfl⟩ | ending | later
      · decide
      · exact toNat_digit_lt (runDigits_lt _ value digit)
      · rw [eq_of_mem_ending ending]
        decide
      · exact ih d later

theorem decode_encode {text : Text} (unpaired : Unpaired text) :
    decode (encode text) = .ok text := by
  have bytes : ((encode text).map fun byte => CodePoint.ofNat byte.toNat) = write text :=
    map_ofNat_toNat fun d member => Nat.lt_trans (toNat_lt_of_mem_write d member) (by decide)
  have length : (encode text).length = (write text).length := List.length_map _
  rw [decode, bytes]
  exact readFrom_write unpaired (by omega)

end LicenseSeal.Encoding.Utf7
