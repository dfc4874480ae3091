import LicenseSeal.Encoding.Surrogates

/-!
# UTF-8

`Utf8.encode` writes one to four bytes for each character and refuses surrogates.  `Utf8.decode`
reads the bytes back and refuses everything else: a byte that starts no sequence, a sequence that
the input cuts short, and a sequence with a byte that cannot continue it, which covers overlong
forms and surrogates.
-/

namespace LicenseSeal.Encoding.Utf8

/-- The bytes of one code point, also of a surrogate. -/
def encodeChar (c : CodePoint) : Bytes :=
  let code := c.toNat
  if code < 0x80 then [UInt8.ofNat code]
  else if code < 0x800 then
    [UInt8.ofNat (0xC0 + code / 0x40), UInt8.ofNat (0x80 + code % 0x40)]
  else if code < 0x10000 then
    [UInt8.ofNat (0xE0 + code / 0x1000), UInt8.ofNat (0x80 + code / 0x40 % 0x40),
      UInt8.ofNat (0x80 + code % 0x40)]
  else
    [UInt8.ofNat (0xF0 + code / 0x40000), UInt8.ofNat (0x80 + code / 0x1000 % 0x40),
      UInt8.ofNat (0x80 + code / 0x40 % 0x40), UInt8.ofNat (0x80 + code % 0x40)]

def bytesOf (text : Text) : Bytes :=
  text.flatMap encodeChar

def encode : Text → Except EncodeError Bytes :=
  checked "utf-8" true bytesOf

/-! ### Texts that the system hands over

A byte that is no text stands in them as a surrogate of its own. -/

/-- Whether a code point is a surrogate that stands for a byte. -/
def isEscapedByte (c : CodePoint) : Bool :=
  0xDC80 ≤ c.toNat && c.toNat < 0xDD00

/-- The bytes that a text is handed back to the system as. -/
def systemBytes (text : Text) : Bytes :=
  text.flatMap fun c =>
    if isEscapedByte c then [UInt8.ofNat (c.toNat - 0xDC00)] else encodeChar c

/-- Why the system does not take a text whose first code point stands at a position: the first
surrogate that stands for no byte, with those that follow it. -/
def systemError? (position : Nat) : Text → Option EncodeError
  | [] => none
  | c :: rest =>
      if c.isSurrogate && !isEscapedByte c then
        let others := (rest.takeWhile CodePoint.isSurrogate).length
        some ⟨"utf-8", position, position + 1 + others, c, "surrogates not allowed"⟩
      else systemError? (position + 1) rest

theorem systemError?_eq_none_iff {position : Nat} {text : Text} :
    systemError? position text = none ↔
      ∀ c ∈ text, c.isSurrogate = true → isEscapedByte c = true := by
  induction text generalizing position with
  | nil => simp [systemError?]
  | cons c rest ih =>
      rw [systemError?, List.forall_mem_cons]
      split
      · next refused =>
          simp only [Bool.and_eq_true, Bool.not_eq_true'] at refused
          simp [refused.1, refused.2]
      · next taken =>
          simp only [Bool.and_eq_true, Bool.not_eq_true', not_and, Bool.not_eq_false] at taken
          rw [ih]
          exact ⟨fun others => ⟨taken, others⟩, And.right⟩

/-! ### Decoding -/

/-- What is wrong with a sequence of bytes; a broken one has some good bytes in front. -/
inductive Fault where
  | badStart
  | cutShort
  | broken (good : Nat)
  deriving DecidableEq, Repr

/-- The payload of a byte that continues a sequence. -/
def continuation? (byte : UInt8) : Option Nat :=
  if 0x80 ≤ byte.toNat ∧ byte.toNat < 0xC0 then some (byte.toNat - 0x80) else none

/-- The payload of a sequence's second byte, which must not lie outside the range that the first
byte leaves for it. -/
def second? (low high : Nat) (byte : UInt8) : Option Nat :=
  if low ≤ byte.toNat ∧ byte.toNat ≤ high then continuation? byte else none

/-- The range of second bytes after a first byte: narrower where an overlong form, a surrogate or a
code beyond the last character would begin. -/
def secondRange (first : Nat) : Nat × Nat :=
  if first = 0xE0 then (0xA0, 0xBF)
  else if first = 0xED then (0x80, 0x9F)
  else if first = 0xF0 then (0x90, 0xBF)
  else if first = 0xF4 then (0x80, 0x8F)
  else (0x80, 0xBF)

/-- The code that a first byte and `rest` denote, and the number of bytes taken from `rest`. -/
def sequence (first : Nat) (rest : Bytes) : Except Fault (Nat × Nat) :=
  let (low, high) := secondRange first
  if first < 0x80 then .ok (first, 0)
  else if first < 0xC2 then .error .badStart
  else if first < 0xE0 then
    match rest with
    | [] => .error .cutShort
    | b :: _ =>
        match second? low high b with
        | none => .error (.broken 1)
        | some payload => .ok ((first - 0xC0) * 0x40 + payload, 1)
  else if first < 0xF0 then
    match rest with
    | [] => .error .cutShort
    | b :: rest =>
        match second? low high b, rest with
        | none, _ => .error (.broken 1)
        | some _, [] => .error .cutShort
        | some payload, c :: _ =>
            match continuation? c with
            | none => .error (.broken 2)
            | some payload' => .ok (((first - 0xE0) * 0x40 + payload) * 0x40 + payload', 2)
  else if first < 0xF5 then
    match rest with
    | [] => .error .cutShort
    | b :: rest =>
        match second? low high b, rest with
        | none, _ => .error (.broken 1)
        | some _, [] => .error .cutShort
        | some payload, c :: rest =>
            match continuation? c, rest with
            | none, _ => .error (.broken 2)
            | some _, [] => .error .cutShort
            | some payload', d :: _ =>
                match continuation? d with
                | none => .error (.broken 3)
                | some last =>
                    .ok ((((first - 0xF0) * 0x40 + payload) * 0x40 + payload') * 0x40 + last, 3)
  else .error .badStart

/-- The failure that a fault at a position causes; `size` bytes are left there. -/
def failure (position size : Nat) (first : UInt8) : Fault → DecodeError
  | .badStart => ⟨"utf-8", position, position + 1, first, "invalid start byte"⟩
  | .cutShort => ⟨"utf-8", position, position + size, first, "unexpected end of data"⟩
  | .broken good => ⟨"utf-8", position, position + good, first, "invalid continuation byte"⟩

/-- Decodes bytes that stand at a position. -/
def decodeFrom (position : Nat) : Bytes → Except DecodeError Text
  | [] => .ok []
  | first :: rest =>
      match sequence first.toNat rest with
      | .error fault => .error (failure position (rest.length + 1) first fault)
      | .ok (code, count) =>
          match decodeFrom (position + 1 + count) (rest.drop count) with
          | .error later => .error later
          | .ok text => .ok (CodePoint.ofNat code :: text)
termination_by bytes => bytes.length
decreasing_by simp only [List.length_drop, List.length_cons]; omega

def decode (bytes : Bytes) : Except DecodeError Text :=
  decodeFrom 0 bytes

/-- The text of bytes, if they are UTF-8. -/
def decode? (bytes : Bytes) : Option Text :=
  (decode bytes).toOption

end LicenseSeal.Encoding.Utf8
