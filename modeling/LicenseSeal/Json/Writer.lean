import LicenseSeal.Value.Coercion

/-!
# JSON writing

Compact JSON: no blanks, members in key order or in the order given, and only those characters
escaped that must be.  `Json.string`, `Json.array` and `Json.object` put written parts together;
`Json.write` writes a whole value with sorted members, and fails on values and keys that JSON has
no form for.
-/

namespace LicenseSeal.Json

/-- One character inside a JSON string. -/
def escape (c : CodePoint) : Text :=
  if c = '"' then ['\\', '"']
  else if c = '\\' then ['\\', '\\']
  else if c = '\n' then ['\\', 'n']
  else if c = '\r' then ['\\', 'r']
  else if c = '\t' then ['\\', 't']
  else if c.toNat = 0x08 then ['\\', 'b']
  else if c.toNat = 0x0C then ['\\', 'f']
  else if c.toNat < 0x20 then '\\' :: 'u' :: Text.hexDigits 4 c.toNat
  else [c]

def string (text : Text) : Text :=
  '"' :: (text.flatMap escape ++ [('"' : CodePoint)])

/-- A list of written items. -/
def array (items : List Text) : Text :=
  '[' :: (Text.join [','] items ++ [(']' : CodePoint)])

/-- An object of member names and written values. -/
def object (members : List (Text × Text)) : Text :=
  '\x7b' :: (Text.join [',']
    (members.map fun member => string member.1 ++ (':' : CodePoint) :: member.2)
    ++ [('\x7d' : CodePoint)])

/-- A floating-point number; the values that are not finite have names. -/
def float : Binary64 → Text
  | .nan => "NaN".text
  | .infinite negative => (if negative then "-".text else []) ++ "Infinity".text
  | number => number.text

/-- Why a value has no JSON form. -/
inductive WriteError where
  /-- A part of the value has no text. -/
  | uncoercible (error : Uncoercible)
  /-- The value's kind has no JSON form. -/
  | unwritable (kind : String)
  /-- The key's kind cannot name a member. -/
  | unusableKey (kind : String)
  /-- Two keys of one mapping have no order between them. -/
  | unordered (left right : String)
  deriving DecidableEq, Repr

/-- The name of a scalar's kind in messages. -/
def kindOf : Scalar → String
  | .null => "NoneType"
  | .bool _ => "bool"
  | .int _ => "int"
  | .float _ => "float"
  | .decimal _ => "Decimal"
  | .text _ => "str"
  | .bytes _ => "bytes"
  | .instant _ => "date"
  | .object className _ _ => className

/-- The name of a key's kind in messages, which says where a kind that is not basic comes from. -/
def keyKind : Scalar → String
  | .decimal _ => "decimal.Decimal"
  | .instant _ => "datetime.date"
  | key => kindOf key

/-- The name of a value's kind in messages. -/
def valueKind : Value → String
  | .scalar content => kindOf content
  | .list _ => "list"
  | .map _ => "dict"

/-- The name that a writing failure is reported under. -/
def WriteError.name : WriteError → Text
  | .uncoercible error => error.name
  | .unwritable _ | .unusableKey _ | .unordered _ _ => "TypeError".text

/-- The message of a writing failure. -/
def WriteError.message : WriteError → Text
  | .uncoercible error => error.message
  | .unwritable kind => s!"Object of type {kind} is not JSON serializable".text
  | .unusableKey kind =>
      s!"keys must be str, int, float, bool or None, not {kind}".text
  | .unordered left right =>
      s!"'<' not supported between instances of '{left}' and '{right}'".text

/-- The member name that a key writes. -/
def memberName : Scalar → Except WriteError Text
  | .text content => .ok content
  | .null => .ok "null".text
  | .bool true => .ok "true".text
  | .bool false => .ok "false".text
  | .int number => (Integer.written number).mapError .uncoercible
  | .float number => .ok (float number)
  | key => .error (.unusableKey (keyKind key))

/-- What is done with a scalar that JSON has no form for: it is refused, or its text is written. -/
inductive Foreign where
  | refuse
  | writeText

def scalar (foreign : Foreign) : Scalar → Except WriteError Text
  | .null => .ok "null".text
  | .bool true => .ok "true".text
  | .bool false => .ok "false".text
  | .int number => (Integer.written number).mapError .uncoercible
  | .float number => .ok (float number)
  | .text content => .ok (string content)
  | other =>
      match foreign with
      | .refuse => .error (.unwritable (kindOf other))
      | .writeText => (other.ownText.map string).mapError .uncoercible

/-- Whether one key comes before another: texts by their characters, bytes by their bytes, numbers
by size.  Keys of other pairs of kinds have no order. -/
def keyBefore (left right : Scalar) : Except WriteError Bool :=
  match left, right with
  | .text content, .text content' => .ok (decide (content < content'))
  | .bytes content, .bytes content' => .ok (decide (content < content'))
  | _, _ =>
      match left.magnitude?, right.magnitude? with
      | some size, some size' => .ok (size.less size')
      | _, _ =>
          if numeric left && numeric right then .ok false
          else .error (.unordered (keyKind left) (keyKind right))
where
  numeric : Scalar → Bool
    | .bool _ | .int _ | .float _ | .decimal _ => true
    | _ => false

section Sorting

variable {α : Type}

/-- The number of leading entries that already stand in order, or in strictly descending order. -/
def runLength (descending : Bool) : Scalar × α → List (Scalar × α) →
    Except WriteError Nat
  | _, [] => .ok 1
  | previous, next :: rest => do
      let before ← keyBefore next.1 previous.1
      if before = descending then
        let length ← runLength descending next rest
        pure (length + 1)
      else pure 1

/-- The place of a key in an ordered array, found by halving the range in which it can lie. -/
def insertionPoint (sorted : Array (Scalar × α)) (key : Scalar) :
    (fuel low high : Nat) → Except WriteError Nat
  | 0, low, _ => .ok low
  | fuel + 1, low, high =>
      if low < high then
        let middle := low + (high - low) / 2
        match sorted[middle]? with
        | none => .ok low
        | some entry => do
            let before ← keyBefore key entry.1
            if before then insertionPoint sorted key fuel low middle
            else insertionPoint sorted key fuel (middle + 1) high
      else .ok low

/-- Puts each remaining entry at its place. -/
def insertAll (sorted : Array (Scalar × α)) :
    List (Scalar × α) → Except WriteError (Array (Scalar × α))
  | [] => .ok sorted
  | entry :: rest => do
      let place ← insertionPoint sorted entry.1 (sorted.size + 1) 0 sorted.size
      insertAll ((sorted.toList.take place ++ entry :: sorted.toList.drop place).toArray) rest

/-- The entries in key order: the ordered run at the front is kept, a descending one turned round,
and the others are inserted one after the other.  The first comparison that has no answer decides
the failure. -/
def sortEntries : List (Scalar × α) → Except WriteError (List (Scalar × α))
  | [] => .ok []
  | [only] => .ok [only]
  | first :: second :: rest => do
      let descending ← keyBefore second.1 first.1
      let length ← runLength descending second rest
      let entries := first :: second :: rest
      let run := entries.take (length + 1)
      let ordered := if descending then run.reverse else run
      let sorted ← insertAll ordered.toArray (entries.drop (length + 1))
      pure sorted.toList

end Sorting

/-- The members of an object in key order, the first failure among them if there is one. -/
def members (entries : List (Scalar × Except WriteError Text)) :
    Except WriteError Text := do
  let sorted ← sortEntries entries
  let written ← sorted.mapM fun entry => do
    let name ← memberName entry.1
    let value ← entry.2
    pure (name, value)
  pure (object written)

mutual

/-- A value as compact JSON with the members of every object in key order. -/
def write (foreign : Foreign) : Value → Except WriteError Text
  | .scalar content => scalar foreign content
  | .list items => do
      let written ← writeItems foreign items
      pure (array written)
  | .map entries => members (writeEntries foreign entries)

/-- The items of a list, up to the first failure. -/
def writeItems (foreign : Foreign) : List Value → Except WriteError (List Text)
  | [] => .ok []
  | item :: items => do
      let written ← write foreign item
      let others ← writeItems foreign items
      pure (written :: others)

/-- The entries of a mapping with each value written or failed. -/
def writeEntries (foreign : Foreign) : List (Scalar × Value) →
    List (Scalar × Except WriteError Text)
  | [] => []
  | (key, value) :: entries => (key, write foreign value) :: writeEntries foreign entries

end

end LicenseSeal.Json
