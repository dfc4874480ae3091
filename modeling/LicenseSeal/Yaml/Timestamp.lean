import LicenseSeal.Yaml.Error

/-!
# Dates and times

A date, or a date with a time, which may have a distance from universal time.
-/

namespace LicenseSeal.Yaml

/-- The parts of a time: the distance from universal time is in seconds. -/
structure TimeOfDay where
  hour : Nat
  minute : Nat
  second : Nat
  zone : Option Int
  deriving Repr

/-- The parts of a date and of the time on it. -/
structure Timestamp where
  year : Nat
  month : Nat
  day : Nat
  time : Option TimeOfDay
  deriving Repr

/-- A number of one or two digits at the front, of two if it must be, and what follows. -/
private def shortNumber? (fixed : Bool) (content : Text) : Option (Nat × Text) :=
  let digits := (content.takeWhile Text.isDigit).take 2
  if digits.isEmpty || (fixed && digits.length ≠ 2) then none
  else some (Text.natOfDigits digits, content.drop digits.length)

private def isGap (c : CodePoint) : Bool :=
  c = ' ' || c = '\t'

/-- The distance behind a sign: hours, and minutes if they are given. -/
private def distance? (content : Text) : Option Nat := do
  let (hours, rest) ← shortNumber? false content
  match rest with
  | [] => some (hours * 3600)
  | ':' :: rest =>
      let (minutes, rest) ← shortNumber? true rest
      if rest.isEmpty then some (hours * 3600 + minutes * 60) else none
  | _ => none

/-- The zone behind a time: nothing, the mark of universal time, or a distance from it. -/
private def zone? (content : Text) : Option (Option Int) :=
  match content.dropWhile isGap with
  | [] => if content.isEmpty then some none else none
  | ['Z'] => some none
  | '-' :: rest => (distance? rest).map fun seconds => some (-(seconds : Int))
  | '+' :: rest => (distance? rest).map fun seconds => some (seconds : Int)
  | _ => none

/-- The time behind a date. -/
private def time? (content : Text) : Option TimeOfDay := do
  let (hour, rest) ← shortNumber? false content
  let rest ← Text.dropLead? ":".text rest
  let (minute, rest) ← shortNumber? true rest
  let rest ← Text.dropLead? ":".text rest
  let (second, rest) ← shortNumber? true rest
  let behind :=
    match rest with
    | '.' :: rest => rest.dropWhile Text.isDigit
    | rest => rest
  let zone ← zone? behind
  some ⟨hour, minute, second, zone⟩

namespace Timestamp

/-- The parts that a text gives. -/
def ofText? (content : Text) : Option Timestamp := do
  let digits := content.take 4
  if digits.length < 4 || !digits.all Text.isDigit then none
  let year := Text.natOfDigits digits
  let rest ← Text.dropLead? "-".text (content.drop 4)
  let (month, rest) ← shortNumber? false rest
  let rest ← Text.dropLead? "-".text rest
  let (day, rest) ← shortNumber? false rest
  match rest with
  | [] => some ⟨year, month, day, none⟩
  | mark :: rest =>
      let behind := if isGap mark then rest.dropWhile isGap else rest
      if isGap mark || mark = 'T' || mark = 't' then
        (time? behind).map fun time => ⟨year, month, day, some time⟩
      else none

/-- Whether a text shows by its form that it is a date; without a time, the month and the day have
two digits. -/
def isShown (content : Text) : Bool :=
  match ofText? content with
  | some found => found.time.isSome || content.length = 10
  | none => false

private def isLeap (year : Nat) : Bool :=
  year % 4 = 0 && (year % 100 ≠ 0 || year % 400 = 0)

private def daysIn (year month : Nat) : Nat :=
  if month = 2 then (if isLeap year then 29 else 28)
  else if [4, 6, 9, 11].contains month then 30
  else 31

/-- The distance from universal time, if it is a day or more. -/
private def zoneFault? (time : TimeOfDay) : Option TimestampFault :=
  match time.zone with
  | some seconds => if seconds.natAbs < 86400 then none else some (.zone seconds)
  | none => none

/-- The first part of a date that is out of its range. -/
private def dateFault? (found : Timestamp) : Option TimestampFault :=
  if found.year = 0 then some .year
  else if found.month = 0 || 12 < found.month then some .month
  else if found.day = 0 || daysIn found.year found.month < found.day then some .day
  else none

/-- The first part of a time that is out of its range. -/
private def timeFault? (time : TimeOfDay) : Option TimestampFault :=
  if 23 < time.hour then some .hour
  else if 59 < time.minute then some .minute
  else if 59 < time.second then some .second
  else none

/-- The first part that is out of its range: the zone is looked at first. -/
def fault? (found : Timestamp) : Option TimestampFault :=
  (found.time.bind zoneFault?).or (found.dateFault?.or (found.time.bind timeFault?))

end Timestamp

end LicenseSeal.Yaml
