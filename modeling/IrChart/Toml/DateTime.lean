import IrChart.Text.Basic

/-!
# Dates and times of TOML

A date `2024-02-29`, a time `07:32`, `07:32:00` or `07:32:00.5`, or a date and a time with `T` or a
space between them. A time with a date may have an offset, `Z`, `+01:00` or `-01:00`. A text is
read from left to right; of each part the marks are looked at first, then the numbers of digits,
then the numbers.
-/

namespace IrChart.Toml.DateTime

/-- The parts of a date with a time. -/
inductive Part where
  | date
  | time
  | offset
  deriving DecidableEq, Repr

/-- The name of a part. -/
def Part.name : Part → String
  | .date => "date"
  | .time => "time"
  | .offset => "offset"

/-- The numbers in a part. -/
inductive Field where
  | year
  | month
  | day
  | hour
  | minute
  | second
  | nanosecond
  deriving DecidableEq, Repr

namespace Field

/-- The name of a number. -/
def name : Field → String
  | year => "year"
  | month => "month"
  | day => "day"
  | hour => "hour"
  | minute => "minute"
  | second => "second"
  | nanosecond => "nanosecond"

/-- The width of a number in words and in letters. -/
def form : Field → String
  | year => "a four-digit year (YYYY)"
  | month => "a two-digit month (MM)"
  | day => "a two-digit day (DD)"
  | hour => "a two-digit hour (HH)"
  | minute => "a two-digit minute (MM)"
  | second => "a two-digit second (SS)"
  | nanosecond => "nanosecond"

/-- How many digits a number has. -/
def width : Field → Nat
  | year => 4
  | _ => 2

end Field

/-- Why a text is no date and no time. -/
inductive Fault where
  /-- It does not begin with a digit. -/
  | noStart
  /-- Neither a dash nor a colon follows the first number. -/
  | noMark
  /-- A number is missing. -/
  | missing (part : Part) (field : Field)
  /-- The dash between month and day is missing. -/
  | noDash
  /-- The colon between hour and minute is missing. -/
  | noColon (part : Part)
  /-- A number has too few or too many digits. -/
  | width (part : Part) (field : Field)
  /-- A number is too small or too great. -/
  | range (part : Part) (field : Field) (low high : Nat)
  /-- Something else than a time follows a date. -/
  | noTime
  /-- Something else than an offset follows a time. -/
  | noOffset
  /-- Something follows the end. -/
  | surplus
  deriving DecidableEq, Repr

namespace Fault

/-- A bound in two digits. -/
def bound (n : Nat) : String := (if n < 10 then "0" else "") ++ toString n

/-- The message for a part, with what was expected. -/
def inPart (part expected : String) : String := "invalid " ++ part ++ ", expected " ++ expected

/-- The fault in words. The numbers of an offset are named in the plural when they are too great. -/
def message : Fault → String
  | noStart => inPart "datetime" "year or hour"
  | noMark => inPart "datetime" "`-` (YYYY-MM) or `:` (HH:MM)"
  | missing part field => inPart part.name field.name
  | noDash => inPart Part.date.name "`-` (MM-DD)"
  | noColon part => inPart part.name "`:` (HH:MM)"
  | width part field => inPart part.name field.form
  | range part field low high =>
    inPart part.name (field.name ++ (if part = .offset then "s" else "") ++ " between " ++
      bound low ++ " and " ++ bound high)
  | noTime => inPart "date-time" "`T` between date and time"
  | noOffset => inPart Part.offset.name "`Z`, +OFFSET, -OFFSET"
  | surplus => "invalid datetime"

end Fault

/-- The digits of a number and what follows them. -/
def digits (part : Part) (field : Field) (cs : List Char) : Except Fault (List Char × List Char) :=
  if (cs.takeWhile Char.isDigit).isEmpty then .error (.missing part field)
  else .ok (cs.takeWhile Char.isDigit, cs.dropWhile Char.isDigit)

/-- What follows a mark. -/
def after (mark : Char) (fault : Fault) : List Char → Except Fault (List Char)
  | c :: rest => if c = mark then .ok rest else .error fault
  | [] => .error fault

/-- The number has as many digits as it should. -/
def checkWidth (part : Part) (field : Field) (digits : List Char) : Except Fault Unit :=
  if digits.length = field.width then .ok () else .error (.width part field)

/-- The number lies between two bounds. -/
def checkRange (part : Part) (field : Field) (low high : Nat) (digits : List Char) :
    Except Fault Unit :=
  if low ≤ Text.ofDigits 10 digits ∧ Text.ofDigits 10 digits ≤ high then .ok ()
  else .error (.range part field low high)

/-- The number of days of a month. -/
def daysIn (year month : Nat) : Nat :=
  if month = 2 then
    if year % 4 = 0 ∧ (year % 100 ≠ 0 ∨ year % 400 = 0) then 29 else 28
  else if month = 4 ∨ month = 6 ∨ month = 9 ∨ month = 11 then 30
  else 31

/-- What follows a date whose year and first dash were read. -/
def date (year cs : List Char) : Except Fault (List Char) := do
  let (month, cs) ← digits .date .month cs
  let cs ← after '-' .noDash cs
  let (day, cs) ← digits .date .day cs
  checkWidth .date .year year
  checkWidth .date .month month
  checkWidth .date .day day
  checkRange .date .month 1 12 month
  checkRange .date .day 1 (daysIn (Text.ofDigits 10 year) (Text.ofDigits 10 month)) day
  return cs

/-- The seconds of a time, if it has them, and what follows them. -/
def seconds : List Char → Except Fault (Option (List Char) × List Char)
  | ':' :: cs => do
    let (second, cs) ← digits .time .second cs
    match cs with
    | '.' :: cs =>
      let (_, cs) ← digits .time .nanosecond cs
      return (some second, cs)
    | cs => return (some second, cs)
  | cs => .ok (none, cs)

/-- What follows a time. A minute may have a leap second. -/
def time (cs : List Char) : Except Fault (List Char) := do
  let (hour, cs) ← digits .time .hour cs
  let cs ← after ':' (.noColon .time) cs
  let (minute, cs) ← digits .time .minute cs
  let (second, cs) ← seconds cs
  checkWidth .time .hour hour
  checkWidth .time .minute minute
  second.forM (checkWidth .time .second)
  checkRange .time .hour 0 23 hour
  checkRange .time .minute 0 59 minute
  second.forM (checkRange .time .second 0 60)
  return cs

/-- What follows the hours and minutes of an offset. -/
def shift (cs : List Char) : Except Fault (List Char) := do
  let (hour, cs) ← digits .offset .hour cs
  let cs ← after ':' (.noColon .offset) cs
  let (minute, cs) ← digits .offset .minute cs
  checkWidth .offset .hour hour
  checkWidth .offset .minute minute
  checkRange .offset .hour 0 23 hour
  checkRange .offset .minute 0 59 minute
  return cs

/-- What follows an offset, which may be left out. -/
def offset : List Char → Except Fault (List Char)
  | [] => .ok []
  | c :: rest =>
    if c = 'Z' ∨ c = 'z' then .ok rest
    else if c = '+' ∨ c = '-' then shift rest
    else .error .noOffset

/-- Nothing is left. -/
def finish (cs : List Char) : Except Fault Unit := if cs.isEmpty then .ok () else .error .surplus

/-- Checks that a text is a date, a time, or both. -/
def check (cs : List Char) : Except Fault Unit := do
  let first := cs.takeWhile Char.isDigit
  if first.isEmpty then throw .noStart
  match cs.dropWhile Char.isDigit with
  | '-' :: rest =>
    match ← date first rest with
    | [] => return
    | c :: rest =>
      if c = 'T' ∨ c = 't' ∨ c = ' ' then finish (← offset (← time rest)) else throw .noTime
  | ':' :: _ => finish (← time cs)
  | _ => throw .noMark

end IrChart.Toml.DateTime
