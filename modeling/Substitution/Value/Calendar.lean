import Substitution.Text.Basic

/-!
# Dates and times

Days of the calendar, and times of day on them to the microsecond, with or without an offset from
universal time. A `Substitution.Date` and a `Substitution.DateTime` are made by the checked
constructors `Date.make` and `DateTime.make`.
-/

namespace Substitution

/-- A day of the calendar. -/
structure Date where
  year : Nat
  month : Nat
  day : Nat
deriving Repr, DecidableEq

/-- A time on a day. -/
structure DateTime where
  date : Date
  hour : Nat
  minute : Nat
  second : Nat
  microsecond : Nat
  /-- How many minutes the clock is ahead of universal time, if that is known. -/
  offset : Option Int
deriving Repr, DecidableEq

/-- Why numbers are no date or time. -/
inductive CalendarError where
  | year (year : Nat)
  | month
  | day
  | hour
  | minute
  | second
  /-- The offset, in minutes, is a day or more. -/
  | offset (minutes : Int)
deriving Repr, DecidableEq

namespace Date

/-- Is the year a leap year? -/
def isLeap (year : Nat) : Bool :=
  year % 4 == 0 && (year % 100 != 0 || year % 400 == 0)

/-- The number of days of a month. -/
def monthLength (year month : Nat) : Nat :=
  if month = 2 then if isLeap year then 29 else 28
  else if month = 4 ∨ month = 6 ∨ month = 9 ∨ month = 11 then 30
  else 31

/-- The day with the given numbers. -/
def make (year month day : Nat) : Except CalendarError Date :=
  if year = 0 then .error (.year year)
  else if month = 0 ∨ 12 < month then .error .month
  else if day = 0 ∨ monthLength year month < day then .error .day
  else .ok ⟨year, month, day⟩

/-- The number of days before the first of a month in its year. -/
def daysBeforeMonth (year month : Nat) : Nat :=
  (List.range (month - 1)).foldr (fun i days => monthLength year (i + 1) + days) 0

/-- The number of the day, counted through all years. -/
def ordinal (d : Date) : Nat :=
  let y := d.year - 1
  y * 365 + y / 4 - y / 100 + y / 400 + daysBeforeMonth d.year d.month + d.day

/-- The numeral of the date. -/
def text (d : Date) : Text :=
  Text.padLeft 4 '0' (Text.decimal d.year) ++ '-' :: Text.padLeft 2 '0' (Text.decimal d.month) ++
    '-' :: Text.padLeft 2 '0' (Text.decimal d.day)

end Date

/-- The text of a length of time, given in minutes. -/
def durationText (minutes : Int) : Text :=
  let days := minutes.fdiv 1440
  let seconds := minutes.fmod 1440 * 60
  let parts :=
    (if days = 0 then [] else ["days=".toList ++ Text.decimalInt days]) ++
      (if seconds = 0 then [] else ["seconds=".toList ++ Text.decimalInt seconds])
  "datetime.timedelta(".toList ++
    (if parts.isEmpty then ['0'] else Text.joinWith ", ".toList parts) ++ [')']

/-- The message of numbers that are no date or time. -/
def CalendarError.message : CalendarError → Text
  | year y => "year ".toList ++ Text.decimal y ++ " is out of range".toList
  | month => "month must be in 1..12".toList
  | day => "day is out of range for month".toList
  | hour => "hour must be in 0..23".toList
  | minute => "minute must be in 0..59".toList
  | second => "second must be in 0..59".toList
  | offset minutes =>
    ("offset must be a timedelta strictly between -timedelta(hours=24) and " ++
      "timedelta(hours=24), not ").toList ++ durationText minutes ++ ['.']

namespace DateTime

/-- The time with the given numbers. An offset of a day or more is refused first. -/
def make (year month day hour minute second microsecond : Nat) (offset : Option Int) :
    Except CalendarError DateTime := do
  if let some minutes := offset then
    if 1440 ≤ minutes.natAbs then .error (.offset minutes)
  let date ← Date.make year month day
  if 23 < hour then .error .hour
  else if 59 < minute then .error .minute
  else if 59 < second then .error .second
  else .ok ⟨date, hour, minute, second, microsecond, offset⟩

/-- The microseconds from the start of the calendar, by the clock. -/
def clock (t : DateTime) : Nat :=
  (((t.date.ordinal * 24 + t.hour) * 60 + t.minute) * 60 + t.second) * 1000000 + t.microsecond

/-- Do two times agree? With offsets they agree if they are the same moment; without, if the clocks
show the same; a time with and one without an offset never agree. -/
def agrees (t u : DateTime) : Bool :=
  match t.offset, u.offset with
  | none, none => t.clock == u.clock
  | some a, some b => (t.clock : Int) - a * 60000000 == (u.clock : Int) - b * 60000000
  | _, _ => false

/-- Two digits. -/
def two (n : Nat) : Text :=
  Text.padLeft 2 '0' (Text.decimal n)

/-- The numeral of the time. -/
def text (t : DateTime) : Text :=
  t.date.text ++ ' ' :: two t.hour ++ ':' :: two t.minute ++ ':' :: two t.second ++
    (if t.microsecond = 0 then [] else '.' :: Text.padLeft 6 '0' (Text.decimal t.microsecond)) ++
    match t.offset with
    | none => []
    | some m => (if m < 0 then '-' else '+') :: two (m.natAbs / 60) ++ ':' :: two (m.natAbs % 60)

/-- The text of an offset. -/
def offsetText (minutes : Int) : Text :=
  if minutes = 0 then "datetime.timezone.utc".toList
  else "datetime.timezone(".toList ++ durationText minutes ++ [')']

/-- The numbers of the time, in order; seconds and microseconds are left out if they and all after
them are zero. -/
def numbers (t : DateTime) : List Nat :=
  [t.date.year, t.date.month, t.date.day, t.hour, t.minute] ++
    if t.microsecond ≠ 0 then [t.second, t.microsecond]
    else if t.second ≠ 0 then [t.second]
    else []

end DateTime

end Substitution
