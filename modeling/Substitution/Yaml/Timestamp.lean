import Substitution.Value.Basic
import Substitution.Yaml.Cursor
import Substitution.Yaml.Numeral

/-!
# Dates and times of a document

A date is written as three numerals with dashes between them; a time of day may follow, with a
fraction of a second and an offset from universal time. `Timestamp.read?` cuts such a text into its
numerals; `Timestamp.value` is the date or time they name, if there is one.
-/

namespace Substitution

namespace Yaml

/-- The offset at the end of a timestamp. -/
inductive Zone where
  | universal
  | ahead (hours minutes : Nat)
  | behind (hours minutes : Nat)
deriving Repr, DecidableEq

/-- The time of day in a timestamp. -/
structure TimeOfDay where
  hour : Nat
  minute : Nat
  second : Nat
  /-- The digits after the point. -/
  fraction : Text
  zone : Option Zone
deriving Repr, DecidableEq

/-- The numerals of a timestamp. -/
structure Timestamp where
  year : Nat
  month : Nat
  day : Nat
  time : Option TimeOfDay
deriving Repr, DecidableEq

namespace Timestamp

/-- The numeral of at least `least` and at most `most` digits that stands here, and the text after
it. -/
def number? (least most : Nat) (t : Text) : Option (Nat × Text) :=
  let digits := (t.take most).takeWhile isDigit
  if digits.length < least then none
  else some (Text.ofDigits 10 (digits.map fun c => c.toNat - '0'.toNat), t.drop digits.length)

/-- The text after a character that must stand here. -/
def after? (c : Char) (t : Text) : Option Text :=
  match t with
  | d :: rest => if d = c then some rest else none
  | [] => none

/-- The offset that makes up the rest of a timestamp. -/
def zone? (t : Text) : Option (Option Zone) :=
  if t.isEmpty then some none
  else match t.dropWhile isBlank with
    | ['Z'] => some (some .universal)
    | sign :: rest => do
      let (hours, rest) ← number? 1 2 rest
      let minutes ← if rest.isEmpty then some 0 else do
        let (minutes, rest) ← number? 2 2 (← after? ':' rest)
        if rest.isEmpty then some minutes else none
      if sign = '+' then some (some (.ahead hours minutes))
      else if sign = '-' then some (some (.behind hours minutes))
      else none
    | [] => none

/-- The time of day that makes up the rest of a timestamp. -/
def time? (t : Text) : Option TimeOfDay := do
  let (hour, t) ← number? 1 2 t
  let (minute, t) ← number? 2 2 (← after? ':' t)
  let (second, t) ← number? 2 2 (← after? ':' t)
  let (fraction, t) := match t with
    | '.' :: rest => rest.span isDigit
    | _ => ([], t)
  some ⟨hour, minute, second, fraction, ← zone? t⟩

/-- The numerals of a text that has the form of a timestamp. -/
def read? (t : Text) : Option Timestamp := do
  let (year, t) ← number? 4 4 t
  let (month, t) ← number? 1 2 (← after? '-' t)
  let (day, t) ← number? 1 2 (← after? '-' t)
  match t with
  | [] => some ⟨year, month, day, none⟩
  | c :: rest =>
    if c = 'T' ∨ c = 't' then some ⟨year, month, day, ← time? rest⟩
    else if isBlank c then some ⟨year, month, day, ← time? (rest.dropWhile isBlank)⟩
    else none

/-- Is an untagged scalar with this text a date or time? A date alone must have all its digits. -/
def isForm (t : Text) : Bool :=
  match read? t with
  | none => false
  | some ts => ts.time.isSome || t.length == 10

/-- The minutes that an offset puts a clock ahead. -/
def Zone.minutes : Zone → Int
  | .universal => 0
  | .ahead hours minutes => hours * 60 + minutes
  | .behind hours minutes => -(hours * 60 + minutes)

/-- The date or time that the numerals name. -/
def value (ts : Timestamp) : Except CalendarError Value :=
  match ts.time with
  | none => (Date.make ts.year ts.month ts.day).map .date
  | some t =>
    let micro := (t.fraction ++ List.replicate 6 '0').take 6
    let microsecond := Text.ofDigits 10 (micro.map fun c => c.toNat - '0'.toNat)
    (DateTime.make ts.year ts.month ts.day t.hour t.minute t.second microsecond
      (t.zone.map Zone.minutes)).map .dateTime

end Timestamp

end Yaml

end Substitution
