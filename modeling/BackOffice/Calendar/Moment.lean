import BackOffice.Calendar.Date
import BackOffice.Decimal.Reading
import BackOffice.Decimal.Shortest

/-!
A date with a time of day, as it stands in coordinated time. A leap second keeps the second 59 and has
a billion nanoseconds or more.
-/

namespace BackOffice

/-- A time of day. -/
structure TimeOfDay where
  hour : Nat
  minute : Nat
  second : Nat
  nano : Nat
deriving DecidableEq, Repr

/-- A date and a time of day. -/
structure Moment where
  date : Date
  time : TimeOfDay
deriving DecidableEq, Repr

namespace TimeOfDay

def midnight : TimeOfDay := ⟨0, 0, 0, 0⟩

def ofSeconds (seconds nano : Nat) : TimeOfDay :=
  ⟨seconds / 3600, seconds / 60 % 60, seconds % 60, nano⟩

def toSeconds (t : TimeOfDay) : Nat := 3600 * t.hour + 60 * t.minute + t.second

end TimeOfDay

namespace Moment

/-- The start of a day. -/
def ofDate (d : Date) : Moment := ⟨d, .midnight⟩

/-- Seconds since 1970-01-01, without their fraction. -/
def toSeconds (m : Moment) : Int := 86400 * m.date.toDays + m.time.toSeconds

/-- The moment some seconds after 1970-01-01, if its year is in range. -/
def ofSeconds? (seconds : Int) (nano : Nat) : Option Moment :=
  let date := Date.ofDays (seconds / 86400)
  if date.inRange then some ⟨date, .ofSeconds (seconds % 86400).toNat nano⟩ else none

/-- The moment some milliseconds after 1970-01-01. -/
def ofMillis? (millis : Int) : Option Moment :=
  ofSeconds? (millis / 1000) ((millis % 1000).toNat * 1000000)

/-- Milliseconds since 1970-01-01. -/
def toMillis (m : Moment) : Int := 1000 * m.toSeconds + (m.time.nano / 1000000 : Nat)

/-- 1970-01-01. -/
def epoch : Moment := ofDate ⟨1970, 1, 1⟩

end Moment

/-- A number padded in front to a width. -/
def padded (fill : Char) (width n : Nat) : List Char :=
  let ds := Decimal.digitsOf n
  List.replicate (width - ds.length) fill ++ ds

/-- A year with four digits; beyond four, and below zero, with a sign. -/
def yearChars (year : Int) : List Char :=
  if year < 0 then '-' :: padded '0' 4 year.natAbs
  else if 9999 < year then '+' :: padded '0' 5 year.natAbs
  else padded '0' 4 year.natAbs

namespace Date

/-- The date as `2024-03-05`. -/
def text (d : Date) : String :=
  String.ofList (yearChars d.year ++ '-' :: padded '0' 2 d.month ++ '-' :: padded '0' 2 d.day)

end Date

namespace Moment

/-- The moment as `2023-11-14T22:13:20Z`, with the milliseconds if asked for. -/
def text (m : Moment) (millis : Bool) : String :=
  let t := m.time
  let second := t.second + t.nano / 1000000000
  m.date.text ++ String.ofList ('T' :: padded '0' 2 t.hour ++ ':' :: padded '0' 2 t.minute
    ++ ':' :: padded '0' 2 second
    ++ (if millis then '.' :: padded '0' 3 (t.nano % 1000000000 / 1000000) else []) ++ ['Z'])

end Moment

end BackOffice
