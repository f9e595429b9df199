/-!
Dates of the proleptic Gregorian calendar, counted in days from 1970-01-01. Years run from -262143 to
262142.
-/

namespace BackOffice

/-- A day of the calendar. -/
structure Date where
  year : Int
  month : Nat
  day : Nat
deriving DecidableEq, Repr

namespace Date

def isLeapYear (year : Int) : Bool := year % 4 = 0 && (year % 100 ≠ 0 || year % 400 = 0)

def daysInMonth (year : Int) (month : Nat) : Nat :=
  if month = 2 then if isLeapYear year then 29 else 28
  else if month = 4 ∨ month = 6 ∨ month = 9 ∨ month = 11 then 30
  else 31

def firstYear : Int := -262143

def lastYear : Int := 262142

/-- The date, if there is one. -/
def of? (year : Int) (month day : Nat) : Option Date :=
  if firstYear ≤ year ∧ year ≤ lastYear ∧ 1 ≤ month ∧ month ≤ 12 ∧ 1 ≤ day ∧ day ≤ daysInMonth year month
  then some ⟨year, month, day⟩ else none

/-- Days before the first of March of the year zero of a cycle that starts in March, by months. -/
def daysBeforeMonth (monthFromMarch : Nat) : Nat := (153 * monthFromMarch + 2) / 5

/-- Days since 1970-01-01. -/
def toDays (d : Date) : Int :=
  let year := if d.month ≤ 2 then d.year - 1 else d.year
  let monthFromMarch := (d.month + 9) % 12
  365 * year + year / 4 - year / 100 + year / 400 + daysBeforeMonth monthFromMarch + d.day - 719469

/-- The date of a day count. -/
def ofDays (days : Int) : Date :=
  let z := days + 719468
  let era := z / 146097
  let dayOfEra := z - era * 146097
  let yearOfEra := (dayOfEra - dayOfEra / 1460 + dayOfEra / 36524 - dayOfEra / 146096) / 365
  let dayOfYear := dayOfEra - (365 * yearOfEra + yearOfEra / 4 - yearOfEra / 100)
  let monthFromMarch := ((5 * dayOfYear + 2) / 153).toNat
  let month := if monthFromMarch < 10 then monthFromMarch + 3 else monthFromMarch - 9
  let year := yearOfEra + era * 400 + if month ≤ 2 then 1 else 0
  ⟨year, month, (dayOfYear - daysBeforeMonth monthFromMarch + 1).toNat⟩

/-- Whether the year is one that dates have. -/
def inRange (d : Date) : Bool := firstYear ≤ d.year && d.year ≤ lastYear

/-- The place of the day in its year, from 1. -/
def ordinal (d : Date) : Nat := (d.toDays - toDays ⟨d.year, 1, 1⟩ + 1).toNat

/-- The date at a place in a year. -/
def ofOrdinal? (year : Int) (ordinal : Nat) : Option Date :=
  if firstYear ≤ year ∧ year ≤ lastYear ∧ 1 ≤ ordinal ∧ ordinal ≤ (if isLeapYear year then 366 else 365)
  then some (ofDays (toDays ⟨year, 1, 1⟩ + ordinal - 1)) else none

/-- Days since Monday. -/
def weekday (d : Date) : Nat := ((d.toDays + 3) % 7).toNat

/-- Weeks begun in the year when weeks begin on a given day; days before the first are in week 0. -/
def weekFrom (d : Date) (firstDay : Nat) : Nat :=
  (d.ordinal + 6 - (d.weekday + 7 - firstDay) % 7) / 7

/-- The year that most of the week of the day lies in. -/
def weekYear (d : Date) : Int := (ofDays (d.toDays + 3 - d.weekday)).year

/-- The number of the week of the day in that year. -/
def weekOfYear (d : Date) : Nat := ((ofDays (d.toDays + 3 - d.weekday)).ordinal + 6) / 7

/-- The day of a week of a year that the week year counts. -/
def ofWeek? (weekYear : Int) (week weekday : Nat) : Option Date :=
  let fourth : Date := ⟨weekYear, 1, 4⟩
  let d := ofDays (fourth.toDays - fourth.weekday + 7 * ((week : Int) - 1) + weekday)
  if 1 ≤ week ∧ d.weekYear = weekYear ∧ d.inRange then some d else none

/-- The day of a week of a year whose weeks begin on a given day. -/
def ofWeekFrom? (year : Int) (week weekday firstDay : Nat) : Option Date :=
  let first : Date := ⟨year, 1, 1⟩
  let toFirst := (firstDay + 7 - first.weekday) % 7
  let place : Int := toFirst + 7 * ((week : Int) - 1) + ((weekday + 7 - firstDay) % 7 : Nat) + 1
  if place < 1 then none else ofOrdinal? year place.toNat

end Date

end BackOffice
