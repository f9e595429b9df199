import BackOffice.Text.Blank
import BackOffice.Calendar.Moment

/-!
Layouts of dates and times: text in which a percent sign and a letter stand for a part of a moment, as
in `%Y-%m-%d %H:%M`. A layout with an unknown letter is no layout.
-/

namespace BackOffice

/-- A part of a moment that is written as a number. -/
inductive NumberPart where
  | year | century | yearOfCentury
  | weekYear | weekCentury | yearOfWeekCentury
  | quarter | month | day
  | weekFromSunday | weekFromMonday | week
  | daysFromSunday | weekdayFromMonday
  | ordinal
  | hour | hour12 | minute | second | nanosecond
  | timestamp
deriving DecidableEq, Repr

/-- A part of a moment that is written otherwise. -/
inductive NamedPart where
  | shortMonth | longMonth | shortWeekday | longWeekday
  | lowerHalf | upperHalf
  /-- A point and as many digits as are needed, out of 3, 6 and 9; nothing for a full second. -/
  | fraction
  /-- A point and a fixed number of digits. -/
  | fixedFraction (digits : Nat)
  /-- A fixed number of digits. -/
  | bareFraction (digits : Nat)
  | zoneName
  /-- An offset from coordinated time; `minutes` tells whether they may be absent. -/
  | offset (minutesOptional : Bool)
  /-- A whole moment with its offset. -/
  | stamp
deriving DecidableEq, Repr

/-- How a number is filled up to its width. -/
inductive Padding where
  | none | zero | space
deriving DecidableEq, Repr

/-- One item of a layout. -/
inductive LayoutItem where
  | literal (text : List Char)
  | space (text : List Char)
  | number (part : NumberPart) (padding : Padding)
  | named (part : NamedPart)
deriving Repr

namespace LayoutItem

def zero (part : NumberPart) : LayoutItem := number part .zero

/-- `%m/%d/%y` -/
def monthDayYear : List LayoutItem :=
  [zero .month, literal ['/'], zero .day, literal ['/'], zero .yearOfCentury]

/-- `%Y-%m-%d` -/
def yearMonthDay : List LayoutItem :=
  [zero .year, literal ['-'], zero .month, literal ['-'], zero .day]

/-- `%H:%M` -/
def hourMinute : List LayoutItem := [zero .hour, literal [':'], zero .minute]

/-- `%H:%M:%S` -/
def clock : List LayoutItem := hourMinute ++ [literal [':'], zero .second]

/-- `%I:%M:%S %p` -/
def clock12 : List LayoutItem :=
  [zero .hour12, literal [':'], zero .minute, literal [':'], zero .second, space [' '],
    named .upperHalf]

/-- `%e-%b-%Y` -/
def dayMonthYear : List LayoutItem :=
  [number .day .space, literal ['-'], named .shortMonth, literal ['-'], zero .year]

/-- `%a %b %e %T %Y` -/
def dateAndTime : List LayoutItem :=
  [named .shortWeekday, space [' '], named .shortMonth, space [' '], number .day .space, space [' ']]
    ++ clock ++ [space [' '], zero .year]

/-- What a letter behind a percent sign stands for. -/
def ofLetter? : Char → Option (List LayoutItem)
  | 'A' => some [named .longWeekday]
  | 'B' => some [named .longMonth]
  | 'C' => some [zero .century]
  | 'D' => some monthDayYear
  | 'F' => some yearMonthDay
  | 'G' => some [zero .weekYear]
  | 'H' => some [zero .hour]
  | 'I' => some [zero .hour12]
  | 'M' => some [zero .minute]
  | 'P' => some [named .lowerHalf]
  | 'R' => some hourMinute
  | 'S' => some [zero .second]
  | 'T' => some clock
  | 'U' => some [zero .weekFromSunday]
  | 'V' => some [zero .week]
  | 'W' => some [zero .weekFromMonday]
  | 'X' => some clock
  | 'Y' => some [zero .year]
  | 'Z' => some [named .zoneName]
  | 'a' => some [named .shortWeekday]
  | 'b' => some [named .shortMonth]
  | 'c' => some dateAndTime
  | 'd' => some [zero .day]
  | 'e' => some [number .day .space]
  | 'f' => some [zero .nanosecond]
  | 'g' => some [zero .yearOfWeekCentury]
  | 'h' => some [named .shortMonth]
  | 'j' => some [zero .ordinal]
  | 'k' => some [number .hour .space]
  | 'l' => some [number .hour12 .space]
  | 'm' => some [zero .month]
  | 'n' => some [space ['\n']]
  | 'p' => some [named .upperHalf]
  | 'q' => some [number .quarter .none]
  | 'r' => some clock12
  | 's' => some [number .timestamp .none]
  | 't' => some [space ['\t']]
  | 'u' => some [number .weekdayFromMonday .none]
  | 'v' => some dayMonthYear
  | 'w' => some [number .daysFromSunday .none]
  | 'x' => some monthDayYear
  | 'y' => some [zero .yearOfCentury]
  | 'z' => some [named (.offset false)]
  | '+' => some [named .stamp]
  | '%' => some [literal ['%']]
  | _ => none

/-- Another padding, which only a single number can take. -/
def repad? (padding : Padding) : List LayoutItem → Option (List LayoutItem)
  | [number part _] => some [number part padding]
  | _ => none

/-- The items behind a percent sign, and the rest of the layout. -/
def directive? : List Char → Option (List LayoutItem × List Char)
  | '-' :: c :: rest => ((ofLetter? c).bind (repad? .none)).map (·, rest)
  | '0' :: c :: rest => ((ofLetter? c).bind (repad? .zero)).map (·, rest)
  | '_' :: c :: rest => ((ofLetter? c).bind (repad? .space)).map (·, rest)
  | '#' :: 'z' :: rest => some ([named (.offset true)], rest)
  | ':' :: ':' :: ':' :: 'z' :: rest => some ([named (.offset false)], rest)
  | ':' :: ':' :: 'z' :: rest => some ([named (.offset false)], rest)
  | ':' :: 'z' :: rest => some ([named (.offset false)], rest)
  | '.' :: 'f' :: rest => some ([named .fraction], rest)
  | '.' :: '3' :: 'f' :: rest => some ([named (.fixedFraction 3)], rest)
  | '.' :: '6' :: 'f' :: rest => some ([named (.fixedFraction 6)], rest)
  | '.' :: '9' :: 'f' :: rest => some ([named (.fixedFraction 9)], rest)
  | '3' :: 'f' :: rest => some ([named (.bareFraction 3)], rest)
  | '6' :: 'f' :: rest => some ([named (.bareFraction 6)], rest)
  | '9' :: 'f' :: rest => some ([named (.bareFraction 9)], rest)
  | c :: rest => (ofLetter? c).map (·, rest)
  | [] => none

end LayoutItem

/-- A layout. -/
abbrev Layout := List LayoutItem

namespace Layout

/-- Reads a layout, directive by directive; `fuel` is at least the number of characters. -/
def ofChars? : (fuel : Nat) → List Char → Option Layout
  | _, [] => some []
  | 0, _ => none
  | fuel + 1, '%' :: rest => do
    let (items, rest) ← LayoutItem.directive? rest
    let more ← ofChars? fuel rest
    some (items ++ more)
  | fuel + 1, c :: rest =>
    if isBlank c then (ofChars? fuel rest).map (.space [c] :: ·)
    else (ofChars? fuel rest).map (.literal [c] :: ·)

/-- The layout that a text describes, if it describes one. -/
def ofText? (text : String) : Option Layout := ofChars? text.length text.toList

/-- `%Y-%m-%d` -/
def day : Layout := LayoutItem.yearMonthDay

end Layout

/-- The months, by their long names. -/
def monthNames : List String :=
  ["January", "February", "March", "April", "May", "June", "July", "August", "September", "October",
    "November", "December"]

/-- The days of the week, by their long names. -/
def weekdayNames : List String :=
  ["Monday", "Tuesday", "Wednesday", "Thursday", "Friday", "Saturday", "Sunday"]

end BackOffice
