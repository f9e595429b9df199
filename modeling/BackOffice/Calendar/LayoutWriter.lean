import BackOffice.Calendar.Layout

/-!
Writing a moment in a layout. Parts that need a zone cannot be written.
-/

namespace BackOffice

namespace NumberPart

/-- The width of a number in a layout. -/
def width : NumberPart → Nat
  | year | weekYear => 4
  | quarter | daysFromSunday | weekdayFromMonday => 1
  | ordinal => 3
  | nanosecond | timestamp => 9
  | _ => 2

/-- The value of a part. -/
def value (m : Moment) : NumberPart → Int
  | year => m.date.year
  | century => m.date.year / 100
  | yearOfCentury => m.date.year % 100
  | weekYear => m.date.weekYear
  | weekCentury => m.date.weekYear / 100
  | yearOfWeekCentury => m.date.weekYear % 100
  | quarter => ((m.date.month + 2) / 3 : Nat)
  | month => m.date.month
  | day => m.date.day
  | weekFromSunday => m.date.weekFrom 6
  | weekFromMonday => m.date.weekFrom 0
  | week => m.date.weekOfYear
  | daysFromSunday => ((m.date.weekday + 1) % 7 : Nat)
  | weekdayFromMonday => (m.date.weekday + 1 : Nat)
  | ordinal => m.date.ordinal
  | hour => m.time.hour
  | hour12 => (if m.time.hour % 12 = 0 then 12 else m.time.hour % 12 : Nat)
  | minute => m.time.minute
  | second => (m.time.second + m.time.nano / 1000000000 : Nat)
  | nanosecond => (m.time.nano % 1000000000 : Nat)
  | timestamp => m.toSeconds

/-- Whether the sign is written for a value: for years beyond four digits and below zero. -/
def signed (part : NumberPart) (v : Int) : Bool :=
  (part == year || part == weekYear) && (v < 0 || 9999 < v)

end NumberPart

/-- A number with its sign, filled up to a width that counts the sign. -/
def filled (padding : Padding) (width : Nat) (plus : Bool) (v : Int) : List Char :=
  let sign := if v < 0 then ['-'] else if plus then ['+'] else []
  let ds := Decimal.digitsOf v.natAbs
  let gap := width - (sign.length + ds.length)
  match padding with
  | .none => sign ++ ds
  | .zero => sign ++ List.replicate gap '0' ++ ds
  | .space => List.replicate gap ' ' ++ sign ++ ds

/-- The fraction of a second with a number of digits. -/
def fractionChars (digits nano : Nat) : List Char :=
  padded '0' digits (nano % 1000000000 / Nat.pow 10 (9 - digits))

namespace LayoutItem

/-- The text of an item, if the moment has that part. -/
def write? (m : Moment) : LayoutItem → Option (List Char)
  | literal text => some text
  | space text => some text
  | number part padding =>
    let v := part.value m
    let plus := part.signed v
    some (filled padding (part.width + if plus then 1 else 0) plus v)
  | named part =>
    let nano := m.time.nano % 1000000000
    match part with
    | .longMonth => (monthNames[m.date.month - 1]?).map String.toList
    | .shortMonth => (monthNames[m.date.month - 1]?).map fun name => name.toList.take 3
    | .longWeekday => (weekdayNames[m.date.weekday]?).map String.toList
    | .shortWeekday => (weekdayNames[m.date.weekday]?).map fun name => name.toList.take 3
    | .lowerHalf => some [if m.time.hour < 12 then 'a' else 'p', 'm']
    | .upperHalf => some [if m.time.hour < 12 then 'A' else 'P', 'M']
    | .fraction =>
      if nano = 0 then some []
      else if nano % 1000000 = 0 then some ('.' :: fractionChars 3 nano)
      else if nano % 1000 = 0 then some ('.' :: fractionChars 6 nano)
      else some ('.' :: fractionChars 9 nano)
    | .fixedFraction digits => some ('.' :: fractionChars digits nano)
    | .bareFraction digits => some (fractionChars digits nano)
    | .zoneName | .offset _ | .stamp => none

end LayoutItem

/-- The moment in a layout. -/
def Moment.write? (m : Moment) (layout : Layout) : Option String :=
  (layout.mapM (LayoutItem.write? m)).map fun parts => String.ofList parts.flatten

end BackOffice
