import BackOffice.Calendar.Layout

/-!
Reading a moment out of a text by a layout. The items fill in what they say about the moment; an item
that contradicts an earlier one makes the text unreadable, and so does a text that goes on behind the
last item. The date and the time are then made of what was said, if it is enough and agrees.
-/

namespace BackOffice

/-- What a text says about a moment. -/
structure MomentParts where
  numbers : List (NumberPart × Int) := []
  /-- Afternoon or not. -/
  afternoon : Option Bool := none
  /-- Days since Monday. -/
  weekday : Option Nat := none
  /-- Seconds east of coordinated time. -/
  offset : Option Int := none

namespace MomentParts

/-- What was said about a part. -/
def get? (p : MomentParts) (part : NumberPart) : Option Int := p.numbers.lookup part

/-- The values that a part can have. -/
def range : NumberPart → Int × Int
  | .year | .weekYear => (-Int.pow 2 31, Int.pow 2 31 - 1)
  | .century | .weekCentury => (0, Int.pow 2 31 - 1)
  | .yearOfCentury | .yearOfWeekCentury => (0, 99)
  | .quarter => (1, 4)
  | .month => (1, 12)
  | .day => (1, 31)
  | .weekFromSunday | .weekFromMonday => (0, 53)
  | .week => (1, 53)
  | .daysFromSunday => (0, 6)
  | .weekdayFromMonday => (1, 7)
  | .ordinal => (1, 366)
  | .hour => (0, 23)
  | .hour12 => (1, 12)
  | .minute => (0, 59)
  | .second => (0, 60)
  | .nanosecond => (0, 999999999)
  | .timestamp => (-Int.pow 2 63, Int.pow 2 63 - 1)

/-- A value beside an earlier one for the same thing, if they agree. -/
def agree? {α : Type} [DecidableEq α] (old : Option α) (v : α) : Option (Option α) :=
  match old with
  | none => some (some v)
  | some w => if w = v then some (some v) else none

/-- Notes the value of a part that stands for itself. -/
def note? (p : MomentParts) (part : NumberPart) (v : Int) : Option MomentParts :=
  match p.get? part with
  | none => some { p with numbers := (part, v) :: p.numbers }
  | some w => if w = v then some p else none

def noteAfternoon? (p : MomentParts) (v : Bool) : Option MomentParts :=
  (agree? p.afternoon v).map fun a => { p with afternoon := a }

def noteWeekday? (p : MomentParts) (v : Nat) : Option MomentParts :=
  (agree? p.weekday v).map fun w => { p with weekday := w }

def noteOffset? (p : MomentParts) (v : Int) : Option MomentParts :=
  (agree? p.offset v).map fun o => { p with offset := o }

/-- Notes the value of a part, if it is one that the part can have. The hour says also which half of the
day it is in. -/
def set? (p : MomentParts) (part : NumberPart) (v : Int) : Option MomentParts :=
  let (low, high) := range part
  if v < low ∨ high < v then none
  else match part with
    | .hour => do
      let p ← p.noteAfternoon? (12 ≤ v)
      p.note? .hour12 (v % 12)
    | .hour12 => p.note? .hour12 (v % 12)
    | .daysFromSunday => p.noteWeekday? ((v + 6) % 7).toNat
    | .weekdayFromMonday => p.noteWeekday? (v - 1).toNat
    | part => p.note? part v

/-- The year out of a year, a century and a year of the century. A lone year of the century lies between
1970 and 2069. Not enough said gives no year. -/
def year? (whole century ofCentury : Option Int) : Option (Option Int) :=
  match whole, century, ofCentury with
  | y, none, none => some y
  | some y, c, r =>
    if 0 ≤ y ∧ c.getD (y / 100) = y / 100 ∧ r.getD (y % 100) = y % 100 then some (some y) else none
  | none, some c, some r => some (some (100 * c + r))
  | none, none, some r => some (some (if r < 70 then 2000 + r else 1900 + r))
  | none, some _, none => none

/-- Whether nothing that was said contradicts the month and the day, the days counted in the year, or
the week. -/
def agreesWith (p : MomentParts) (d : Date) : Bool :=
  let is (part : NumberPart) (v : Int) : Bool := (p.get? part).all (· == v)
  is .year d.year && is .month d.month && is .day d.day
    && (d.year < 0 || (is .century (d.year / 100) && is .yearOfCentury (d.year % 100)))
    && is .ordinal d.ordinal && is .weekFromSunday (d.weekFrom 6) && is .weekFromMonday (d.weekFrom 0)
    && is .weekYear d.weekYear && is .week d.weekOfYear
    && (d.weekYear < 0
      || (is .weekCentury (d.weekYear / 100) && is .yearOfWeekCentury (d.weekYear % 100)))
    && is .quarter ((d.month + 2) / 3 : Nat)
    && p.weekday.all (· == d.weekday)

/-- A date made of what was said. -/
def candidate? (p : MomentParts) : Option Date := do
  let year ← year? (p.get? .year) (p.get? .century) (p.get? .yearOfCentury)
  let weekYear ← year? (p.get? .weekYear) (p.get? .weekCentury) (p.get? .yearOfWeekCentury)
  match year, p.get? .month, p.get? .day with
  | some y, some month, some day => Date.of? y month.toNat day.toNat
  | _, _, _ =>
    match year, p.get? .ordinal with
    | some y, some ordinal => Date.ofOrdinal? y ordinal.toNat
    | _, _ =>
      match year, p.get? .weekFromSunday, p.get? .weekFromMonday, p.weekday with
      | some y, some week, _, some weekday => Date.ofWeekFrom? y week.toNat weekday 6
      | some y, none, some week, some weekday => Date.ofWeekFrom? y week.toNat weekday 0
      | _, _, _, some weekday =>
        match weekYear, p.get? .week with
        | some y, some week => Date.ofWeek? y week.toNat weekday
        | _, _ => none
      | _, _, _, none => none

/-- The date that was said. -/
def date? (p : MomentParts) : Option Date := p.candidate?.filter (p.agreesWith ·)

/-- The time of day that was said: hour and minute at least, and no fraction without a second. -/
def time? (p : MomentParts) : Option TimeOfDay := do
  let afternoon ← p.afternoon
  let hour ← p.get? .hour12
  let minute ← p.get? .minute
  let second := p.get? .second
  if second.isNone && (p.get? .nanosecond).isSome then none
  else
    let leap := second == some 60
    some ⟨hour.toNat + if afternoon then 12 else 0, minute.toNat,
      if leap then 59 else (second.getD 0).toNat,
      (if leap then 1000000000 else 0) + ((p.get? .nanosecond).getD 0).toNat⟩

/-- Whether a moment has the count of seconds that was said, where a leap second has two. -/
def agreesOnTimestamp (p : MomentParts) (m : Moment) : Bool :=
  (p.get? .timestamp).all fun t =>
    t == m.toSeconds || (1000000000 ≤ m.time.nano && t == m.toSeconds + 1)

/-- The moment of a count of seconds, with all else that was said about it. -/
def fromTimestamp? (p : MomentParts) (t : Int) : Option Moment := do
  let m ← Moment.ofSeconds? t 0
  let (m, p) ←
    if p.get? .second = some 60 then
      if m.time.second = 59 then some (m, p)
      else if m.time.second = 0 then (Moment.ofSeconds? (t - 1) 0).map (·, p)
      else none
    else (p.set? .second m.time.second).map (m, ·)
  let p ← p.set? .year m.date.year
  let p ← p.set? .ordinal m.date.ordinal
  let p ← p.set? .hour m.time.hour
  let p ← p.set? .minute m.time.minute
  let date ← p.date?
  let time ← p.time?
  some ⟨date, time⟩

/-- The moment that was said. A count of seconds stands in for what the date and the time lack. -/
def moment? (p : MomentParts) : Option Moment :=
  match p.date?, p.time? with
  | some date, some time => some ⟨date, time⟩ |>.filter (p.agreesOnTimestamp ·)
  | _, _ => (p.get? .timestamp).bind p.fromTimestamp?

end MomentParts

namespace LayoutReader

/-- A number of at least one digit and at most `width`. -/
def number? (width : Nat) (cs : List Char) : Option (Int × List Char) :=
  let front := (cs.take width).takeWhile Char.isDigit
  let value : Nat := front.foldl (fun n c => 10 * n + (c.toNat - 48)) 0
  if front.isEmpty ∨ Nat.pow 2 63 ≤ value then none else some (value, cs.drop front.length)

/-- The digits of the text that a part may take, and whether it may have a sign; with a sign, all. -/
def limits : NumberPart → Nat × Bool
  | .year | .weekYear => (4, true)
  | .timestamp => (1000, true)
  | part => (match part with
    | .quarter | .daysFromSunday | .weekdayFromMonday => 1
    | .ordinal => 3
    | .nanosecond => 9
    | _ => 2, false)

def signedNumber? (part : NumberPart) (cs : List Char) : Option (Int × List Char) :=
  let (width, signed) := limits part
  match signed, cs with
  | true, '-' :: rest => (number? rest.length rest).map fun (v, rest) => (-v, rest)
  | true, '+' :: rest => number? rest.length rest
  | _, cs => number? width cs

/-- The index of the name that stands in front, in any case, and the rest. -/
def name? (names : List String) (cs : List Char) : Option (Nat × List Char) :=
  let lower := cs.map Char.toLower
  (names.findIdx? fun name => (name.toList.map Char.toLower).isPrefixOf lower).map fun i =>
    (i, cs.drop ((names[i]?).map String.length |>.getD 0))

/-- The index of the name whose first three letters stand in front; of the long names, the rest of the
name may follow. -/
def shortName? (names : List String) (long : Bool) (cs : List Char) : Option (Nat × List Char) :=
  let short := names.map fun name => String.ofList (name.toList.take 3)
  match name? short cs with
  | none => none
  | some (i, rest) =>
    if long then
      match name? names cs with
      | some (_, rest) => some (i, rest)
      | none => some (i, rest)
    else some (i, rest)

/-- The digits behind a point as nanoseconds; digits beyond the ninth are passed over. -/
def fraction? (cs : List Char) : Option (Int × List Char) :=
  let front := (cs.take 9).takeWhile Char.isDigit
  if front.isEmpty then none
  else
    let value : Nat := front.foldl (fun n c => 10 * n + (c.toNat - 48)) 0
    some ((value : Int) * Int.pow 10 (9 - front.length), (cs.drop front.length).dropWhile Char.isDigit)

/-- An offset from coordinated time: a sign, two digits of hours, `colon` between, two digits of
minutes. -/
def offset? (colon : List Char → Option (List Char)) (zulu minutesOptional : Bool) (cs : List Char) :
    Option (Int × List Char) :=
  let twoDigits (cs : List Char) : Option (Int × List Char) :=
    if ((cs.take 2).filter Char.isDigit).length = 2 then number? 2 cs else none
  let body (sign : Int) (cs : List Char) : Option (Int × List Char) := do
    let (hours, rest) ← twoDigits cs
    let afterColon ← colon rest
    match twoDigits afterColon with
    | some (minutes, rest) =>
      if 60 ≤ minutes then none else some (sign * (3600 * hours + 60 * minutes), rest)
    | none => if minutesOptional then some (sign * 3600 * hours, afterColon) else none
  match cs with
  | 'Z' :: rest | 'z' :: rest => if zulu then some (0, rest) else none
  | '+' :: rest => body 1 rest
  | '-' :: rest | '−' :: rest => body (-1) rest
  | _ => none

/-- Passes over colons and white space. -/
def colonOrSpace (cs : List Char) : Option (List Char) :=
  some (cs.dropWhile fun c => c == ':' || isBlank c)

def colon? : List Char → Option (List Char)
  | ':' :: rest => some rest
  | _ => none

/-- Two, or four, digits that all have to be there. -/
def exactNumber? (count : Nat) (cs : List Char) : Option (Int × List Char) :=
  if ((cs.take count).filter Char.isDigit).length = count then number? count cs else none

/-- A moment with its offset, as in `2024-03-05T10:20:30.5+01:00`. -/
def stamp? (p : MomentParts) (cs : List Char) : Option (MomentParts × List Char) := do
  let (year, cs) ← exactNumber? 4 cs
  let cs ← stripChar? '-' cs
  let (month, cs) ← exactNumber? 2 cs
  let cs ← stripChar? '-' cs
  let (day, cs) ← exactNumber? 2 cs
  let cs ← match cs with
    | 'T' :: rest | 't' :: rest | ' ' :: rest => some rest
    | _ => none
  let (hour, cs) ← exactNumber? 2 cs
  let cs ← stripChar? ':' cs
  let (minute, cs) ← exactNumber? 2 cs
  let cs ← stripChar? ':' cs
  let (second, cs) ← exactNumber? 2 cs
  let p ← p.set? .year year
  let p ← p.set? .month month
  let p ← p.set? .day day
  let p ← p.set? .hour hour
  let p ← p.set? .minute minute
  let p ← p.set? .second second
  let (p, cs) ← match cs with
    | '.' :: rest => do
      let (nano, rest) ← fraction? rest
      let p ← p.set? .nanosecond nano
      some (p, rest)
    | cs => some (p, cs)
  let (offset, cs) ← offset? colon? true false cs
  if offset.natAbs ≤ 86340 then (p.noteOffset? offset).map (·, cs) else none
where
  stripChar? (c : Char) : List Char → Option (List Char)
    | d :: rest => if c = d then some rest else none
    | [] => none

/-- Reads one item. White space of the layout stands for any white space, or none, and a number may
have white space before it. -/
def item? (p : MomentParts) (cs : List Char) : LayoutItem → Option (MomentParts × List Char)
  | .literal text => if text.isPrefixOf cs then some (p, cs.drop text.length) else none
  | .space _ => some (p, trimFront cs)
  | .number part _ => do
    let (v, rest) ← signedNumber? part (trimFront cs)
    (p.set? part v).map (·, rest)
  | .named part =>
    match part with
    | .shortMonth | .longMonth => do
      let (i, rest) ← shortName? monthNames (part == .longMonth) cs
      (p.set? .month (i + 1)).map (·, rest)
    | .shortWeekday | .longWeekday => do
      let (i, rest) ← shortName? weekdayNames (part == .longWeekday) cs
      (p.noteWeekday? i).map (·, rest)
    | .lowerHalf | .upperHalf => do
      let (i, rest) ← name? ["am", "pm"] cs
      (p.noteAfternoon? (i == 1)).map (·, rest)
    | .fraction | .fixedFraction _ =>
      match cs with
      | '.' :: rest => do
        let (nano, rest) ← fraction? rest
        (p.set? .nanosecond nano).map (·, rest)
      | cs => some (p, cs)
    | .bareFraction digits => do
      let (v, rest) ← exactNumber? digits cs
      (p.set? .nanosecond (v * Int.pow 10 (9 - digits))).map (·, rest)
    | .zoneName => some (p, cs.dropWhile fun c => !isBlank c)
    | .offset minutesOptional => do
      let (offset, rest) ← offset? colonOrSpace minutesOptional minutesOptional (trimFront cs)
      (p.noteOffset? offset).map (·, rest)
    | .stamp => stamp? p cs

/-- Reads all items and nothing more. -/
def items? (p : MomentParts) : Layout → List Char → Option MomentParts
  | [], [] => some p
  | [], _ :: _ => none
  | item :: layout, cs => do
    let (p, rest) ← item? p cs item
    items? p layout rest

end LayoutReader

/-- The moment in a text of a layout. -/
def Layout.readMoment? (layout : Layout) (text : String) : Option Moment :=
  (LayoutReader.items? {} layout text.toList).bind MomentParts.moment?

/-- The date in a text of a layout. -/
def Layout.readDate? (layout : Layout) (text : String) : Option Date :=
  (LayoutReader.items? {} layout text.toList).bind MomentParts.date?

/-- The moment in a text like `2024-03-05T10:20:30+01:00`, in coordinated time. -/
def Moment.ofStamp? (text : String) : Option Moment := do
  let (p, rest) ← LayoutReader.stamp? {} text.toList
  if rest ≠ [] then none
  else
    let m ← p.moment?
    Moment.ofSeconds? (m.toSeconds - p.offset.getD 0) m.time.nano

end BackOffice
