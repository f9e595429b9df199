import BackOffice.Calendar.LayoutReader
import BackOffice.Json.Printer
import BackOffice.Decimal.Binary
import BackOffice.Text.LowerCase

/-!
Readings of a JSON value that the kinds of fields share: as a number, as a truth value, as a date, and
as plain text.
-/

namespace BackOffice

/-- Why a value cannot be read; each with the text of the value. -/
inductive FieldFault where
  | notNumber (text : String)
  | notBoolean (text : String)
  | notDate (text : String)
  | notOption (text : String)
  | notObject (text : String)
deriving DecidableEq, Repr

namespace FieldFault

def message : FieldFault → String
  | notNumber text => s!"Cannot convert '{text}' to number"
  | notBoolean text => s!"Cannot convert '{text}' to boolean"
  | notDate text => s!"Cannot read '{text}' as a date"
  | notOption text => s!"'{text}' is not one of the field options"
  | notObject text => s!"Expected an object, got '{text}'"

end FieldFault

namespace Json

/-- The value as plain text: a text as it is, null as nothing. -/
def plainText : Json → String
  | str s => s
  | null => ""
  | v => v.text

mutual

/-- Whether the value holds no input: null, blank text, an empty array, an object with blank values
only. -/
def isBlank : Json → Bool
  | null => true
  | str s => isBlankText s
  | arr items => items.isEmpty
  | obj members => membersBlank members
  | _ => false

def membersBlank : List (String × Json) → Bool
  | [] => true
  | (_, v) :: rest => isBlank v && membersBlank rest

end

/-- The value as a double. -/
def toFloat? : Json → Except FieldFault Float
  | num n => .ok n.toFloat
  | str s => match Numeral.float? (trim s) with
    | some x => .ok x
    | none => .error (.notNumber s)
  | bool b => .ok (if b then 1 else 0)
  | v => .error (.notNumber v.text)

/-- The whole number that a double is, if its magnitude is below 2^53. -/
def wholeOfFloat? (x : Float) : Option Int :=
  if !x.isFinite then none
  else
    let (n, d) := Binary.quotient (Binary.ofFloat x).mantissa (Binary.ofFloat x).exponent
    if n % d = 0 ∧ n / d < Nat.pow 2 53 then
      some (if Binary.isNegative x then -(n / d : Nat) else (n / d : Nat))
    else none

/-- The number of a double: a whole number where it is one, and null where JSON has none. -/
def ofNumber (x : Float) : Json :=
  match wholeOfFloat? x with
  | some n => whole n
  | none => ofFloat x

/-- The value as a truth value; null and no text are false. -/
def toBool? : Json → Except FieldFault Bool
  | bool b => .ok b
  | num (.whole 0) => .ok false
  | num (.whole 1) => .ok true
  | str s =>
    let word := lowerAscii (trim s)
    if ["true", "1", "y", "yes", "on"].contains word then .ok true
    else if ["false", "0", "n", "no", "off", ""].contains word then .ok false
    else .error (.notBoolean s)
  | null => .ok false
  | v => .error (.notBoolean v.text)

end Json

namespace Moment

/-- The layouts of dates with times that are tried in turn. -/
def momentLayouts : List Layout :=
  ["%Y-%m-%d %H:%M:%S", "%Y-%m-%dT%H:%M:%S", "%Y/%m/%d %H:%M:%S"].filterMap Layout.ofText?

/-- The layouts of dates that are tried in turn. -/
def dateLayouts : List Layout := ["%Y-%m-%d", "%Y/%m/%d", "%Y%m%d", "%d/%m/%Y"].filterMap Layout.ofText?

/-- The moment or the date in a text of a layout. -/
def ofLayout? (text : String) (layout : Layout) : Option Moment :=
  (layout.readMoment? text).or ((layout.readDate? text).map ofDate)

/-- The moment in a text: by its own layout, as a stamp, by one of the usual layouts, or as a count of
milliseconds. -/
def ofText? (text : String) (layout : Option Layout) : Option Moment :=
  (layout.bind (ofLayout? text ·)) <|> ofStamp? text
    <|> momentLayouts.findSome? (·.readMoment? text)
    <|> (dateLayouts.findSome? (·.readDate? text)).map ofDate
    <|> (Numeral.signedWord? text).bind ofMillis?

end Moment

/-- The value as a moment; a whole number counts milliseconds. -/
def Json.toMoment? (layout : Option Layout) : Json → Except FieldFault Moment
  | .num (.whole n) =>
    if n < Int.pow 2 63 then match Moment.ofMillis? n with
      | some m => .ok m
      | none => .error (.notDate (Json.whole n).text)
    else .error (.notDate (Json.whole n).text)
  | .str s => match Moment.ofText? (trim s) layout with
    | some m => .ok m
    | none => .error (.notDate s)
  | v => .error (.notDate v.text)

end BackOffice
