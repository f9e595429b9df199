/-!
Numerals read from text: doubles with an optional fraction and exponent, and whole numbers of one
machine word.
-/

namespace BackOffice.Numeral

/-- Reads ASCII digits from the front: their value, how many there were, and the rest. -/
def digits (cs : List Char) : Nat × Nat × List Char :=
  let front := cs.takeWhile Char.isDigit
  (front.foldl (fun n c => 10 * n + (c.toNat - 48)) 0, front.length, cs.dropWhile Char.isDigit)

/-- A sign in front, if there is one; `true` for a minus. -/
def sign : List Char → Bool × List Char
  | '-' :: cs => (true, cs)
  | '+' :: cs => (false, cs)
  | cs => (false, cs)

/-- The double nearest to `digits · 10 ^ exponent`; too large a value gives infinity. `count` is a
number of digits that `digits` has at most. -/
def nearest (digits count : Nat) (exponent : Int) : Float :=
  if digits = 0 ∨ exponent + count < -400 then 0
  else if 400 < exponent ∧ 400 < exponent + count then Float.ofBits 0x7FF0000000000000
  else if 0 ≤ exponent then Float.ofScientific digits false exponent.toNat
  else Float.ofScientific digits true exponent.natAbs

/-- An exponent part that takes up the whole text: `e`, a sign, digits. No text is exponent zero. -/
def exponent? : List Char → Option Int
  | [] => some 0
  | c :: cs =>
    if c = 'e' ∨ c = 'E' then
      let (minus, cs) := sign cs
      let (value, count, rest) := digits cs
      if count = 0 ∨ rest ≠ [] then none else some (if minus then -(value : Int) else value)
    else none

/-- A numeral without a sign: digits with an optional point among, before or after them, and an
optional exponent. -/
def magnitude? (cs : List Char) : Option Float :=
  let (whole, wholeCount, rest) := digits cs
  let (fraction, fractionCount, rest) := match rest with
    | '.' :: rest => digits rest
    | rest => (0, 0, rest)
  if wholeCount + fractionCount = 0 then none
  else (exponent? rest).map fun e =>
    nearest (whole * Nat.pow 10 fractionCount + fraction) (wholeCount + fractionCount) (e - fractionCount)

/-- The names of the values that have no digits, in lower case. -/
def named? (cs : List Char) : Option Float :=
  let name := String.ofList (cs.map Char.toLower)
  if name = "inf" ∨ name = "infinity" then some (Float.ofBits 0x7FF0000000000000)
  else if name = "nan" then some (Float.ofBits 0x7FF8000000000000)
  else none

/-- A double as a whole text: an optional sign, then a numeral, or `inf`, `infinity` or `nan` in any
case. -/
def float? (text : String) : Option Float :=
  let (minus, cs) := sign text.toList
  ((magnitude? cs).or (named? cs)).map fun x => if minus then -x else x

/-- A whole number as a whole text, with an optional sign. -/
def int? (text : String) : Option Int :=
  let (minus, cs) := sign text.toList
  let (value, count, rest) := digits cs
  if count = 0 ∨ rest ≠ [] then none else some (if minus then -(value : Int) else value)

/-- A number below 2^64 as a whole text: ASCII digits with an optional plus. -/
def word? (text : String) : Option Nat :=
  match text.toList with
  | '-' :: _ => none
  | _ => match int? text with
    | some n => if n < Int.pow 2 64 then some n.toNat else none
    | none => none

/-- A signed 64-bit number as a whole text. -/
def signedWord? (text : String) : Option Int :=
  (int? text).filter fun n => -Int.pow 2 63 ≤ n ∧ n < Int.pow 2 63

end BackOffice.Numeral
