import BackOffice.Calendar.Date
import BackOffice.Decimal.Reading
import BackOffice.Json.Value
import BackOffice.Text.Hex

/-!
The scalars of TOML: quoted texts, numbers, truth values, dates and times. Dates and times are taken as
texts, and the numbers that JSON has no text for as null.
-/

namespace BackOffice.Toml

def isBlank (c : Char) : Bool := c == ' ' || c == '\t'

def skipBlanks (cs : List Char) : List Char := cs.dropWhile isBlank

/-- A character that may stand in a comment or a text on one line. -/
def isPrintable (c : Char) : Bool := c == '\t' || (' ' ≤ c && c ≠ '\x7f')

/-- The escapes with one character. -/
def shortEscape? : Char → Option Char
  | 'b' => some '\x08'
  | 't' => some '\t'
  | 'n' => some '\n'
  | 'f' => some '\x0c'
  | 'r' => some '\r'
  | '"' => some '"'
  | '\\' => some '\\'
  | _ => none

/-- The escape after a backslash. -/
def escape? : List Char → Option (Char × List Char)
  | 'u' :: rest => if rest.length < 4 then none else (hexChar? (rest.take 4)).map (·, rest.drop 4)
  | 'U' :: rest => if rest.length < 8 then none else (hexChar? (rest.take 8)).map (·, rest.drop 8)
  | c :: rest => (shortEscape? c).map (·, rest)
  | [] => none

/-- The rest of a quoted text on one line, with what comes after it. -/
def quoted? : (fuel : Nat) → List Char → Option (List Char × List Char)
  | 0, _ => none
  | _ + 1, [] => none
  | _ + 1, '"' :: rest => some ([], rest)
  | fuel + 1, '\\' :: rest => do
    let (c, rest) ← escape? rest
    let (cs, rest) ← quoted? fuel rest
    some (c :: cs, rest)
  | fuel + 1, c :: rest =>
    if isPrintable c then (quoted? fuel rest).map fun (cs, rest) => (c :: cs, rest) else none

/-- The rest of a literal text on one line. -/
def literal? : List Char → Option (List Char × List Char)
  | [] => none
  | '\'' :: rest => some ([], rest)
  | c :: rest =>
    if isPrintable c then (literal? rest).map fun (cs, rest) => (c :: cs, rest) else none

/-- What comes after a line break and the white space behind it. -/
def skipLines : List Char → List Char
  | '\r' :: '\n' :: rest => skipLines rest
  | c :: rest => if isBlank c || c == '\n' then skipLines rest else c :: rest
  | [] => []

/-- What comes after a backslash that ends a line, and the white space behind it. -/
def joinLine? (cs : List Char) : Option (List Char) :=
  match skipBlanks cs with
  | '\n' :: rest => some (skipLines rest)
  | '\r' :: '\n' :: rest => some (skipLines rest)
  | _ => none

/-- The end of a text that spans lines: three marks, with up to two that belong to the text. -/
def closing? (mark : Char) (cs : List Char) : Option (List Char × List Char) :=
  let count := (cs.takeWhile (· == mark)).length
  if 3 ≤ count then
    let kept := min (count - 3) 2
    some (List.replicate kept mark, cs.drop (kept + 3))
  else none

/-- The rest of a text that spans lines, in the marks given. Line breaks are line feeds. -/
def longText? (mark : Char) : (fuel : Nat) → List Char → Option (List Char × List Char)
  | 0, _ => none
  | fuel + 1, cs =>
    match closing? mark cs with
    | some (kept, rest) => some (kept, rest)
    | none =>
      match cs with
      | [] => none
      | '\n' :: rest => (longText? mark fuel rest).map fun (cs, rest) => ('\n' :: cs, rest)
      | '\r' :: '\n' :: rest => (longText? mark fuel rest).map fun (cs, rest) => ('\n' :: cs, rest)
      | c :: rest =>
        if c = '\\' ∧ mark = '"' then
          match joinLine? rest with
          | some rest => longText? mark fuel rest
          | none => do
            let (c, rest) ← escape? rest
            let (cs, rest) ← longText? mark fuel rest
            some (c :: cs, rest)
        else if isPrintable c then
          (longText? mark fuel rest).map fun (cs, rest) => (c :: cs, rest)
        else none

/-- What comes after a line break, if there is one. -/
def dropBreak : List Char → List Char
  | '\n' :: rest => rest
  | '\r' :: '\n' :: rest => rest
  | cs => cs

/-- A text in quotes or in apostrophes, on one line or on several. -/
def text? : List Char → Option (List Char × List Char)
  | '"' :: '"' :: '"' :: rest => longText? '"' (rest.length + 1) (dropBreak rest)
  | '\'' :: '\'' :: '\'' :: rest => longText? '\'' (rest.length + 1) (dropBreak rest)
  | '"' :: rest => quoted? (rest.length + 1) rest
  | '\'' :: rest => literal? rest
  | _ => none

/-- Digits, with underscores between them taken away. -/
def separated? (isDigit : Char → Bool) : List Char → Option (List Char)
  | [] => none
  | [c] => if isDigit c then some [c] else none
  | c :: '_' :: rest => if isDigit c then (separated? isDigit rest).map (c :: ·) else none
  | c :: rest => if isDigit c then (separated? isDigit rest).map (c :: ·) else none

/-- Decimal digits that do not start with a zero, a single zero apart. -/
def decimal? (cs : List Char) : Option (List Char) :=
  match separated? Char.isDigit cs with
  | some ('0' :: _ :: _) => none
  | ds => ds

/-- A signed 64-bit number. -/
def word? (n : Int) : Option Json := if -Int.pow 2 63 ≤ n ∧ n < Int.pow 2 63 then some (.whole n) else none

/-- A number in a base of its own. -/
def based? (base : Nat) (digit? : Char → Option Nat) (cs : List Char) : Option Json := do
  let ds ← (← separated? (fun c => (digit? c).isSome) cs).mapM digit?
  word? (ds.foldl (fun n d => base * n + d) 0 : Nat)

def digitBelow? (base : Nat) (c : Char) : Option Nat := (hexDigit? c).filter (· < base)

/-- The exponent of a float with the letter in front, or nothing. -/
def exponent? (cs : List Char) : Option (List Char) :=
  match cs with
  | [] => some []
  | e :: rest =>
    if e = 'e' ∨ e = 'E' then
      match rest with
      | '+' :: ds => (separated? Char.isDigit ds).map ('e' :: ·)
      | '-' :: ds => (separated? Char.isDigit ds).map fun ds => 'e' :: '-' :: ds
      | ds => (separated? Char.isDigit ds).map ('e' :: ·)
    else none

/-- A number without a sign, which is given apart. -/
def number? (minus : Bool) (cs : List Char) : Option Json :=
  if cs = "inf".toList ∨ cs = "nan".toList then some .null
  else
    let isPart := fun c : Char => c.isDigit || c == '_'
    let front := cs.takeWhile isPart
    match decimal? front, cs.dropWhile isPart with
    | none, _ => none
    | some ds, [] => (Numeral.int? (String.ofList ds)).bind fun n => word? (if minus then -n else n)
    | some ds, rest => do
      let (back, rest) ← match rest with
        | '.' :: rest => (separated? Char.isDigit (rest.takeWhile isPart)).map fun ds =>
            ('.' :: ds, rest.dropWhile isPart)
        | rest => some ([], rest)
      let e ← exponent? rest
      let x ← Numeral.float? (String.ofList (ds ++ back ++ e))
      if x.isInf ∧ ¬ minus then none else some (.ofFloat (if minus then -x else x))

/-- Two digits below a bound, which may be reached. -/
def twoDigits? (least most : Nat) (a b : Char) : Option (List Char) :=
  if a.isDigit ∧ b.isDigit then
    let n := 10 * (a.toNat - 48) + (b.toNat - 48)
    if least ≤ n ∧ n ≤ most then some [a, b] else none
  else none

/-- The fraction of a second, without zeros at its end and with nine digits at most. -/
def fraction? : List Char → Option (List Char × List Char)
  | '.' :: rest =>
    let ds := rest.takeWhile Char.isDigit
    if ds.isEmpty then none
    else
      let kept := ((ds.take 9).reverse.dropWhile (· == '0')).reverse
      some (if kept.isEmpty then [] else '.' :: kept, rest.dropWhile Char.isDigit)
  | cs => some ([], cs)

/-- A time of day, with what comes after it. -/
def time? : List Char → Option (List Char × List Char)
  | a :: b :: ':' :: c :: d :: ':' :: e :: f :: rest => do
    let hour ← twoDigits? 0 23 a b
    let minute ← twoDigits? 0 59 c d
    let second ← twoDigits? 0 60 e f
    let (fraction, rest) ← fraction? rest
    some (hour ++ ':' :: minute ++ ':' :: second ++ fraction, rest)
  | _ => none

/-- The distance from coordinated time, if there is one. -/
def offset? : List Char → Option (List Char)
  | [] => some []
  | ['z'] | ['Z'] => some ['Z']
  | [sign, a, b, ':', c, d] => do
    let hour ← twoDigits? 0 23 a b
    let minute ← twoDigits? 0 59 c d
    let zero := hour ++ minute == ['0', '0', '0', '0']
    if sign = '+' ∨ (sign = '-' ∧ zero) then some ('+' :: hour ++ ':' :: minute)
    else if sign = '-' then some ('-' :: hour ++ ':' :: minute)
    else none
  | _ => none

/-- A date, with what comes after it. -/
def date? : List Char → Option (List Char × List Char)
  | a :: b :: c :: d :: '-' :: e :: f :: '-' :: g :: h :: rest => do
    let front ← twoDigits? 0 99 a b
    let back ← twoDigits? 0 99 c d
    let month ← twoDigits? 1 12 e f
    let year ← Numeral.int? (String.ofList (front ++ back))
    let number ← Numeral.word? (String.ofList month)
    let day ← twoDigits? 1 (Date.daysInMonth year number) g h
    some (front ++ back ++ '-' :: month ++ '-' :: day, rest)
  | _ => none

/-- A date, a time, or both. -/
def moment? (cs : List Char) : Option Json :=
  match date? cs with
  | some (date, []) => some (.str (String.ofList date))
  | some (date, c :: rest) =>
    if ['T', 't', ' '].contains c then do
      let (time, rest) ← time? rest
      let offset ← offset? rest
      some (.str (String.ofList (date ++ 'T' :: time ++ offset)))
    else none
  | none => match time? cs with
    | some (time, []) => some (.str (String.ofList time))
    | _ => none

/-- A scalar without quotes. -/
def bare? (cs : List Char) : Option Json :=
  if cs = "true".toList then some (.bool true)
  else if cs = "false".toList then some (.bool false)
  else match moment? cs with
    | some v => some v
    | none => match cs with
      | '0' :: 'x' :: ds => based? 16 hexDigit? ds
      | '0' :: 'o' :: ds => based? 8 (digitBelow? 8) ds
      | '0' :: 'b' :: ds => based? 2 (digitBelow? 2) ds
      | '+' :: rest => number? false rest
      | '-' :: rest => number? true rest
      | cs => number? false cs

end BackOffice.Toml
