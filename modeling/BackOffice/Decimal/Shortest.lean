import BackOffice.Decimal.Binary
import BackOffice.Decimal.Rounding

/-!
The shortest decimal that reads back as a given double. The reals that round to a double form an
interval around it; the first decimal grid with a point in it gives the number of digits, and the
point nearest to the double gives the digits.
-/

namespace BackOffice

/-- The value `digits · 10 ^ exponent`. -/
structure Decimal where
  digits : Nat
  exponent : Int
deriving DecidableEq, Repr

namespace Decimal

/-- Decimal digits of a natural number, most significant first. -/
def digitsOf (n : Nat) : List Char := Nat.toDigits 10 n

/-- The same value without zeros at the end of its digits; `fuel` bounds their number. -/
def strip (d : Decimal) : (fuel : Nat) → Decimal
  | 0 => d
  | fuel + 1 =>
    if d.digits % 10 = 0 ∧ d.digits ≠ 0 then strip ⟨d.digits / 10, d.exponent + 1⟩ fuel else d

/-- The exponent of the leading digit of `num / den`, for a positive quotient. -/
def leadExponent (num den : Nat) : Int :=
  let guess : Int := (digitsOf num).length - (digitsOf den).length
  if Nat.pow 10 guess.toNat * den ≤ num * Nat.pow 10 (-guess).toNat then guess else guess - 1

/-- The interval of reals that round to a double, with the double itself, over one denominator. -/
structure Neighbourhood where
  low : Nat
  value : Nat
  high : Nat
  den : Nat
  /-- Whether the ends round to the double too. -/
  closed : Bool

def neighbourhood (b : Binary) : Neighbourhood :=
  let q := Binary.quotient 1 (b.exponent - 2)
  { low := (4 * b.mantissa - if b.narrowBelow then 1 else 2) * q.1
    value := 4 * b.mantissa * q.1
    high := (4 * b.mantissa + 2) * q.1
    den := q.2
    closed := b.mantissa % 2 = 0 }

namespace Neighbourhood

/-- Whether `point / den` lies in the interval scaled by `scale`. -/
def contains (n : Neighbourhood) (scale point : Nat) : Bool :=
  if n.closed then n.low * scale ≤ point && point ≤ n.high * scale
  else n.low * scale < point && point < n.high * scale

/-- The point of the grid of multiples of `10 ^ exponent` that is in the interval and nearest to the
double, if the grid has one there. -/
def gridPoint? (n : Neighbourhood) (tie : Tie) (exponent : Int) : Option Decimal :=
  let scale := Nat.pow 10 (-exponent).toNat
  let step := Nat.pow 10 exponent.toNat * n.den
  let below := n.value * scale / step
  let hit (d : Nat) : Bool := n.contains scale (d * step)
  if hit below && hit (below + 1) then some ⟨roundDiv (n.value * scale) step tie, exponent⟩
  else if hit below then some ⟨below, exponent⟩
  else if hit (below + 1) then some ⟨below + 1, exponent⟩
  else none

end Neighbourhood

/-- The decimal with the fewest digits that reads back as a positive double; of several, the nearest.
Seventeen digits are always enough. -/
def shortest (b : Binary) (tie : Tie) : Decimal :=
  let n := neighbourhood b
  let lead := leadExponent n.value n.den
  let found := (List.range 17).findSome? fun (places : Nat) => n.gridPoint? tie (lead - (places : Int))
  strip (found.getD ⟨n.value / n.den, 0⟩) 20

/-- Digits in positional notation; `point` puts `.0` behind a whole number. -/
def positional (d : Decimal) (point : Bool) : List Char :=
  let ds := digitsOf d.digits
  if 0 ≤ d.exponent then
    ds ++ List.replicate d.exponent.toNat '0' ++ if point then ['.', '0'] else []
  else
    let places := (-d.exponent).toNat
    let padded := List.replicate (places + 1 - ds.length) '0' ++ ds
    let (front, back) := padded.splitAt (padded.length - places)
    front ++ '.' :: back

/-- Digits in scientific notation with a signed exponent: `1e+16`, `1.5e-6`. -/
def scientific (d : Decimal) : List Char :=
  let ds := digitsOf d.digits
  let e : Int := d.exponent + ds.length - 1
  let front := match ds with
    | [one] => [one]
    | first :: rest => first :: '.' :: rest
    | [] => []
  front ++ 'e' :: (if e < 0 then '-' else '+') :: digitsOf e.natAbs

end Decimal

/-- How a double is written. -/
structure FloatLayout where
  /-- The exponents of the leading digit that are written without an exponent; all, if none given. -/
  plain : Option (Int × Int)
  /-- Whether whole numbers keep `.0`. -/
  point : Bool
  tie : Tie

namespace FloatLayout

/-- The fewest digits that read back, from `1e-5` up to `1e15` without an exponent. -/
def json : FloatLayout := ⟨some (-5, 15), true, .toEven⟩

/-- The fewest digits that read back, never with an exponent. -/
def plainText : FloatLayout := ⟨none, false, .away⟩

def magnitude (layout : FloatLayout) (b : Binary) : List Char :=
  if b.mantissa = 0 then if layout.point then ['0', '.', '0'] else ['0']
  else
    let d := Decimal.shortest b layout.tie
    let lead : Int := d.exponent + (Decimal.digitsOf d.digits).length - 1
    match layout.plain with
    | none => d.positional layout.point
    | some (low, high) => if low ≤ lead ∧ lead ≤ high then d.positional layout.point else d.scientific

/-- The text of a double. -/
def write (layout : FloatLayout) (x : Float) : List Char :=
  if x.isNaN then ['N', 'a', 'N']
  else
    let sign := if Binary.isNegative x then ['-'] else []
    sign ++ if x.isInf then ['i', 'n', 'f'] else layout.magnitude (Binary.ofFloat x)

end FloatLayout

end BackOffice
