import BackOffice.Decimal.Shortest

/-!
A double with a fixed number of decimal places, rounded from its exact value, a half to the even
neighbour.
-/

namespace BackOffice

/-- The text of a double with `places` decimals: `0.125` with two is `0.12`. -/
def fixedText (places : Nat) (x : Float) : List Char :=
  if x.isFinite then
    let b := Binary.ofFloat x
    let q := Binary.quotient b.mantissa b.exponent
    let digits := roundDiv (q.1 * Nat.pow 10 places) q.2 .toEven
    let sign := if Binary.isNegative x then ['-'] else []
    sign ++ Decimal.positional ⟨digits, -(places : Int)⟩ false
  else FloatLayout.plainText.write x

end BackOffice
