/-!
The exact value of a double, as a whole number of a power of two, and as a quotient of two natural
numbers.
-/

namespace BackOffice

/-- The magnitude `mantissa · 2 ^ exponent` of a finite double. -/
structure Binary where
  mantissa : Nat
  exponent : Int
deriving DecidableEq, Repr

namespace Binary

/-- The magnitude of a finite double, read off its bits. -/
def ofFloat (x : Float) : Binary :=
  let bits := x.toBits.toNat
  let scale : Nat := bits / Nat.pow 2 52 % Nat.pow 2 11
  let fraction : Nat := bits % Nat.pow 2 52
  if scale = 0 then ⟨fraction, -1074⟩ else ⟨Nat.pow 2 52 + fraction, (scale : Int) - 1075⟩

/-- Whether the sign bit is set; it is for `-0.0`. -/
def isNegative (x : Float) : Bool := x.toBits.toNat / Nat.pow 2 63 = 1

/-- Whether the double below is nearer than the one above: at a power of two, unless it is the
smallest exponent there is. -/
def narrowBelow (b : Binary) : Bool := b.mantissa = Nat.pow 2 52 && b.exponent ≠ -1074

/-- `mantissa · 2 ^ exponent` as a quotient. -/
def quotient (mantissa : Nat) (exponent : Int) : Nat × Nat :=
  (mantissa * Nat.pow 2 exponent.toNat, Nat.pow 2 (-exponent).toNat)

end Binary

end BackOffice
