/-!
Rounding a quotient of natural numbers to a natural number.
-/

namespace BackOffice

/-- Where a value halfway between two neighbours goes. -/
inductive Tie where
  | toEven
  | away
deriving DecidableEq

/-- The natural number nearest to `num / den`. -/
def roundDiv (num den : Nat) (tie : Tie) : Nat :=
  let below := num / den
  let rest := 2 * (num % den)
  if rest < den then below
  else if den < rest then below + 1
  else match tie with
    | .toEven => if below % 2 = 0 then below else below + 1
    | .away => below + 1

theorem roundDiv_mul (n den : Nat) (h : 0 < den) (tie : Tie) : roundDiv (n * den) den tie = n := by
  simp [roundDiv, Nat.mul_div_cancel _ h, h]

end BackOffice
