/-!
Sets of characters given as ranges of code points, and maps given as shifted ranges.
-/

namespace BackOffice

/-- Whether a character lies in one of the ranges, ends included. -/
def inRanges (ranges : List (Nat × Nat)) (c : Char) : Bool :=
  ranges.any fun r => r.1 ≤ c.toNat && c.toNat ≤ r.2

/-- Every `step`-th code point from `first` to `last` goes to the one `offset` further. -/
structure Shift where
  first : Nat
  last : Nat
  step : Nat
  offset : Int

namespace Shift

def covers (s : Shift) (code : Nat) : Bool :=
  s.first ≤ code && code ≤ s.last && (code - s.first) % s.step == 0

/-- The code points that change. -/
def codes (s : Shift) : List Nat :=
  (List.range ((s.last - s.first) / s.step + 1)).map fun i => s.first + i * s.step

/-- The image of a character under the first range that covers it; others stay. -/
def apply (shifts : List Shift) (c : Char) : Char :=
  match shifts.find? (·.covers c.toNat) with
  | some s => Char.ofNat (c.toNat + s.offset).toNat
  | none => c

/-- The characters that go to a given one, itself included. -/
def preimage (shifts : List Shift) (c : Char) : List Char :=
  c :: shifts.filterMap fun s =>
    let code := (c.toNat - s.offset : Int)
    if 0 ≤ code ∧ s.covers code.toNat then some (Char.ofNat code.toNat) else none

end Shift

end BackOffice
