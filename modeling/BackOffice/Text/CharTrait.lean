import BackOffice.Text.CharSet

/-!
Traits of characters, as tables give them: by names, and by what their characters are made of.
-/

namespace BackOffice

/-- A trait of characters. Its characters are those of the traits that it takes without those of the
traits that it leaves, and some more, without some others. -/
structure CharTrait where
  names : List String
  takes : List String := []
  leaves : List String := []
  more : List String := []
  less : List String := []

namespace CharTrait

/-- A trait whose characters are listed. -/
def listed (names : List String) (more : List String) : CharTrait := { names, more }

/-- The trait with a name. -/
def find? (traits : List CharTrait) (name : String) : Option CharTrait :=
  traits.find? (·.names.contains name)

/-- The characters of a trait, which is made of others up to a depth. -/
def chars (traits : List CharTrait) : (depth : Nat) → CharTrait → CharSet
  | 0, _ => .empty
  | depth + 1, t =>
    let named (names : List String) : CharSet :=
      .unions (names.map fun name => ((find? traits name).map (chars traits depth)).getD .empty)
    let made := (named t.takes).diff (named t.leaves)
    (made.union (.ofLines t.more)).diff (.ofLines t.less)

end CharTrait

end BackOffice
