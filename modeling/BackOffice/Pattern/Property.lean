import BackOffice.Text.AgeTable
import BackOffice.Text.BreakTable
import BackOffice.Text.CategoryTable
import BackOffice.Text.ScriptTable
import BackOffice.Text.TraitTable

/-!
The properties of characters that patterns name. Names are compared without case, blanks, underscores,
hyphens and characters beyond ASCII, and with or without `is` in front.
-/

namespace BackOffice.CharProperty

/-- The traits that go by one name. -/
def traits : List CharTrait :=
  TraitTable.traits ++ CategoryTable.categories ++ ScriptTable.scripts

/-- The characters of the trait with a name in a list; traits are made of others at most six deep. -/
def named? (list : List CharTrait) (name : String) : Option CharSet :=
  (CharTrait.find? list name).map (CharTrait.chars traits 8)

/-- Whether a name begins with `is`. -/
def hasIs : List Char → Bool
  | a :: b :: _ => a.toLower == 'i' && b.toLower == 's'
  | _ => false

/-- A name as it is compared. `isc` is a name of its own, and not the category `c`. -/
def plainName (name : List Char) : String :=
  let rest := if hasIs name then name.drop 2 else name
  let plain := (rest.filter fun c => c.toNat < 128 && !" _-".toList.contains c).map Char.toLower
  if hasIs name && plain == ['c'] then "isc" else String.ofList plain

/-- The property with a name. -/
def get? (name : List Char) : Option CharSet := named? traits (plainName name)

/-- The characters that were there when an edition of the character set came out. -/
def age? (name : String) : Option CharSet :=
  let before := AgeTable.ages.takeWhile fun t => !t.names.contains name
  (AgeTable.ages[before.length]?).map fun last =>
    .unions ((before ++ [last]).map fun t => .ofLines t.more)

/-- The property with a value. -/
def getValue? (name value : List Char) : Option CharSet :=
  let value := plainName value
  match plainName name with
  | "gc" | "generalcategory" => named? CategoryTable.categories value
  | "sc" | "script" => named? ScriptTable.scripts value
  | "scx" | "scriptextensions" =>
    named? ScriptTable.uses value <|> named? ScriptTable.scripts value
  | "age" => age? value
  | "gcb" | "graphemeclusterbreak" => named? BreakTable.graphemes value
  | "wb" | "wordbreak" => named? BreakTable.words value
  | "sb" | "sentencebreak" => named? BreakTable.sentences value
  | _ => none

end BackOffice.CharProperty
