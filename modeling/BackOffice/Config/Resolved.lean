import BackOffice.Json.Parser
import BackOffice.Json.Printer
import BackOffice.Text.Blank
import BackOffice.Decimal.Reading

/-!
Configuration that is never trusted. It may come as a value, as the text of one, or as the text of such
a text; what cannot be used becomes the empty value of the declared shape, with the fault beside it.
-/

namespace BackOffice

/-- The declared shape of a configuration. -/
inductive ConfigShape where
  | object
  | array
deriving DecidableEq, Repr

namespace ConfigShape

/-- The empty value of a shape. -/
def empty : ConfigShape → Json
  | object => .obj []
  | array => .arr []

def accepts : ConfigShape → Json → Bool
  | object, .obj _ => true
  | array, .arr _ => true
  | _, _ => false

def name : ConfigShape → String
  | object => "Object"
  | array => "Array"

end ConfigShape

/-- Why a configuration could not be used. -/
inductive ConfigFault where
  | malformed
  | wrongShape (expected : ConfigShape) (found : String)
deriving DecidableEq, Repr

namespace ConfigFault

def message : ConfigFault → String
  | malformed => "malformed JSON"
  | wrongShape expected found => s!"expected {expected.name}, found {found}"

end ConfigFault

/-- The kind of a value, by name. -/
def Json.kindName : Json → String
  | .null => "null"
  | .bool _ => "boolean"
  | .num _ => "number"
  | .str _ => "string"
  | .arr _ => "array"
  | .obj _ => "object"

/-- A resolved configuration. -/
structure Config where
  value : Json
  fault : Option ConfigFault

namespace Config

/-- The empty configuration of a shape, nothing wrong with it. -/
def empty (shape : ConfigShape) : Config := ⟨shape.empty, none⟩

instance : Inhabited Config := ⟨empty .object⟩

/-- The empty configuration that stands for one that could not be used. -/
def rejected (shape : ConfigShape) (fault : ConfigFault) : Config := ⟨shape.empty, some fault⟩

/-- A value that is no text, as a configuration of a shape; null is the empty one. -/
def ofDecoded (shape : ConfigShape) (v : Json) : Config :=
  if v.isNull then empty shape
  else if shape.accepts v then ⟨v, none⟩
  else rejected shape (.wrongShape shape v.kindName)

theorem length_trim_le (text : String) : (trim text).length ≤ text.length := by
  have h₁ : (trimFront text.toList).length ≤ text.toList.length := (List.dropWhile_suffix _).length_le
  have h₂ : (trimBack (trimFront text.toList)).length ≤ (trimFront text.toList).length := by
    simpa [trimBack] using
      (List.dropWhile_suffix (l := (trimFront text.toList).reverse) isBlank).length_le
  simp only [trim, String.length_ofList]
  have := String.length_toList (s := text)
  omega

/-- Resolves a text. Blank text and `null` are the empty configuration; a text inside the text is
resolved in its place. -/
def ofText (shape : ConfigShape) (text : String) : Config :=
  if trim text = "" ∨ trim text = "null" then empty shape
  else match h : Json.parse (trim text) with
    | none => rejected shape .malformed
    | some (.str inner) =>
      have : inner.length < text.length :=
        Nat.lt_of_lt_of_le (Json.length_of_parse h) (length_trim_le text)
      ofText shape inner
    | some v => ofDecoded shape v
termination_by text.length

/-- Resolves a value; a text is read first. -/
def ofJson (shape : ConfigShape) : Json → Config
  | .str text => ofText shape text
  | v => ofDecoded shape v

/-- Resolves a text that may be absent. -/
def ofText? (shape : ConfigShape) : Option String → Config
  | none => empty shape
  | some text => ofText shape text

/-- Whether the value stands in for one that could not be used. -/
def isRejected (c : Config) : Bool := c.fault.isSome

def get? (c : Config) (key : String) : Option Json := c.value.member? key

def text? (c : Config) (key : String) : Option String := (c.get? key).bind Json.text?

/-- A number, or the numeral of one with white space around it. -/
def float? (c : Config) (key : String) : Option Float :=
  match c.get? key with
  | some (.num n) => some n.toFloat
  | some (.str s) => Numeral.float? (trim s)
  | _ => none

end Config

end BackOffice
