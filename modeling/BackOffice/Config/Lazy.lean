import BackOffice.Config.Resolved

/-!
Configuration carried as text and resolved when it is first asked for. A copy takes the state of its
model along; only text and declared shape count for equality.
-/

namespace BackOffice

/-- A configuration that is resolved on demand. -/
structure LazyConfig where
  raw : Option String
  shape : ConfigShape
  /-- The resolved form, once it has been asked for. -/
  resolved? : Option Config := none

namespace LazyConfig

/-- The configuration with this text. -/
def ofText (shape : ConfigShape) (raw : Option String) : LazyConfig := { raw, shape }

instance : Inhabited LazyConfig := ⟨ofText .object none⟩

/-- A configuration that arrived as a value keeps the text of that value; a text stays as it is, and
null is no text. -/
def ofJson (v : Json) : LazyConfig :=
  match v with
  | .null => ofText .object none
  | .str s => ofText .object (some s)
  | v => ofText .object (some v.text)

/-- The configuration under another declared shape, to be resolved anew. -/
def withShape (c : LazyConfig) (shape : ConfigShape) : LazyConfig := ofText shape c.raw

/-- What the text resolves to. -/
def resolved (c : LazyConfig) : Config := c.resolved?.getD (Config.ofText? c.shape c.raw)

/-- The configuration after it has been asked for. -/
def resolve (c : LazyConfig) : LazyConfig := { c with resolved? := some c.resolved }

def isResolved (c : LazyConfig) : Bool := c.resolved?.isSome

def value (c : LazyConfig) : Json := c.resolved.value

/-- Equality of text and declared shape. -/
def same (a b : LazyConfig) : Bool := a.raw == b.raw && a.shape == b.shape

/-- The text, or null. -/
def toJson (c : LazyConfig) : Json := Json.ofText? c.raw

/-- The value read as a structure; the default if it is none. -/
def decode {α : Type} (c : LazyConfig) (read? : Json → Option α) (default : α) : α :=
  (read? c.value).getD default

theorem resolved_resolve (c : LazyConfig) : c.resolve.resolved = c.resolved := rfl

end LazyConfig

end BackOffice
