import BackOffice.Json.Path
import BackOffice.Text.LowerCase

/-!
The values that a run hands from step to step. The last write of a key counts. Every write is noted in
a journal, so that what was written on a copy can be written again elsewhere.
-/

namespace BackOffice

/-- One write of a value under a key. -/
abbrev Write := String × Json

/-- Values by key, with the journal of writes. -/
structure Context where
  values : Keyed Json := []
  journal : List Write := []
deriving Inhabited

namespace Context

/-- The values of an object, with an empty journal; anything else has none. -/
def ofJson (v : Json) : Context := ⟨(v.members?.getD []).foldl (fun acc m => acc.put m.1 m.2) [], []⟩

/-- The value under a key, or else, for a key with dots, the value at the path behind its first dot in
the entry before that dot. -/
def get? (c : Context) (key : String) : Option Json :=
  match c.values.find? key with
  | some v => some v
  | none => match splitAtFirst '.' key.toList with
    | none => none
    | some (head, rest) =>
      (c.values.find? (String.ofList head)).bind (·.path? (String.ofList rest))

/-- Whether a key leads to a value other than null. -/
def has (c : Context) (key : String) : Bool := (c.get? key).any (!·.isNull)

/-- Writes a value and notes the write. -/
def set (c : Context) (key : String) (v : Json) : Context :=
  ⟨c.values.put key v, c.journal ++ [(key, v)]⟩

/-- Removes a value, which is not noted. -/
def remove (c : Context) (key : String) : Context := { c with values := c.values.erase key }

def size (c : Context) : Nat := c.values.length

/-- The keys by code points. -/
def keys (c : Context) : List String := c.values.sorted.keys

/-- The number of writes noted. -/
def mark (c : Context) : Nat := c.journal.length

/-- The writes noted since a mark. -/
def writesSince (c : Context) (mark : Nat) : List Write := c.journal.drop mark

def clearJournal (c : Context) : Context := { c with journal := [] }

/-- The same values with an empty journal. -/
def snapshot (c : Context) : Context := { values := c.values }

/-- Makes writes, one after another. -/
def apply (c : Context) (writes : List Write) : Context :=
  writes.foldl (fun c w => c.set w.1 w.2) c

/-- Equality of values, whatever the journals say. -/
def same (a b : Context) : Bool := (Json.obj a.values).same (.obj b.values)

/-- The values as an object, ordered by key. -/
def toJson (c : Context) : Json := .obj c.values.sorted

theorem values_apply (c : Context) (writes : List Write) :
    (c.apply writes).values = c.values.putAll writes := by
  induction writes generalizing c with
  | nil => rfl
  | cons w rest ih => exact ih (c.set w.1 w.2)

theorem journal_apply (c : Context) (writes : List Write) :
    (c.apply writes).journal = c.journal ++ writes := by
  induction writes generalizing c with
  | nil => simp [apply]
  | cons w rest ih =>
    have := ih (c.set w.1 w.2)
    simpa [apply, set] using this

end Context

end BackOffice
