import BackOffice.Keyed

/-!
JSON values. Whole numbers and floats are numbers of different kinds, so `1` and `1.0` differ; an
object keeps its members in the order in which they came, and two objects are equal when they hold
equal members, in whatever order.
-/

namespace BackOffice

/-- A JSON number: a whole number or a float. -/
inductive JsonNumber where
  | whole (n : Int)
  | float (x : Float)
deriving DecidableEq

/-- A JSON value. -/
inductive Json where
  | null
  | bool (b : Bool)
  | num (n : JsonNumber)
  | str (s : String)
  | arr (items : List Json)
  | obj (members : List (String × Json))
deriving Inhabited

namespace JsonNumber

/-- Whole numbers of one value, or floats that compare equal: `-0.0` and `0.0` do. -/
def same : JsonNumber → JsonNumber → Bool
  | whole a, whole b => a == b
  | float a, float b => a == b
  | _, _ => false

/-- The number as a double, a whole number rounded to the nearest. -/
def toFloat : JsonNumber → Float
  | whole n => Float.ofInt n
  | float x => x

end JsonNumber

namespace Json

/-- The whole number `n`. -/
def whole (n : Int) : Json := num (.whole n)

/-- A count or an index. -/
def ofNat (n : Nat) : Json := whole n

/-- A float, if it is finite; JSON has no text for the others. -/
def ofFloat (x : Float) : Json := if x.isFinite then num (.float x) else null

/-- The text, or null. -/
def ofText? : Option String → Json
  | some s => str s
  | none => null

def isNull : Json → Bool
  | null => true
  | _ => false

def text? : Json → Option String
  | str s => some s
  | _ => none

def items? : Json → Option (List Json)
  | arr items => some items
  | _ => none

def members? : Json → Option (Keyed Json)
  | obj members => some members
  | _ => none

/-- A whole number below 2^64 that is not negative. -/
def nat? : Json → Option Nat
  | num (.whole n) => if 0 ≤ n then some n.toNat else none
  | _ => none

/-- The member of an object under a name. -/
def member? (v : Json) (key : String) : Option Json := v.members?.bind (Keyed.find? · key)

mutual

/-- Equality of values: numbers by kind and value, objects in any order. -/
def same : Json → Json → Bool
  | null, null => true
  | bool a, bool b => a == b
  | num a, num b => a.same b
  | str a, str b => a == b
  | arr a, arr b => sameItems a b
  | obj a, obj b => a.length == b.length && sameMembers a b
  | _, _ => false

def sameItems : List Json → List Json → Bool
  | [], [] => true
  | a :: as, b :: bs => same a b && sameItems as bs
  | _, _ => false

/-- Every member of the first list has an equal one in the second. -/
def sameMembers : List (String × Json) → List (String × Json) → Bool
  | [], _ => true
  | (key, a) :: rest, other =>
    match other.lookup key with
    | some b => same a b && sameMembers rest other
    | none => false

end

end Json

end BackOffice
