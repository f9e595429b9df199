import BackOffice.Json.Value
import BackOffice.Decimal.Reading

/-!
Dot paths into JSON values: `user.name`, `rows.0.id`.
-/

namespace BackOffice

/-- The segments of a path: the runs of characters between its marks, of which there is always one. -/
def segmentsOf (mark : Char) : List Char → List (List Char)
  | [] => [[]]
  | c :: rest =>
    if c = mark then [] :: segmentsOf mark rest
    else match segmentsOf mark rest with
      | [] => [[c]]
      | first :: more => (c :: first) :: more

namespace Json

/-- The member of an object under a name, or the item of an array at an index. -/
def child? (v : Json) (segment : String) : Option Json :=
  match v with
  | obj members => Keyed.find? members segment
  | arr items => (Numeral.word? segment).bind fun i => items[i]?
  | _ => none

/-- Walks along segments. -/
def walk? (v : Json) : List String → Option Json
  | [] => some v
  | segment :: rest => (v.child? segment).bind (·.walk? rest)

/-- The value at a dot path; the empty path leads to the value itself. -/
def path? (v : Json) (path : String) : Option Json :=
  if path = "" then some v else v.walk? ((segmentsOf '.' path.toList).map String.ofList)

theorem walk?_append (v : Json) (front back : List String) :
    v.walk? (front ++ back) = (v.walk? front).bind (·.walk? back) := by
  induction front generalizing v with
  | nil => rfl
  | cons segment rest ih => cases h : v.child? segment <;> simp [walk?, h, ih]

end Json

end BackOffice
