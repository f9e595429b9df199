import BackOffice.Keyed

/-!
Values under names, where several names may stand for one value: a change made under one name is seen
under all names that share it.
-/

namespace BackOffice

/-- Values under names that may be shared. -/
structure Shared (α : Type) where
  /-- The place of the value that a name stands for. -/
  names : Keyed Nat := []
  cells : List α := []
deriving Inhabited

namespace Shared

variable {α : Type}

/-- The place of a name. -/
def place? (s : Shared α) (name : String) : Option Nat := s.names.find? name

/-- The value at a place. -/
def cell? (s : Shared α) (place : Nat) : Option α := s.cells[place]?

/-- The value under a name. -/
def get? (s : Shared α) (name : String) : Option α := (s.place? name).bind s.cell?

/-- Puts a value at a new place, which comes with it. -/
def alloc (s : Shared α) (v : α) : Nat × Shared α := (s.cells.length, { s with cells := s.cells ++ [v] })

/-- Lets a name stand for the value at a place. -/
def bind (s : Shared α) (name : String) (place : Nat) : Shared α :=
  { s with names := s.names.put name place }

/-- A value of its own under a name. -/
def insert (s : Shared α) (name : String) (v : α) : Shared α :=
  let (place, s) := s.alloc v
  s.bind name place

/-- Changes the value at a place. -/
def set (s : Shared α) (place : Nat) (v : α) : Shared α := { s with cells := s.cells.set place v }

theorem cell?_set_of_ne (s : Shared α) {p q : Nat} (v : α) (h : q ≠ p) :
    (s.set p v).cell? q = s.cell? q := by
  simp [set, cell?, List.getElem?_set_ne h.symm]

end Shared

end BackOffice
