/-!
Values under names, in the order in which the names first came. Writing under a name that is already
there keeps its place; objects, workflow graphs and contexts are all kept this way.
-/

namespace BackOffice

/-- Values under names, in the order in which the names first came. -/
abbrev Keyed (α : Type) := List (String × α)

namespace Keyed

variable {α β : Type}

/-- The names, in order. -/
def keys (entries : Keyed α) : List String := entries.map Prod.fst

/-- The value under a name. -/
def find? (entries : Keyed α) (key : String) : Option α := entries.lookup key

/-- Stores a value under a name: in the name's place, or at the end if it is new. -/
def put : Keyed α → String → α → Keyed α
  | [], key, value => [(key, value)]
  | (k, v) :: rest, key, value => if k = key then (key, value) :: rest else (k, v) :: put rest key value

/-- Removes a name with its value. -/
def erase (entries : Keyed α) (key : String) : Keyed α := entries.filter fun entry => entry.1 ≠ key

/-- Stores a list of entries, one after another. -/
def putAll (entries : Keyed α) (more : List (String × α)) : Keyed α :=
  more.foldl (fun acc entry => put acc entry.1 entry.2) entries

/-- Applies a function to every value. -/
def mapValues (f : α → β) (entries : Keyed α) : Keyed β := entries.map fun entry => (entry.1, f entry.2)

/-- The entries ordered by name, by code points. -/
def sorted (entries : Keyed α) : Keyed α := entries.mergeSort fun a b => decide (a.1 ≤ b.1)

theorem find?_put_self (entries : Keyed α) (key : String) (value : α) :
    find? (put entries key value) key = some value := by
  induction entries with
  | nil => simp [put, find?]
  | cons entry rest ih =>
    obtain ⟨k, v⟩ := entry
    by_cases h : k = key
    · simp [put, find?, h]
    · have hk : (key == k) = false := by simpa using fun e => h e.symm
      simpa [put, find?, h, List.lookup_cons, hk] using ih

theorem find?_put_of_ne (entries : Keyed α) {key other : String} (value : α) (h : other ≠ key) :
    find? (put entries key value) other = find? entries other := by
  have ho : (other == key) = false := by simpa using h
  induction entries with
  | nil => simp [put, find?, List.lookup_cons, ho]
  | cons entry rest ih =>
    obtain ⟨k, v⟩ := entry
    by_cases hk : k = key
    · simp [put, find?, hk, List.lookup_cons, ho]
    · by_cases hok : other = k
      · simp [put, find?, hk, hok]
      · have : (other == k) = false := by simpa using hok
        simpa [put, find?, hk, List.lookup_cons, this] using ih

theorem find?_eq_none_iff {entries : Keyed α} {key : String} :
    find? entries key = none ↔ key ∉ keys entries := by
  rw [find?, List.lookup_eq_none_iff, keys, List.mem_map]
  constructor
  · rintro h ⟨e, he, rfl⟩
    simpa using h e he
  · intro h e he
    simpa using fun heq : key = e.1 => h ⟨e, he, heq.symm⟩

end Keyed

end BackOffice
