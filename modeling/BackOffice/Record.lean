import BackOffice.Json.Value

/-!
Reading a structure out of a JSON value. An object gives the fields by name, where a field may have
more than one; members that belong to no field are passed over, and a field given twice is a mistake.
An array gives the fields by position; it may end early, but must not be too long. No value is
converted: a text is no number and a float no whole number.
-/

namespace BackOffice.Record

/-- The names under which a field may come. -/
abbrev Names := List String

/-- Puts each member's value into the slot of the field that it names. -/
def fill (fields : List Names) : Keyed Json → List (Option Json) → Option (List (Option Json))
  | [], slots => some slots
  | (key, v) :: rest, slots =>
    match fields.findIdx? (·.contains key) with
    | none => fill fields rest slots
    | some i => match slots[i]? with
      | some none => fill fields rest (slots.set i (some v))
      | _ => none

/-- The values of the fields, in the order of their declaration. -/
def slots (fields : List Names) : Json → Option (List (Option Json))
  | .obj members => fill fields members (List.replicate fields.length none)
  | .arr items =>
    if items.length ≤ fields.length then
      some (items.map some ++ List.replicate (fields.length - items.length) none)
    else none
  | _ => none

theorem mem_of_fill {fields : List Names} {members : Keyed Json} {slots out : List (Option Json)}
    (h : fill fields members slots = some out) {v : Json} (hv : some v ∈ out) :
    some v ∈ slots ∨ ∃ key, (key, v) ∈ members := by
  induction members generalizing slots with
  | nil =>
    simp only [fill, Option.some.injEq] at h
    exact .inl (h ▸ hv)
  | cons entry rest ih =>
    obtain ⟨key, w⟩ := entry
    simp only [fill] at h
    split at h
    · exact (ih h).imp id fun ⟨k, hk⟩ => ⟨k, List.mem_cons_of_mem _ hk⟩
    · split at h
      · rcases ih h with hm | ⟨k, hk⟩
        · rcases List.mem_or_eq_of_mem_set hm with hm | he
          · exact .inl hm
          · exact .inr ⟨key, by simp [Option.some.inj he]⟩
        · exact .inr ⟨k, List.mem_cons_of_mem _ hk⟩
      · simp at h

/-- The values of the fields are parts of the value that they are read from. -/
theorem sizeOf_lt_of_slots {fields : List Names} {v w : Json} {out : List (Option Json)}
    (h : slots fields v = some out) (hw : some w ∈ out) : sizeOf w < sizeOf v := by
  cases v with
  | obj members =>
    rcases mem_of_fill h hw with hm | ⟨key, hm⟩
    · simp [List.mem_replicate] at hm
    · have := List.sizeOf_lt_of_mem hm
      simp only [Prod.mk.sizeOf_spec, Json.obj.sizeOf_spec] at this ⊢
      omega
  | arr items =>
    simp only [slots] at h
    split at h
    · simp only [Option.some.injEq] at h
      subst h
      have hm : w ∈ items := by simpa [List.mem_replicate] using hw
      have := List.sizeOf_lt_of_mem hm
      simp only [Json.arr.sizeOf_spec]
      omega
    · simp at h
  | _ => simp [slots] at h

/-- The items of an array are parts of it. -/
theorem sizeOf_lt_of_items? {v w : Json} {items : List Json} (h : v.items? = some items)
    (hw : w ∈ items) : sizeOf w < sizeOf v := by
  cases v <;> simp only [Json.items?, Option.some.injEq, reduceCtorEq] at h
  subst h
  have := List.sizeOf_lt_of_mem hw
  simp only [Json.arr.sizeOf_spec]
  omega

/-- Whether an object has more than one member for the same field. -/
def repeats (fields : List Names) (v : Json) : Bool :=
  match v.members? with
  | none => false
  | some members => fields.any fun names => 1 < (members.filter (names.contains ·.1)).length

variable {α : Type}

/-- A field that has to be there. -/
def required (read? : Json → Option α) (slot : Option Json) : Option α := slot.bind read?

/-- A field with a value to take if it is not there. -/
def defaulted (read? : Json → Option α) (default : α) : Option Json → Option α
  | none => some default
  | some v => read? v

/-- A field that may be absent or null. -/
def optional (read? : Json → Option α) : Option Json → Option (Option α)
  | none => some none
  | some .null => some none
  | some v => (read? v).map some

def bool? : Json → Option Bool
  | .bool b => some b
  | _ => none

/-- The items of an array, each read the same way; all have to be readable. -/
def list? (read? : Json → Option α) : Json → Option (List α)
  | .arr items => items.mapM read?
  | _ => none

/-- A unit named by a text, or by an object whose only member is null. -/
def unit? (table : List (String × α)) : Json → Option α
  | .str s => table.lookup s
  | .obj [(key, .null)] => table.lookup key
  | _ => none

end BackOffice.Record
