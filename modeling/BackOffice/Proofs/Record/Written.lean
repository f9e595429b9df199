import BackOffice.Record
import Mathlib.Data.List.Basic

/-!
Reading back what was written. A structure is written as an object with a member for each field that has a value,
under one of the field's names and in the order of the fields; such an object gives each field its value back.
-/

namespace BackOffice.Record

variable {fields : List Names}

/-- The members under some names, as far as they have values. -/
def written (names : List String) (values : List (Option Json)) : Keyed Json :=
  (names.zip values).filterMap fun e => e.2.map (e.1, ·)

/-- Whether names are one of each field's, in the order of the fields. -/
def NamesOf (fields : List Names) (names : List String) : Prop :=
  names.map (fun name => fields.findIdx? (·.contains name)) = (List.range fields.length).map some

instance (fields : List Names) (names : List String) : Decidable (NamesOf fields names) :=
  inferInstanceAs (Decidable (_ = _))

/-- Members written for the fields behind those that are filled fill them too. -/
theorem fill_written (front : List (Option Json)) {names : List String} {values : List (Option Json)}
    (hlength : names.length = values.length)
    (h : ∀ i name, names[i]? = some name → fields.findIdx? (·.contains name) = some (front.length + i)) :
    fill fields (written names values) (front ++ List.replicate values.length none) = some (front ++ values) := by
  induction names generalizing front values with
  | nil =>
    obtain rfl := List.length_eq_zero_iff.1 hlength.symm
    rfl
  | cons name more ih =>
    obtain - | ⟨slot, rest⟩ := values
    · cases hlength
    have hhead := h 0 name rfl
    have hrest := ih (front ++ [slot]) (Nat.succ.inj hlength) fun i other hother => by
      rw [h (i + 1) other (by simpa using hother), List.length_append, List.length_singleton]
      congr 1
      omega
    cases slot with
    | none => simpa [written, List.replicate_succ] using hrest
    | some v =>
      have hfree : (front ++ List.replicate (rest.length + 1) (none : Option Json))[front.length]? = some none := by
        simp
      have hset : (front ++ List.replicate (rest.length + 1) (none : Option Json)).set front.length (some v) =
          front ++ [some v] ++ List.replicate rest.length none := by
        simp [List.replicate_succ]
      simp only [written, List.zip_cons_cons, List.filterMap_cons, Option.map_some, List.length_cons]
      rw [fill, hhead]
      simp only [Nat.add_zero, hfree]
      rw [hset, ← written, hrest, List.append_assoc]
      rfl

/-- An object that was written for the fields of a structure gives each of them its value back. -/
theorem slots_written {names : List String} {values : List (Option Json)} (h : NamesOf fields names)
    (hlength : names.length = values.length) : slots fields (.obj (written names values)) = some values := by
  have hfields : fields.length = values.length := by
    rw [← hlength]
    simpa [NamesOf] using (congrArg List.length h).symm
  rw [slots, hfields]
  refine fill_written [] hlength fun i name hname => ?_
  have hlt : i < fields.length := by
    rw [hfields, ← hlength]
    exact (List.getElem?_eq_some_iff.1 hname).1
  have hat := congrArg (·[i]?) h
  simp only [List.getElem?_map, hname, List.getElem?_range hlt, Option.map_some, Option.some.injEq] at hat
  rw [hat, List.length_nil, Nat.zero_add]

/-! ### Single fields -/

variable {α : Type}

theorem optional_map (read? : Json → Option α) (write : α → Json) (h : ∀ a, read? (write a) = some a)
    (hnull : ∀ a, write a ≠ .null) (slot : Option α) : optional read? (slot.map write) = some slot := by
  cases slot with
  | none => rfl
  | some a =>
    have ha := h a
    rw [Option.map_some]
    unfold optional
    split
    · contradiction
    next heq => exact absurd (Option.some.inj heq) (hnull a)
    next heq =>
      obtain rfl := Option.some.inj heq
      rw [ha]
      rfl

theorem list?_map {read? : Json → Option α} {write : α → Json} {as : List α} (h : ∀ a ∈ as, read? (write a) = some a) :
    list? read? (.arr (as.map write)) = some as := by
  rw [list?, List.mapM_map]
  induction as with
  | nil => rfl
  | cons a rest ih =>
    rw [List.forall_mem_cons] at h
    have hrest := ih h.2
    simp only [List.mapM_cons, Function.comp_apply, h.1, hrest]
    rfl

/-- What is read of a list is read of its items, place by place. -/
theorem exists_of_getElem?_mapM {read? : Json → Option α} {items : List Json} {as : List α}
    (h : items.mapM read? = some as) {i : Nat} {a : α} (ha : as[i]? = some a) :
    ∃ v, items[i]? = some v ∧ read? v = some a := by
  induction items generalizing as i with
  | nil =>
    obtain rfl := Option.some.inj h
    cases ha
  | cons v rest ih =>
    simp only [List.mapM_cons, Option.bind_eq_bind, Option.bind_eq_some_iff, Option.pure_def, Option.some.injEq] at h
    obtain ⟨first, hfirst, more, hmore, rfl⟩ := h
    cases i with
    | zero =>
      obtain rfl := Option.some.inj ha
      exact ⟨v, rfl, hfirst⟩
    | succ i => exact ih hmore ha

theorem exists_of_mem_mapM {read? : Json → Option α} {items : List Json} {as : List α}
    (h : items.mapM read? = some as) {a : α} (ha : a ∈ as) : ∃ v ∈ items, read? v = some a := by
  obtain ⟨i, hi⟩ := List.mem_iff_getElem?.1 ha
  obtain ⟨v, hv, hread⟩ := exists_of_getElem?_mapM h hi
  exact ⟨v, List.mem_of_getElem? hv, hread⟩

end BackOffice.Record
