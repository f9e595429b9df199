import BackOffice.Response.Verdict
import Mathlib.Data.List.Basic

/-!
The levels of an envelope. Success, the first error and the list of all errors are each found by a walk of its own
through the nested envelopes; all three are told by the levels in depth-first order.
-/

namespace BackOffice

namespace Envelope

/-- Whether a level has succeeded, whatever is nested in it. -/
def Succeeded (d : Envelope) : Prop := d.status = 200 ∧ d.errors = []

/-- The levels of an envelope: the envelope itself or one that is nested in it, however deep. -/
inductive Within : Envelope → Envelope → Prop
  | self (e : Envelope) : Within e e
  | nested {d inner e : Envelope} (hinner : inner ∈ e.nested) (h : Within d inner) : Within d e

mutual

/-- The levels depth first: an envelope before those nested in it, front-office ones before back-office ones. -/
def levels : Envelope → List Envelope
  | mk status data errors fo bo => mk status data errors fo bo :: (groupLevels fo ++ groupLevels bo)

def groupLevels : Option (List Envelope) → List Envelope
  | some group => listLevels group
  | none => []

def listLevels : List Envelope → List Envelope
  | [] => []
  | e :: rest => levels e ++ listLevels rest

end

/-! ### One level after another -/

theorem listLevels_eq (group : List Envelope) : listLevels group = group.flatMap levels := by
  induction group with
  | nil => rfl
  | cons e rest ih => rw [listLevels, ih, List.flatMap_cons]

theorem listErrors_eq (group : List Envelope) : listErrors group = group.flatMap allErrors := by
  induction group with
  | nil => rfl
  | cons e rest ih => rw [listErrors, ih, List.flatMap_cons]

theorem listFirst?_eq (group : List Envelope) : listFirst? group = group.findSome? firstError? := by
  induction group with
  | nil => rfl
  | cons e rest ih =>
    rw [listFirst?, ih, List.findSome?_cons]
    cases e.firstError? <;> rfl

theorem listSuccess_eq (group : List Envelope) : listSuccess group = group.all isSuccess := by
  induction group with
  | nil => rfl
  | cons e rest ih => rw [listSuccess, ih, List.all_cons]

theorem levels_eq (e : Envelope) : e.levels = e :: e.nested.flatMap levels := by
  obtain ⟨status, data, errors, fo, bo⟩ := e
  cases fo <;> cases bo <;> simp [levels, groupLevels, listLevels_eq, nested]

theorem allErrors_eq (e : Envelope) : e.allErrors = e.errors ++ e.nested.flatMap allErrors := by
  obtain ⟨status, data, errors, fo, bo⟩ := e
  cases fo <;> cases bo <;> simp [allErrors, groupErrors, listErrors_eq, nested, Envelope.errors]

theorem firstError?_eq (e : Envelope) :
    e.firstError? = e.errors.head?.or (e.nested.findSome? firstError?) := by
  obtain ⟨status, data, errors, fo, bo⟩ := e
  cases fo <;> cases bo <;> simp [firstError?, groupFirst?, listFirst?_eq, nested, Envelope.errors]

theorem isSuccess_iff (e : Envelope) :
    e.isSuccess = true ↔ e.Succeeded ∧ ∀ d ∈ e.nested, d.isSuccess = true := by
  obtain ⟨status, data, errors, fo, bo⟩ := e
  cases fo <;> cases bo <;>
    simp [isSuccess, groupSuccess, listSuccess_eq, nested, Succeeded, Envelope.status, Envelope.errors, or_imp,
      forall_and, and_assoc]

theorem sizeOf_lt_of_nested {d e : Envelope} (h : d ∈ e.nested) : sizeOf d < sizeOf e := by
  obtain ⟨status, data, errors, fo, bo⟩ := e
  rcases List.mem_append.1 h with hm | hm
  · cases fo with
    | none => cases hm
    | some group =>
      have := List.sizeOf_lt_of_mem (show d ∈ group from hm)
      simp only [mk.sizeOf_spec, Option.some.sizeOf_spec]
      omega
  · cases bo with
    | none => cases hm
    | some group =>
      have := List.sizeOf_lt_of_mem (show d ∈ group from hm)
      simp only [mk.sizeOf_spec, Option.some.sizeOf_spec]
      omega

/-- What holds of an envelope whenever it holds of those directly in it holds of all. -/
theorem nested_induction {motive : Envelope → Prop} (step : ∀ e, (∀ d ∈ e.nested, motive d) → motive e)
    (e : Envelope) : motive e :=
  step e fun d hd =>
    have : sizeOf d < sizeOf e := sizeOf_lt_of_nested hd
    nested_induction step d
termination_by sizeOf e

/-! ### All levels together -/

theorem mem_levels {d e : Envelope} : d ∈ e.levels ↔ Within d e := by
  constructor
  · intro h
    induction e using nested_induction with
    | step e ih =>
      rw [levels_eq, List.mem_cons, List.mem_flatMap] at h
      obtain rfl | ⟨inner, hinner, h⟩ := h
      · exact .self d
      · exact .nested hinner (ih inner hinner h)
  · intro h
    induction h with
    | self =>
      rw [levels_eq]
      exact List.mem_cons_self
    | nested hinner _ ih =>
      rw [levels_eq]
      exact List.mem_cons_of_mem _ (List.mem_flatMap.2 ⟨_, hinner, ih⟩)

theorem allErrors_eq_flatMap_levels (e : Envelope) : e.allErrors = e.levels.flatMap errors := by
  induction e using nested_induction with
  | step e ih =>
    rw [allErrors_eq, levels_eq, List.flatMap_cons, List.flatMap_assoc]
    congr 1
    exact List.flatMap_congr ih

theorem firstError?_eq_head? (e : Envelope) : e.firstError? = e.allErrors.head? := by
  induction e using nested_induction with
  | step e ih =>
    rw [firstError?_eq, allErrors_eq, List.head?_append, List.head?_flatMap, ← List.head?_filterMap,
      ← List.head?_filterMap, List.filterMap_congr ih]

theorem isSuccess_iff_levels (e : Envelope) : e.isSuccess = true ↔ ∀ d, Within d e → d.Succeeded := by
  induction e using nested_induction with
  | step e ih =>
    rw [isSuccess_iff]
    constructor
    · rintro ⟨hself, hnested⟩ d hd
      cases hd with
      | self => exact hself
      | nested hinner h => exact (ih _ hinner).1 (hnested _ hinner) d h
    · intro h
      exact ⟨h e (.self e), fun inner hinner => (ih inner hinner).2 fun d hd => h d (.nested hinner hd)⟩

theorem mem_allErrors {entry : ErrorEntry} {e : Envelope} :
    entry ∈ e.allErrors ↔ ∃ d, Within d e ∧ entry ∈ d.errors := by
  simp only [allErrors_eq_flatMap_levels, List.mem_flatMap, mem_levels]

/-- An envelope that succeeded has no error at any level. -/
theorem allErrors_of_isSuccess {e : Envelope} (h : e.isSuccess = true) : e.allErrors = [] := by
  rw [allErrors_eq_flatMap_levels, List.flatMap_eq_nil_iff]
  intro d hd
  exact ((isSuccess_iff_levels e).1 h d (mem_levels.1 hd)).2

end Envelope

end BackOffice
