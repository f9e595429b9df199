import BackOffice.Field.View
import Mathlib.Data.List.TakeWhile

/-!
Blank input. As soon as an input is blank, a check of it asks only whether it may be missing; but what is stored is
asked of the kind of the field, and not every kind takes every blank input. So an input that nothing is wrong with can
be stored, unless it is blank and the field does not take it.
-/

namespace BackOffice

/-! ### Blank text -/

theorem trim_of_isBlankText {s : String} (h : isBlankText s = true) : trim s = "" := by
  have hfront : trimFront s.toList = [] := List.dropWhile_eq_nil_iff.2 (List.all_eq_true.1 h)
  rw [trim, hfront]
  rfl

theorem isDigit_of_isBlank {c : Char} (h : isBlank c = true) : c.isDigit = false := by
  rw [Bool.eq_false_iff]
  intro hdigit
  have hrange : 48 ≤ c.toNat ∧ c.toNat ≤ 57 := Char.isDigit_iff_toNat.1 hdigit
  simp only [isBlank, inRanges, List.any_cons, List.any_nil, Bool.or_false, Bool.or_eq_true, Bool.and_eq_true,
    decide_eq_true_eq] at h
  omega

namespace Json

theorem number?_of_blank {cs : List Char} (h : ∀ c ∈ cs, BackOffice.isBlank c = true) : number? cs = none := by
  cases cs with
  | nil => rfl
  | cons c rest =>
    have hdigit : c.isDigit = false := isDigit_of_isBlank (h c List.mem_cons_self)
    have hminus : c ≠ '-' := by
      rintro rfl
      cases h '-' List.mem_cons_self
    simp [number?, wholeDigits?, digits?, hminus, hdigit]

theorem scalar?_of_blank {cs : List Char} (h : ∀ c ∈ cs, BackOffice.isBlank c = true) : scalar? cs = none := by
  unfold scalar?
  split
  case h_5 => rw [number?_of_blank h, Option.map_none]
  -- Every other scalar begins with a character that is not blank.
  all_goals cases h _ List.mem_cons_self

/-- A blank text holds no value. -/
theorem parse_of_isBlankText {s : String} (h : isBlankText s = true) : parse s = none := by
  have hrest : ∀ c ∈ skipGap s.toList, BackOffice.isBlank c = true := fun c hc =>
    List.all_eq_true.1 h c ((List.dropWhile_suffix _).mem hc)
  have hvalue : value? maxDepth s.toList = none := by
    rw [maxDepth, value?]
    split
    next heq => cases hrest '[' (heq ▸ List.mem_cons_self)
    next heq => cases hrest '{' (heq ▸ List.mem_cons_self)
    next => exact scalar?_of_blank hrest
  rw [parse, read?, hvalue]
  rfl

/-- A blank text is a word for no. -/
theorem toBool?_of_isBlankText {s : String} (h : isBlankText s = true) : (str s).toBool? = .ok false := by
  rw [toBool?, trim_of_isBlankText h]
  rfl

end Json

namespace FieldView

variable {f : FieldView} {v : Json} {e : FieldFault}

/-- The blank inputs that a field does not take, and how it refuses them. -/
inductive RefusesBlank (f : FieldView) : Json → FieldFault → Prop
  | toggleItems (hkind : f.kind = .toggle) : RefusesBlank f (.arr []) (.notBoolean (Json.arr []).text)
  | toggleMembers (hkind : f.kind = .toggle) (members : List (String × Json)) :
      RefusesBlank f (.obj members) (.notBoolean (Json.obj members).text)
  | optionText (hkind : f.kind = .select ∨ f.kind = .tag) (hoptions : f.options ≠ []) {s : String}
      (hnone : f.option? (.str s) = none) : RefusesBlank f (.str s) (.notOption s)
  | optionMembers (hkind : f.kind = .select ∨ f.kind = .tag) (hoptions : f.options ≠ [])
      {members : List (String × Json)} (hnone : f.option? (.obj members) = none) :
      RefusesBlank f (.obj members) (.notOption (Json.obj members).text)
  | languages (hkind : f.kind = .multiLanguage) : RefusesBlank f (.arr []) (.notObject (Json.arr []).text)
  | preview (hkind : f.kind = .objectPreview) (s : String) : RefusesBlank f (.str s) (.notObject s)

theorem coerce_eq_chosen? (hkind : f.kind = .select ∨ f.kind = .tag) (hoptions : f.options ≠ []) (v : Json) :
    f.coerce v = f.chosen? v := by
  rw [coerce_choice v hkind, if_neg (by simpa using hoptions)]

theorem RefusesBlank.coerce_eq (h : f.RefusesBlank v e) (hblank : v.isBlank = true) : f.coerce v = .error e := by
  cases h with
  | toggleItems hkind | toggleMembers hkind members =>
    rw [coerce_toggle _ hkind]
    rfl
  | optionText hkind hoptions hnone =>
    rw [coerce_eq_chosen? hkind hoptions, chosen?, hnone]
    · rfl
    all_goals nofun
  | optionMembers hkind hoptions hnone =>
    rw [coerce_eq_chosen? hkind hoptions, chosen?, hnone]
    · rfl
    all_goals nofun
  | languages hkind =>
    unfold coerce
    rw [hkind]
  | preview hkind s =>
    unfold coerce
    simp only [hkind, Json.parse_of_isBlankText hblank]

/-! ### What is refused of blank input -/

theorem refusesBlank_of_toggle (hkind : f.kind = .toggle) (hblank : v.isBlank = true) (h : f.coerce v = .error e) :
    f.RefusesBlank v e := by
  rw [coerce_toggle v hkind] at h
  cases v with
  | null => cases h
  | bool b => cases hblank
  | num n => cases hblank
  | str s =>
    rw [Json.toBool?_of_isBlankText hblank] at h
    cases h
  | arr items =>
    obtain rfl : items = [] := List.isEmpty_iff.1 hblank
    cases h
    exact .toggleItems hkind
  | obj members =>
    cases h
    exact .toggleMembers hkind members

theorem refusesBlank_of_choice (hkind : f.kind = .select ∨ f.kind = .tag) (hblank : v.isBlank = true)
    (h : f.coerce v = .error e) : f.RefusesBlank v e := by
  have hoptions : f.options ≠ [] := by
    intro hnil
    rw [coerce_choice v hkind, hnil] at h
    cases h
  rw [coerce_eq_chosen? hkind hoptions] at h
  cases v with
  | null => cases h
  | bool b => cases hblank
  | num n => cases hblank
  | str s =>
    cases hoption : f.option? (.str s) with
    | some o => simp [chosen?, hoption] at h
    | none =>
      obtain rfl : FieldFault.notOption s = e := by simpa [chosen?, hoption, Json.plainText] using h
      exact .optionText hkind hoptions hoption
  | arr items =>
    obtain rfl : items = [] := List.isEmpty_iff.1 hblank
    cases h
  | obj members =>
    cases hoption : f.option? (.obj members) with
    | some o => simp [chosen?, hoption] at h
    | none =>
      obtain rfl : FieldFault.notOption (Json.obj members).text = e := by
        simpa [chosen?, hoption, Json.plainText] using h
      exact .optionMembers hkind hoptions hoption

theorem refusesBlank_of_languages (hkind : f.kind = .multiLanguage) (hblank : v.isBlank = true)
    (h : f.coerce v = .error e) : f.RefusesBlank v e := by
  unfold coerce at h
  rw [hkind] at h
  cases v with
  | null => cases h
  | bool b => cases hblank
  | num n => cases hblank
  | str s =>
    simp only at h
    split at h <;> cases h
  | arr items =>
    obtain rfl : items = [] := List.isEmpty_iff.1 hblank
    cases h
    exact .languages hkind
  | obj members => cases h

theorem refusesBlank_of_preview (hkind : f.kind = .objectPreview) (hblank : v.isBlank = true)
    (h : f.coerce v = .error e) : f.RefusesBlank v e := by
  unfold coerce at h
  rw [hkind] at h
  cases v with
  | null => cases h
  | bool b => cases hblank
  | num n => cases hblank
  | str s =>
    simp only [Json.parse_of_isBlankText hblank] at h
    cases h
    exact .preview hkind s
  | arr items => cases h
  | obj members => cases h

/-- A blank input that is refused is one that the field does not take. -/
theorem refusesBlank_of_coerce (hblank : v.isBlank = true) (h : f.coerce v = .error e) : f.RefusesBlank v e := by
  cases hkind : f.kind with
  | text =>
    rw [coerce_text v (.inl hkind)] at h
    cases h
  | textArea =>
    rw [coerce_text v (.inr hkind)] at h
    cases h
  | numeric =>
    rw [coerce_numeric v hkind, if_pos hblank] at h
    cases h
  | toggle => exact refusesBlank_of_toggle hkind hblank h
  | select => exact refusesBlank_of_choice (.inl hkind) hblank h
  | tag => exact refusesBlank_of_choice (.inr hkind) hblank h
  | multiLanguage => exact refusesBlank_of_languages hkind hblank h
  | maskedDate =>
    unfold coerce at h
    simp only [hkind, hblank, if_true] at h
    cases h
  | objectPreview => exact refusesBlank_of_preview hkind hblank h
  | actionTrigger =>
    rw [coerce_unchecked v (.inl hkind)] at h
    cases h
  | unknown tag =>
    rw [coerce_unchecked v (.inr ⟨tag, hkind⟩)] at h
    cases h

/-- When an input cannot be stored, nothing is wrong with it only if it is blank and may be missing. -/
theorem validate_eq_nil_iff_of_error (h : f.coerce v = .error e) :
    f.validate v = [] ↔ v.isBlank = true ∧ f.required = false := by
  rw [validate, h]
  by_cases hblank : v.isBlank = true
  · cases f.required <;> simp [hblank]
  · simp [hblank]

/-- Nothing is wrong with an input and yet it cannot be stored exactly when it may be missing, is blank, and is one that
the field does not take. Every other input that nothing is wrong with can be stored. -/
theorem valid_input_refused_iff (f : FieldView) (v : Json) (e : FieldFault) :
    (f.validate v = [] ∧ f.coerce v = .error e) ↔
      f.required = false ∧ v.isBlank = true ∧ f.RefusesBlank v e := by
  constructor
  · rintro ⟨hvalid, herr⟩
    obtain ⟨hblank, hrequired⟩ := (validate_eq_nil_iff_of_error herr).1 hvalid
    exact ⟨hrequired, hblank, refusesBlank_of_coerce hblank herr⟩
  · rintro ⟨hrequired, hblank, hrefuses⟩
    have herr := hrefuses.coerce_eq hblank
    exact ⟨(validate_eq_nil_iff_of_error herr).2 ⟨hblank, hrequired⟩, herr⟩

/-- A choice between two states that need not be made. -/
def stateChoice : FieldView where
  kind := .select
  config := .empty .object
  options := [{ value := .str "A", label := "Active" }, { value := .str "P", label := "Passive" }]
  required := false

/-- Nothing is wrong with a choice that is left open, and yet it cannot be stored. -/
theorem open_choice_is_refused :
    stateChoice.validate (.str "") = [] ∧ stateChoice.coerce (.str "") = .error (.notOption "") := by
  constructor <;> rfl

end FieldView

end BackOffice
