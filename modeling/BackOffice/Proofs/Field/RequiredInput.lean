import BackOffice.Proofs.Field.BlankInput
import BackOffice.Proofs.Field.NumberInput

/-!
Required input. A field that asks for a value looks at the input for one, and not at what is stored of it. Nearly always
that comes to the same, since what is stored of an input that is not blank is not blank either; but a number that is not
finite, a text that holds an object or an array, a date in a layout that writes nothing and an option whose own value is
blank get past it.
-/

namespace BackOffice

/-! ### Text that is not blank -/

/-- Some character can be seen. -/
def Visible (cs : List Char) : Prop := ∃ c ∈ cs, isBlank c = false

namespace Visible

theorem left {front : List Char} (h : Visible front) (back : List Char) : Visible (front ++ back) := by
  obtain ⟨c, hc, hvisible⟩ := h
  exact ⟨c, List.mem_append_left _ hc, hvisible⟩

theorem right {back : List Char} (h : Visible back) (front : List Char) : Visible (front ++ back) := by
  obtain ⟨c, hc, hvisible⟩ := h
  exact ⟨c, List.mem_append_right _ hc, hvisible⟩

theorem cons {c : Char} (h : isBlank c = false) (cs : List Char) : Visible (c :: cs) := ⟨c, List.mem_cons_self, h⟩

end Visible

theorem isBlankText_ofList {cs : List Char} (h : Visible cs) : isBlankText (String.ofList cs) = false := by
  obtain ⟨c, hc, hvisible⟩ := h
  rw [isBlankText, String.toList_ofList]
  exact List.all_eq_false.2 ⟨c, hc, by simp [hvisible]⟩

theorem visible_digitsOf (n : Nat) : Visible (Decimal.digitsOf n) := by
  obtain ⟨c, cs, hcs⟩ := List.exists_cons_of_ne_nil (Nat.toDigits_ne_nil (n := n) (b := 10))
  have hdigit := Nat.isDigit_of_mem_toDigits (b := 10) (by decide) (by decide) (hcs ▸ List.mem_cons_self)
  rw [Decimal.digitsOf, hcs]
  exact .cons (isBlank_of_isNumeral (isNumeral_of_isDigit hdigit)) cs

theorem visible_positional (d : Decimal) (point : Bool) : Visible (d.positional point) := by
  rw [Decimal.positional]
  split
  · exact ((visible_digitsOf d.digits).left _).left _
  · exact (Visible.cons rfl _).right _

theorem visible_magnitude (layout : FloatLayout) (b : Binary) : Visible (layout.magnitude b) := by
  rw [FloatLayout.magnitude]
  split
  · split <;> exact .cons rfl _
  · dsimp only
    split
    · exact visible_positional _ _
    · split
      · exact visible_positional _ _
      · exact (Visible.cons rfl _).right _

theorem visible_write (layout : FloatLayout) (x : Float) : Visible (layout.write x) := by
  rw [FloatLayout.write]
  split
  · exact .cons rfl _
  · refine Visible.right ?_ _
    split
    · exact .cons rfl _
    · exact visible_magnitude layout _

theorem Date.isBlankText_text (d : Date) : isBlankText d.text = false :=
  isBlankText_ofList ((Visible.cons rfl _).right _)

namespace Json

theorem visible_chars (v : Json) : Visible v.chars := by
  cases v with
  | null => exact .cons rfl _
  | bool b => cases b <;> exact .cons rfl _
  | num n =>
    cases n with
    | whole n => exact (visible_digitsOf _).right _
    | float x => exact visible_write _ _
  | str s => exact .cons rfl _
  | arr items => exact .cons rfl _
  | obj members => exact .cons rfl _

/-- One value, neither nothing nor several. -/
def isSingle : Json → Bool
  | null | arr _ => false
  | _ => true

/-- The plain text of a value is blank only if the value is. -/
theorem isBlankText_plainText {v : Json} (h : v.isBlank = false) : isBlankText v.plainText = false := by
  cases v with
  | null => cases h
  | str s => exact h
  | _ => exact isBlankText_ofList (visible_chars _)

end Json

namespace FieldView

variable {f : FieldView} {v w : Json}

/-- The layout in which a date is read first. -/
def ownLayout? (f : FieldView) : Option Layout := (f.config.text? "format").bind maskLayout?

/-- The inputs that are not blank, and yet nothing is stored of them, with the blank value that is stored. -/
inductive StoresNothing (f : FieldView) : Json → Json → Prop
  /-- A number that is not finite, of which null is stored. -/
  | number (hkind : f.kind = .numeric) {v : Json} {x : Float} (hread : v.toFloat? = .ok x)
      (hx : x.isFinite = false) : StoresNothing f v .null
  /-- An input that chooses an option whose own value is blank. -/
  | option (hkind : f.kind = .select ∨ f.kind = .tag) (hoptions : f.options ≠ []) {v : Json} {o : FieldOption}
      (hoption : f.option? v = some o) (hsingle : v.isSingle = true)
      (hnothing : o.value.isBlank = true) : StoresNothing f v o.value
  /-- The text of an object in which no language has any text. -/
  | languages (hkind : f.kind = .multiLanguage) {s : String} {members : Keyed Json}
      (hparse : Json.parse s = some (.obj members)) (hnothing : Json.membersBlank members = true)
      (hissues : ((members.filterMap fun m => m.2.text?).flatMap f.textIssues) = []) :
      StoresNothing f (.str s) (.obj members)
  /-- A date in a layout that writes nothing. -/
  | date (hkind : f.kind = .maskedDate) {v : Json} {m : Moment} {mask : String}
      (hread : v.toMoment? f.ownLayout? = .ok m) (hmask : f.config.text? "valueFormat" = some mask)
      (hnothing : isBlankText (m.writeOrDate (maskLayout? mask)) = true) :
      StoresNothing f v (.str (m.writeOrDate (maskLayout? mask)))
  /-- The text of an empty array. -/
  | previewItems (hkind : f.kind = .objectPreview) {s : String} (hparse : Json.parse s = some (.arr [])) :
      StoresNothing f (.str s) (.arr [])
  /-- The text of an object in which nothing has a value. -/
  | previewMembers (hkind : f.kind = .objectPreview) {s : String} {members : Keyed Json}
      (hparse : Json.parse s = some (.obj members)) (hnothing : Json.membersBlank members = true) :
      StoresNothing f (.str s) (.obj members)

/-! ### Choices that are stored -/

theorem map_eq_ok_iff {α β : Type} {x : Except FieldFault α} {g : α → β} {b : β} :
    x.map g = .ok b ↔ ∃ a, x = .ok a ∧ g a = b := by
  cases x <;> simp [Except.map]

theorem chosen?_of_isSingle (hsingle : v.isSingle = true) :
    f.chosen? v = match f.option? v with
      | some o => .ok o.value
      | none => .error (.notOption v.plainText) := by
  refine chosen?.eq_3 f v ?_ ?_
  · rintro rfl
    cases hsingle
  · rintro items rfl
    cases hsingle

theorem chosen?_single_eq_ok_iff (hsingle : v.isSingle = true) :
    f.chosen? v = .ok w ↔ ∃ o, f.option? v = some o ∧ o.value = w := by
  rw [chosen?_of_isSingle hsingle]
  cases f.option? v <;> simp

theorem chosenItems?_eq_ok_iff {items stored : List Json} :
    f.chosenItems? items = .ok stored ↔ List.Forall₂ (fun v w => f.chosen? v = .ok w) items stored := by
  induction items generalizing stored with
  | nil => cases stored <;> simp [chosenItems?]
  | cons v rest ih =>
    rw [chosenItems?]
    cases hfirst : f.chosen? v with
    | error e => cases stored <;> simp [bind, Except.bind, hfirst]
    | ok w =>
      cases hrest : f.chosenItems? rest with
      | error e => cases stored <;> simp [bind, Except.bind, ← ih, hfirst, hrest]
      | ok more => cases stored <;> simp [bind, Except.bind, pure, Except.pure, ← ih, hfirst, hrest]

theorem chosen?_arr_eq_ok_iff {items : List Json} :
    f.chosen? (.arr items) = .ok w ↔
      ∃ stored, List.Forall₂ (fun v w => f.chosen? v = .ok w) items stored ∧ .arr stored = w := by
  simp only [chosen?, map_eq_ok_iff, chosenItems?_eq_ok_iff]

/-! ### Objects, arrays and dates that are stored -/

section

variable {s : String} {members : Keyed Json} {items : List Json} {m : Moment}

theorem coerce_languages_of_parse (hkind : f.kind = .multiLanguage) (hparse : Json.parse s = some (.obj members)) :
    f.coerce (.str s) = .ok (.obj members) := by
  unfold coerce
  simp only [hkind, hparse]

theorem coerce_preview_of_members (hkind : f.kind = .objectPreview) (hparse : Json.parse s = some (.obj members)) :
    f.coerce (.str s) = .ok (.obj members) := by
  unfold coerce
  simp only [hkind, hparse]

theorem coerce_preview_of_items (hkind : f.kind = .objectPreview) (hparse : Json.parse s = some (.arr items)) :
    f.coerce (.str s) = .ok (.arr items) := by
  unfold coerce
  simp only [hkind, hparse]

/-- A text in several languages is stored as an object: one that is given, also as text, or one of a single language. -/
theorem languages_cases (hkind : f.kind = .multiLanguage) (h : f.coerce v = .ok w) :
    v = .null ∧ w = .null ∨ (∃ members, w = .obj members ∧ (v = w ∨ ∃ s, v = .str s ∧ Json.parse s = some w)) ∨
      ∃ s, v = .str s ∧ w = .obj [(f.defaultLanguage, .str s)] := by
  unfold coerce at h
  simp only [hkind] at h
  split at h
  · cases h
    exact .inl ⟨rfl, rfl⟩
  · cases h
    exact .inr (.inl ⟨_, rfl, .inl rfl⟩)
  · split at h
    next hparse =>
      cases h
      exact .inr (.inl ⟨_, rfl, .inr ⟨_, rfl, hparse⟩⟩)
    next =>
      cases h
      exact .inr (.inr ⟨_, rfl, rfl⟩)
  · cases h

/-- Of a preview an object or an array is stored, which may be given as text. -/
theorem preview_cases (hkind : f.kind = .objectPreview) (h : f.coerce v = .ok w) :
    v = .null ∧ w = .null ∨
      ((∃ members, w = .obj members) ∨ ∃ items, w = .arr items) ∧ (v = w ∨ ∃ s, v = .str s ∧ Json.parse s = some w) := by
  unfold coerce at h
  simp only [hkind] at h
  split at h
  · cases h
    exact .inl ⟨rfl, rfl⟩
  · cases h
    exact .inr ⟨.inl ⟨_, rfl⟩, .inl rfl⟩
  · cases h
    exact .inr ⟨.inr ⟨_, rfl⟩, .inl rfl⟩
  · split at h
    next hparse =>
      cases h
      exact .inr ⟨.inl ⟨_, rfl⟩, .inr ⟨_, rfl, hparse⟩⟩
    next hparse =>
      cases h
      exact .inr ⟨.inr ⟨_, rfl⟩, .inr ⟨_, rfl, hparse⟩⟩
    next => cases h
  · cases h

/-- A date as it is stored. -/
def storedDate (f : FieldView) (m : Moment) : String :=
  match f.config.text? "valueFormat" with
  | some mask => m.writeOrDate (maskLayout? mask)
  | none => m.date.text

theorem coerce_date (hkind : f.kind = .maskedDate) (hblank : v.isBlank = false) :
    f.coerce v = (v.toMoment? f.ownLayout?).map fun m => .str (f.storedDate m) := by
  unfold coerce ownLayout? storedDate
  simp only [hkind, hblank, Bool.false_eq_true, if_false]
  cases v.toMoment? ((f.config.text? "format").bind maskLayout?) with
  | error e => rfl
  | ok m => cases f.config.text? "valueFormat" <;> rfl

theorem coerce_of_moment (hkind : f.kind = .maskedDate) (hblank : v.isBlank = false)
    (hread : v.toMoment? f.ownLayout? = .ok m) : f.coerce v = .ok (.str (f.storedDate m)) := by
  rw [coerce_date hkind hblank, hread]
  rfl

end

/-! ### What is stored of input that is not blank -/

section

variable (hblank : v.isBlank = false)

include hblank

theorem storesNothing_of_number (hkind : f.kind = .numeric) (h : f.coerce v = .ok w) (hw : w.isBlank = true) :
    f.StoresNothing v w := by
  cases hread : v.toFloat? with
  | error e => cases h.symm.trans (validate_of_toFloat?_error hkind hblank hread).1
  | ok x =>
    cases hx : x.isFinite with
    | true =>
      obtain ⟨n, hcoerce, -⟩ := validate_of_isFinite hkind hblank hread hx
      cases h.symm.trans hcoerce
      cases hw
    | false =>
      cases h.symm.trans (validate_of_not_isFinite hkind hblank hread hx).1
      exact .number hkind hread hx

theorem storesNothing_of_choice (hkind : f.kind = .select ∨ f.kind = .tag) (h : f.coerce v = .ok w)
    (hw : w.isBlank = true) : f.StoresNothing v w := by
  by_cases hoptions : f.options = []
  · rw [coerce_choice v hkind, hoptions] at h
    cases h
    simp [hblank] at hw
  rw [coerce_eq_chosen? hkind hoptions] at h
  have hone (hsingle : v.isSingle = true) : f.StoresNothing v w := by
    obtain ⟨o, hoption, rfl⟩ := (chosen?_single_eq_ok_iff hsingle).1 h
    exact .option hkind hoptions hoption hsingle hw
  cases v with
  | null => cases hblank
  | arr items =>
    obtain ⟨stored, hitems, rfl⟩ := chosen?_arr_eq_ok_iff.1 h
    obtain rfl : stored = [] := List.isEmpty_iff.1 hw
    cases hitems
    cases hblank
  | _ => exact hone rfl

theorem storesNothing_of_languages (hkind : f.kind = .multiLanguage) (h : f.coerce v = .ok w)
    (hvalid : f.validate v = []) (hw : w.isBlank = true) : f.StoresNothing v w := by
  rw [validate, if_neg (by simp [hblank]), h] at hvalid
  simp only [hkind] at hvalid
  obtain ⟨rfl, -⟩ | ⟨members, rfl, rfl | ⟨s, rfl, hparse⟩⟩ | ⟨s, rfl, rfl⟩ := languages_cases hkind h
  · cases hblank
  · cases hblank.symm.trans hw
  · exact .languages hkind hparse hw hvalid
  · -- the text is stored as it is, as that of one language
    have hpart : (Json.str s).isBlank = true := by simpa [Json.isBlank, Json.membersBlank] using hw
    cases hblank.symm.trans hpart

theorem storesNothing_of_date (hkind : f.kind = .maskedDate) (h : f.coerce v = .ok w) (hw : w.isBlank = true) :
    f.StoresNothing v w := by
  rw [coerce_date hkind hblank] at h
  obtain ⟨m, hread, rfl⟩ := map_eq_ok_iff.1 h
  cases hmask : f.config.text? "valueFormat" with
  | none =>
    rw [storedDate, hmask] at hw
    cases (Date.isBlankText_text m.date).symm.trans hw
  | some mask =>
    rw [storedDate, hmask] at hw ⊢
    exact .date hkind hread hmask hw

theorem storesNothing_of_preview (hkind : f.kind = .objectPreview) (h : f.coerce v = .ok w) (hw : w.isBlank = true) :
    f.StoresNothing v w := by
  obtain ⟨rfl, -⟩ | ⟨hstored, rfl | ⟨s, rfl, hparse⟩⟩ := preview_cases hkind h
  · cases hblank
  · cases hblank.symm.trans hw
  · obtain ⟨members, rfl⟩ | ⟨items, rfl⟩ := hstored
    · exact .previewMembers hkind hparse hw
    · obtain rfl : items = [] := List.isEmpty_iff.1 hw
      exact .previewItems hkind hparse

/-- Of an input that is not blank, something is stored in every other case. -/
theorem storesNothing_of_coerce (hvalid : f.validate v = []) (h : f.coerce v = .ok w) (hw : w.isBlank = true) :
    f.StoresNothing v w := by
  have htext (hkind : f.kind = .text ∨ f.kind = .textArea) : f.StoresNothing v w := by
    have hnull : v.isNull = false := by
      cases v <;> first | rfl | cases hblank
    rw [coerce_text v hkind, hnull] at h
    cases h
    cases (Json.isBlankText_plainText hblank).symm.trans hw
  cases hkind : f.kind with
  | text => exact htext (.inl hkind)
  | textArea => exact htext (.inr hkind)
  | numeric => exact storesNothing_of_number hblank hkind h hw
  | toggle =>
    rw [coerce_toggle v hkind] at h
    obtain ⟨b, -, rfl⟩ := map_eq_ok_iff.1 h
    cases hw
  | select => exact storesNothing_of_choice hblank (.inl hkind) h hw
  | tag => exact storesNothing_of_choice hblank (.inr hkind) h hw
  | multiLanguage => exact storesNothing_of_languages hblank hkind h hvalid hw
  | maskedDate => exact storesNothing_of_date hblank hkind h hw
  | objectPreview => exact storesNothing_of_preview hblank hkind h hw
  | actionTrigger =>
    rw [coerce_unchecked v (.inl hkind)] at h
    cases h
    cases hblank.symm.trans hw
  | unknown tag =>
    rw [coerce_unchecked v (.inr ⟨tag, hkind⟩)] at h
    cases h
    cases hblank.symm.trans hw

theorem StoresNothing.spec (h : f.StoresNothing v w) :
    f.validate v = [] ∧ f.coerce v = .ok w ∧ w.isBlank = true := by
  have hvalidate {stored : Json} (hcoerce : f.coerce v = .ok stored) (hkind : f.kind ∈ [.select, .tag, .maskedDate,
      .objectPreview]) : f.validate v = [] := by
    rw [validate, if_neg (by simp [hblank]), hcoerce]
    simp only [List.mem_cons, List.not_mem_nil, or_false] at hkind
    obtain hkind | hkind | hkind | hkind := hkind <;> simp only [hkind]
  cases h with
  | number hkind hread hx =>
    obtain ⟨hcoerce, hvalid⟩ := validate_of_not_isFinite hkind hblank hread hx
    exact ⟨hvalid, hcoerce, rfl⟩
  | @option hkind hoptions _ o hoption hsingle hnothing =>
    have hcoerce : f.coerce v = .ok o.value := by
      rw [coerce_eq_chosen? hkind hoptions, chosen?_of_isSingle hsingle, hoption]
    refine ⟨hvalidate hcoerce ?_, hcoerce, hnothing⟩
    obtain hkind | hkind := hkind <;> simp [hkind]
  | languages hkind hparse hnothing hissues =>
    have hcoerce := coerce_languages_of_parse hkind hparse
    refine ⟨?_, hcoerce, hnothing⟩
    rw [validate, if_neg (by simp [hblank]), hcoerce]
    simp only [hkind]
    exact hissues
  | date hkind hread hmask hnothing =>
    have hcoerce := coerce_of_moment hkind hblank hread
    rw [storedDate, hmask] at hcoerce
    exact ⟨hvalidate hcoerce (by simp [hkind]), hcoerce, hnothing⟩
  | previewItems hkind hparse =>
    have hcoerce := coerce_preview_of_items hkind hparse
    exact ⟨hvalidate hcoerce (by simp [hkind]), hcoerce, rfl⟩
  | previewMembers hkind hparse hnothing =>
    have hcoerce := coerce_preview_of_members hkind hparse
    exact ⟨hvalidate hcoerce (by simp [hkind]), hcoerce, hnothing⟩

end

/-- A field that asks for a value takes an input without complaint and stores nothing of it exactly when the input is
not blank, and is one of those of which nothing is stored. -/
theorem required_stores_nothing_iff (f : FieldView) (v w : Json) :
    (f.required = true ∧ f.validate v = [] ∧ f.coerce v = .ok w ∧ w.isBlank = true) ↔
      f.required = true ∧ v.isBlank = false ∧ f.StoresNothing v w := by
  constructor
  · rintro ⟨hrequired, hvalid, hcoerce, hw⟩
    have hblank : v.isBlank = false := by
      rw [Bool.eq_false_iff]
      intro hblank
      rw [validate, if_pos hblank, if_pos hrequired] at hvalid
      cases hvalid
    exact ⟨hrequired, hblank, storesNothing_of_coerce hblank hvalid hcoerce hw⟩
  · rintro ⟨hrequired, hblank, h⟩
    obtain ⟨hvalid, hcoerce, hw⟩ := h.spec hblank
    exact ⟨hrequired, hvalid, hcoerce, hw⟩

/-- A text in several languages that has to be given. -/
def requiredTitle : FieldView := (FieldView.ofTag "multilang" (.empty .object)).withRequired true

/-- A text of no language at all is taken for one that was given. -/
theorem empty_title_accepted :
    requiredTitle.required = true ∧ requiredTitle.validate (.str "\x7b\"en\": \"\"\x7d") = [] ∧
      requiredTitle.coerce (.str "\x7b\"en\": \"\"\x7d") = .ok (.obj [("en", .str "")]) ∧
      (Json.obj [("en", .str "")]).isBlank = true := by
  refine ⟨rfl, rfl, rfl, rfl⟩

end FieldView

end BackOffice
