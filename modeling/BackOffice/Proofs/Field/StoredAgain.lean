import BackOffice.Proofs.Calendar.DayText
import BackOffice.Proofs.Field.RequiredInput

/-!
What is stored, given as input again. For most kinds of fields it is stored as it is. A choice stays the same if its
option is the first that it matches, as it is among options of plain values; and a date stays the same if it is read as
the date that it was written for, as a date in the usual form is unless a layout of its own reads it as another.
-/

namespace BackOffice

namespace Json

/-- A property of every value, with that of an array from those of its items. -/
@[elab_as_elim]
theorem itemsInduction {motive : Json → Prop} (null : motive .null)
    (arr : ∀ items : List Json, (∀ v ∈ items, motive v) → motive (.arr items))
    (single : ∀ v : Json, v.isSingle = true → motive v) : ∀ v, motive v
  | .null => null
  | .arr items => arr items fun v _ => itemsInduction null arr single v
  | .bool b => single _ rfl
  | .num n => single _ rfl
  | .str s => single _ rfl
  | .obj members => single _ rfl

/-- A value that equals no other: neither an array nor an object, whose numbers and members may be given in several
ways, nor a float that is zero, with either sign. -/
def Plain : Json → Prop
  | num (.float x) => x ≠ 0 ∧ x ≠ -0
  | arr _ | obj _ => False
  | _ => True

theorem Plain.eq_of_same {v w : Json} (hv : v.Plain) (h : v.same w = true) : v = w := by
  cases v with
  | num n =>
    cases w with
    | num m =>
      cases n with
      | whole a =>
        cases m with
        | whole b => simpa [same, JsonNumber.same] using h
        | float y => cases h
      | float x =>
        cases m with
        | whole b => cases h
        | float y =>
          have hequal : (x == y) = true := h
          obtain ⟨-, -, rfl | hzero | hzero⟩ := Float.beq_iff_ne_nan_and_eq.1 hequal
          · rfl
          · exact absurd hzero.1 hv.1
          · exact absurd hzero.1 hv.2
    | _ => cases h
  | arr items => exact hv.elim
  | obj members => exact hv.elim
  | _ => cases w <;> simp_all [same]

end Json

namespace FieldView

variable {f : FieldView} {v w : Json} {o : FieldOption}

/-! ### Choices -/

/-- A choice that chooses itself: nothing, the first option that it matches, or an array of such choices. -/
inductive OwnChoice (f : FieldView) : Json → Prop
  | nothing : OwnChoice f .null
  | option {v : Json} {o : FieldOption} (hsingle : v.isSingle = true) (hoption : f.option? v = some o)
      (hself : o.value = v) : OwnChoice f v
  | items {items : List Json} (h : ∀ v ∈ items, OwnChoice f v) : OwnChoice f (.arr items)

theorem chosen?_eq_self_iff (v : Json) : f.chosen? v = .ok v ↔ f.OwnChoice v := by
  constructor
  · intro h
    induction v using Json.itemsInduction with
    | null => exact .nothing
    | arr items ih =>
      obtain ⟨stored, hitems, hsame⟩ := chosen?_arr_eq_ok_iff.1 h
      cases hsame
      exact .items fun v hv => ih v hv (List.forall₂_same.1 hitems v hv)
    | single v hsingle =>
      obtain ⟨o, hoption, hself⟩ := (chosen?_single_eq_ok_iff hsingle).1 h
      exact .option hsingle hoption hself
  · intro h
    induction h with
    | nothing => rfl
    | option hsingle hoption hself => exact (chosen?_single_eq_ok_iff hsingle).2 ⟨_, hoption, hself⟩
    | items _ ih => exact chosen?_arr_eq_ok_iff.2 ⟨_, List.forall₂_same.2 ih, rfl⟩

/-- Among options of plain values, the first that an input matches is the first that its own value matches. -/
theorem option?_of_plain (hplain : ∀ o ∈ f.options, o.value.Plain) (h : f.option? v = some o) :
    f.option? o.value = some o := by
  obtain ⟨hmatch, before, after, hoptions, hbefore⟩ := List.find?_eq_some_iff_append.1 h
  simp only [Bool.or_eq_true, beq_iff_eq] at hmatch
  by_cases htext : o.value.plainText = v.plainText
  · refine List.find?_eq_some_iff_append.2 ⟨by simp, before, after, hoptions, fun a ha => ?_⟩
    have hmem : a ∈ f.options := by
      rw [hoptions]
      exact List.mem_append_left _ ha
    have hnot := hbefore a ha
    simp only [Bool.not_eq_true', Bool.or_eq_false_iff, beq_eq_false_iff_ne] at hnot ⊢
    constructor
    · rw [Bool.eq_false_iff]
      intro hsame
      rw [(hplain a hmem).eq_of_same hsame] at hnot
      exact hnot.2 htext
    · rw [htext]
      exact hnot.2
  · -- the input is the value of its option
    have hsame := hmatch.resolve_right htext
    rw [(hplain o (List.mem_of_find?_eq_some h)).eq_of_same hsame]
    exact h

theorem ownChoice_of_plain (hplain : ∀ o ∈ f.options, o.value.Plain) (h : f.chosen? v = .ok w) : f.OwnChoice w := by
  induction v using Json.itemsInduction generalizing w with
  | null =>
    cases h
    exact .nothing
  | arr items ih =>
    obtain ⟨stored, hitems, rfl⟩ := chosen?_arr_eq_ok_iff.1 h
    obtain ⟨hlength, hget⟩ := List.forall₂_iff_get.1 hitems
    refine .items fun w hw => ?_
    obtain ⟨i, hi, rfl⟩ := List.getElem_of_mem hw
    exact ih _ (List.getElem_mem (by omega)) (hget i (by omega) hi)
  | single v hsingle =>
    obtain ⟨o, hoption, rfl⟩ := (chosen?_single_eq_ok_iff hsingle).1 h
    have hvalue := hplain o (List.mem_of_find?_eq_some hoption)
    cases hchosen : o.value with
    | null => exact .nothing
    | arr items =>
      rw [hchosen] at hvalue
      exact hvalue.elim
    | _ => exact hchosen ▸ .option (hchosen ▸ rfl) (option?_of_plain hplain hoption) rfl

/-! ### Dates -/

/-- A date that is stored as it is: none, or a text that is read as a moment of which the same text is stored. -/
inductive OwnDate (f : FieldView) : Json → Prop
  | none : OwnDate f .null
  | date {s : String} {m : Moment} (hblank : isBlankText s = false)
      (hread : (Json.str s).toMoment? f.ownLayout? = .ok m) (hwritten : f.storedDate m = s) : OwnDate f (.str s)

section

variable (hkind : f.kind = .maskedDate)

include hkind

theorem coerce_blank_date (hblank : v.isBlank = true) : f.coerce v = .ok .null := by
  unfold coerce
  simp only [hkind, hblank, if_true]

/-- What is stored of a date is null, or the text of a date of the calendar. -/
theorem stored_date (h : f.coerce v = .ok w) : w = .null ∨ ∃ m : Moment, m.date.Valid ∧ w = .str (f.storedDate m) := by
  by_cases hblank : v.isBlank = true
  · rw [coerce_blank_date hkind hblank] at h
    cases h
    exact .inl rfl
  · rw [coerce_date hkind (Bool.eq_false_iff.2 hblank)] at h
    obtain ⟨m, hread, rfl⟩ := map_eq_ok_iff.1 h
    exact .inr ⟨m, Json.valid_toMoment? hread, rfl⟩

theorem coerce_str_eq_self_iff (s : String) : f.coerce (.str s) = .ok (.str s) ↔ f.OwnDate (.str s) := by
  by_cases hblank : isBlankText s = true
  · rw [coerce_blank_date hkind (v := .str s) hblank]
    refine iff_of_false nofun fun h => ?_
    cases h with
    | date hvisible hread hwritten => cases hblank.symm.trans hvisible
  · rw [coerce_date hkind (v := .str s) (Bool.eq_false_iff.2 hblank), map_eq_ok_iff]
    constructor
    · rintro ⟨m, hread, hwritten⟩
      exact .date (Bool.eq_false_iff.2 hblank) hread (Json.str.inj hwritten)
    · intro h
      cases h with
      | date hvisible hread hwritten => exact ⟨_, hread, congrArg Json.str hwritten⟩

theorem stored_date_again_iff (h : f.coerce v = .ok w) : f.coerce w = .ok w ↔ f.OwnDate w := by
  obtain rfl | ⟨m, -, rfl⟩ := stored_date hkind h
  · exact iff_of_true (coerce_blank_date hkind rfl) .none
  · exact coerce_str_eq_self_iff hkind _

/-- The text of a date is read by the layout of the field if it can be, and else as the date itself. -/
theorem coerce_day_text (hdefault : f.config.text? "valueFormat" = none) {d : Date} (hd : d.Valid) :
    f.coerce (.str d.text) =
      .ok (.str (((f.ownLayout?.bind (Moment.ofLayout? d.text)).getD (.ofDate d)).date.text)) := by
  have hread := Json.toMoment?_str (s := d.text) (by rw [d.trim_text, Date.ofText?_text hd]) f.ownLayout?
  rw [d.trim_text] at hread
  have hblank : (Json.str d.text).isBlank = false := d.isBlankText_text
  rw [coerce_of_moment hkind hblank hread, storedDate, hdefault]

/-- A date that is stored in the usual form stays the same unless the layout of the field reads it as another. -/
theorem stored_day_again_iff (hdefault : f.config.text? "valueFormat" = none) (h : f.coerce v = .ok w) :
    f.coerce w = .ok w ↔ ∀ s layout m, w = .str s → f.ownLayout? = some layout →
      Moment.ofLayout? s layout = some m → m.date.text = s := by
  obtain rfl | ⟨moment, hvalid, rfl⟩ := stored_date hkind h
  · exact iff_of_true (coerce_blank_date hkind rfl) nofun
  have hstored : f.storedDate moment = moment.date.text := by rw [storedDate, hdefault]
  rw [hstored, coerce_day_text hkind hdefault hvalid]
  constructor
  · rintro hsame s layout m ⟨⟩ hown hread
    simpa [hown, hread] using hsame
  · intro hsame
    cases hown : f.ownLayout? with
    | none => rfl
    | some layout =>
      cases hread : Moment.ofLayout? moment.date.text layout with
      | none => simp [hread, Moment.ofDate]
      | some m => simp [hread, hsame _ layout m rfl hown hread]

end

/-! ### All kinds -/

theorem stored_text_again (hkind : f.kind = .text ∨ f.kind = .textArea) (h : f.coerce v = .ok w) :
    f.coerce w = .ok w := by
  rw [coerce_text _ hkind] at h ⊢
  cases h
  cases v.isNull <;> rfl

theorem stored_number_again (hkind : f.kind = .numeric) (h : f.coerce v = .ok w) : f.coerce w = .ok w := by
  have hnull : f.coerce .null = .ok .null := coerce_numeric _ hkind
  rw [coerce_numeric v hkind] at h
  split at h
  · cases h
    exact hnull
  · obtain ⟨x, -, rfl⟩ := map_eq_ok_iff.1 h
    cases hx : x.isFinite with
    | true =>
      obtain ⟨n, hstored, -, hback⟩ := Json.exists_ofNumber hx
      rw [hstored, coerce_of_toFloat? hkind rfl rfl, hback]
    | false =>
      rw [Json.ofNumber_of_notFinite hx]
      exact hnull

theorem stored_toggle_again (hkind : f.kind = .toggle) (h : f.coerce v = .ok w) : f.coerce w = .ok w := by
  rw [coerce_toggle _ hkind] at h ⊢
  obtain ⟨b, -, rfl⟩ := map_eq_ok_iff.1 h
  rfl

theorem stored_languages_again (hkind : f.kind = .multiLanguage) (h : f.coerce v = .ok w) : f.coerce w = .ok w := by
  obtain ⟨-, rfl⟩ | ⟨members, rfl, -⟩ | ⟨s, -, rfl⟩ := languages_cases hkind h
  all_goals
    unfold coerce
    rw [hkind]

theorem stored_preview_again (hkind : f.kind = .objectPreview) (h : f.coerce v = .ok w) : f.coerce w = .ok w := by
  obtain ⟨-, rfl⟩ | ⟨⟨members, rfl⟩ | ⟨items, rfl⟩, -⟩ := preview_cases hkind h
  all_goals
    unfold coerce
    rw [hkind]

/-- What is stored by a field that is neither a choice nor a date is stored as it is. -/
theorem stored_again_of_kind (hchoice : ¬ (f.kind = .select ∨ f.kind = .tag)) (hdate : f.kind ≠ .maskedDate)
    (h : f.coerce v = .ok w) : f.coerce w = .ok w := by
  cases hkind : f.kind with
  | text => exact stored_text_again (.inl hkind) h
  | textArea => exact stored_text_again (.inr hkind) h
  | numeric => exact stored_number_again hkind h
  | toggle => exact stored_toggle_again hkind h
  | select => exact absurd (.inl hkind) hchoice
  | tag => exact absurd (.inr hkind) hchoice
  | multiLanguage => exact stored_languages_again hkind h
  | maskedDate => exact absurd hkind hdate
  | objectPreview => exact stored_preview_again hkind h
  | actionTrigger => rw [coerce_unchecked w (.inl hkind)]
  | unknown tag => rw [coerce_unchecked w (.inr ⟨tag, hkind⟩)]

theorem stored_choice_again_iff (hkind : f.kind = .select ∨ f.kind = .tag) :
    f.coerce w = .ok w ↔ f.options = [] ∨ f.OwnChoice w := by
  by_cases hoptions : f.options = []
  · rw [coerce_choice w hkind, hoptions]
    simp
  · rw [coerce_eq_chosen? hkind hoptions, chosen?_eq_self_iff, or_iff_right hoptions]

/-- What a field has stored, given to it again: it is stored as it is by every field that is neither a choice nor a
date. A choice stays the same exactly if it chooses itself, as it always does among options of plain values; and a date
exactly if it is read as a moment of which the same is stored. In the usual form that is so unless the layout of the
field reads the date as another one. -/
theorem stored_again (h : f.coerce v = .ok w) :
    (¬ (f.kind = .select ∨ f.kind = .tag) → f.kind ≠ .maskedDate → f.coerce w = .ok w) ∧
      (f.kind = .select ∨ f.kind = .tag →
        (f.coerce w = .ok w ↔ f.options = [] ∨ f.OwnChoice w) ∧
          ((∀ o ∈ f.options, o.value.Plain) → f.coerce w = .ok w)) ∧
      (f.kind = .maskedDate →
        (f.coerce w = .ok w ↔ f.OwnDate w) ∧
          (f.config.text? "valueFormat" = none →
            (f.coerce w = .ok w ↔ ∀ s layout m, w = .str s → f.ownLayout? = some layout →
              Moment.ofLayout? s layout = some m → m.date.text = s))) := by
  refine ⟨fun hchoice hdate => stored_again_of_kind hchoice hdate h, fun hkind => ⟨stored_choice_again_iff hkind,
    fun hplain => (stored_choice_again_iff hkind).2 ?_⟩, fun hkind => ⟨stored_date_again_iff hkind h,
    fun hdefault => stored_day_again_iff hkind hdefault h⟩⟩
  by_cases hoptions : f.options = []
  · exact .inl hoptions
  · rw [coerce_eq_chosen? hkind hoptions] at h
    exact .inr (ownChoice_of_plain hplain h)

/-- A date in the usual form. -/
def plainDate : FieldView := .ofTag "date" (.empty .object)

theorem plain_date_stored_again :
    plainDate.coerce (.str "05/03/2024") = .ok (.str "2024-03-05") ∧
      plainDate.coerce (.str "2024-03-05") = .ok (.str "2024-03-05") := by
  have hstored : plainDate.coerce (.str "05/03/2024") = .ok (.str "2024-03-05") := by rfl
  refine ⟨hstored, (((stored_again hstored).2.2 rfl).2 rfl).2 ?_⟩
  intro s layout m _ hown
  cases hown

/-- A date that is given with the day in front of the month. -/
def dayFirstDate : FieldView := .ofTag "date" ⟨.obj [("format", .str "YYYY-DD-MM")], none⟩

/-- A stored date is read in the layout of the field, as another date. -/
theorem day_and_month_swapped :
    dayFirstDate.coerce (.str "2024-05-03") = .ok (.str "2024-03-05") ∧
      dayFirstDate.coerce (.str "2024-03-05") = .ok (.str "2024-05-03") ∧
      ¬ ∀ (f : FieldView) (v w : Json), f.coerce v = .ok w → f.coerce w = .ok w := by
  have hstored : dayFirstDate.coerce (.str "2024-05-03") = .ok (.str "2024-03-05") := by rfl
  have hagain : dayFirstDate.coerce (.str "2024-03-05") = .ok (.str "2024-05-03") := by rfl
  refine ⟨hstored, hagain, fun hall => ?_⟩
  have hsame := hall _ _ _ hstored
  rw [hagain] at hsame
  have htext : "2024-05-03" = "2024-03-05" := Json.str.inj (Except.ok.inj hsame)
  exact absurd htext (by decide)

end FieldView

end BackOffice
