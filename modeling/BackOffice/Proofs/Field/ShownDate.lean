import BackOffice.Proofs.Field.StoredAgain

/-!
The date that is shown. A date that is given as text is stored as it is read by the layout of the field, while what is
shown of a value is read in the usual ways only, since the layout of the field is the one that it is shown in. So a
text that is shown as a date is shown as the one that is stored of it unless the layout of the field reads another in
it; and the date that is stored, in the usual form, is always shown as itself.
-/

namespace BackOffice

namespace FieldView

variable {f : FieldView} {v w : Json} {s : String} {m : Moment}

/-- The moment that the layout of a field reads in a text. -/
def ownMoment? (f : FieldView) (s : String) : Option Moment := f.ownLayout?.bind (Moment.ofLayout? (trim s))

/-- The moment that is shown of a date, if a value is read as one. -/
def shownMoment? (v : Json) : Option Moment := if v.isBlank then none else (v.toMoment? none).toOption

/-- A moment as it is shown. -/
def shownDate (f : FieldView) (m : Moment) : String :=
  match f.config.text? "format" with
  | some mask => m.writeOrDate (maskLayout? mask)
  | none => m.date.text

/-- A date is shown as the moment that it is read as, and else as it is. -/
theorem display_date (hkind : f.kind = .maskedDate) (v : Json) :
    f.display v = ((shownMoment? v).map f.shownDate).getD (if v.isBlank then "" else v.plainText) := by
  unfold display shownMoment? shownDate
  simp only [hkind]
  by_cases hblank : v.isBlank = true
  · simp only [hblank, if_true]
    rfl
  · simp only [hblank, Bool.false_eq_true, if_false]
    cases v.toMoment? none with
    | error e => rfl
    | ok m => cases f.config.text? "format" <;> rfl

theorem display_of_shown (hkind : f.kind = .maskedDate) (h : shownMoment? v = some m) :
    f.display v = f.shownDate m := by
  rw [display_date hkind, h]
  rfl

theorem shownMoment?_str_eq_some_iff :
    shownMoment? (.str s) = some m ↔ isBlankText s = false ∧ Moment.ofText? (trim s) none = some m := by
  have hblank : (Json.str s).isBlank = isBlankText s := rfl
  rw [shownMoment?, hblank]
  cases isBlankText s with
  | true => simp
  | false =>
    rw [Json.toMoment?]
    cases Moment.ofText? (trim s) none <;> simp [Except.toOption]

/-- The text of a date is shown as that date. -/
theorem shownMoment?_text {d : Date} (hd : d.Valid) : shownMoment? (.str d.text) = some (.ofDate d) :=
  shownMoment?_str_eq_some_iff.2 ⟨d.isBlankText_text, by rw [d.trim_text, d.ofText?_text hd]⟩

/-- Of a text that is shown as a moment, the date is stored that the layout of the field reads in it, and that of the
moment if the layout reads none. -/
theorem coerce_of_shown (hkind : f.kind = .maskedDate) (hdefault : f.config.text? "valueFormat" = none)
    (h : shownMoment? (.str s) = some m) :
    f.coerce (.str s) = .ok (.str ((f.ownMoment? s).getD m).date.text) := by
  obtain ⟨hvisible, htext⟩ := shownMoment?_str_eq_some_iff.1 h
  have hblank : (Json.str s).isBlank = false := hvisible
  rw [coerce_of_moment hkind hblank (Json.toMoment?_str htext _), storedDate, hdefault, ownMoment?]

/-- Of a text that is shown as a moment, a date is stored in the usual form. It is the date of that moment exactly if
the layout of the field does not read another in the text; and what is stored is always shown as the date that it is. -/
theorem shown_date_iff (hkind : f.kind = .maskedDate) (hdefault : f.config.text? "valueFormat" = none)
    (hshown : shownMoment? (.str s) = some m) :
    f.display (.str s) = f.shownDate m ∧
      ∃ d : Date, d.Valid ∧ f.coerce (.str s) = .ok (.str d.text) ∧
        (m.date = d ↔ ∀ own, f.ownMoment? s = some own → own.date = m.date) ∧
        shownMoment? (.str d.text) = some (.ofDate d) ∧ f.display (.str d.text) = f.shownDate (.ofDate d) := by
  obtain ⟨-, htext⟩ := shownMoment?_str_eq_some_iff.1 hshown
  have hvalid : ((f.ownMoment? s).getD m).date.Valid := Json.valid_toMoment? (Json.toMoment?_str htext f.ownLayout?)
  have hstored := coerce_of_shown hkind hdefault hshown
  have hagain := shownMoment?_text hvalid
  refine ⟨display_of_shown hkind hshown, _, hvalid, hstored, ?_, hagain, display_of_shown hkind hagain⟩
  cases f.ownMoment? s with
  | none => simp
  | some own => simp [eq_comm]

/-- A date that is shown with the day in front of the month, as in `07/04/2024`. -/
def dayMonthDate : FieldView := .ofTag "date" ⟨.obj [("format", .str "DD/MM/YYYY")], none⟩

/-- A text that the layout of the field and the usual ways read alike. -/
theorem day_month_date_shown :
    dayMonthDate.coerce (.str "07/04/2024") = .ok (.str "2024-04-07") ∧
      dayMonthDate.ownMoment? "07/04/2024" = some (.ofDate ⟨2024, 4, 7⟩) ∧
      dayMonthDate.display (.str "07/04/2024") = "07/04/2024" ∧
      dayMonthDate.display (.str "2024-04-07") = "07/04/2024" := by
  have hshown : shownMoment? (.str "07/04/2024") = some (.ofDate ⟨2024, 4, 7⟩) := by rfl
  have hown : dayMonthDate.ownMoment? "07/04/2024" = some (.ofDate ⟨2024, 4, 7⟩) := by rfl
  have hwritten : dayMonthDate.shownDate (.ofDate ⟨2024, 4, 7⟩) = "07/04/2024" := by rfl
  obtain ⟨hdisplay, d, -, hstored, hsame, -, hagain⟩ := shown_date_iff (f := dayMonthDate) rfl rfl hshown
  obtain rfl : ⟨2024, 4, 7⟩ = d := hsame.2 fun own h => by rw [← Option.some.inj (hown.symm.trans h)]
  exact ⟨hstored, hown, hdisplay.trans hwritten, hagain.trans hwritten⟩

/-- A date that is shown with the month in front of the day. -/
def monthDayDate : FieldView := .ofTag "date" ⟨.obj [("format", .str "MM/DD/YYYY")], none⟩

/-- The third of May is stored, and what is shown of the same text is the fifth of March. -/
theorem month_and_day_shown_swapped :
    monthDayDate.coerce (.str "05/03/2024") = .ok (.str "2024-05-03") ∧
      monthDayDate.display (.str "05/03/2024") = "03/05/2024" ∧
      ¬ ∀ (f : FieldView) (s : String) (d : Date) (m : Moment), f.kind = .maskedDate →
        f.config.text? "valueFormat" = none → f.coerce (.str s) = .ok (.str d.text) →
        shownMoment? (.str s) = some m → m.date = d := by
  have hstored : monthDayDate.coerce (.str "05/03/2024") = .ok (.str (Date.text ⟨2024, 5, 3⟩)) := by rfl
  have hshown : shownMoment? (.str "05/03/2024") = some (.ofDate ⟨2024, 3, 5⟩) := by rfl
  refine ⟨hstored, by rfl, fun hall => ?_⟩
  exact absurd (hall _ _ _ _ rfl rfl hstored hshown) (by decide)

end FieldView

end BackOffice
