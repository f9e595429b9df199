import BackOffice.Proofs.Calendar.Days
import BackOffice.Proofs.Config.Encodings

/-!
The text of a date reads back. None of the usual ways to read a moment takes it for anything else, so that a date comes
back from its text wherever no layout of its own comes first.
-/

namespace BackOffice

/-! ### Padded numbers -/

section

variable {width n : Nat}

theorem isDigit_of_mem_padded {c : Char} (h : c ∈ padded '0' width n) : c.isDigit = true := by
  obtain h | h := List.mem_append.1 h
  · rw [List.eq_of_mem_replicate h]
    rfl
  · exact Nat.isDigit_of_mem_toDigits (by decide) (by decide) h

theorem isBlank_of_mem_padded {c : Char} (h : c ∈ padded '0' width n) : isBlank c = false :=
  isBlank_of_isNumeral (isNumeral_of_isDigit (isDigit_of_mem_padded h))

theorem padded_ne_nil : padded '0' width n ≠ [] := by
  simp [padded, Decimal.digitsOf, Nat.toDigits_ne_nil]

theorem ofDigitChars_padded : Nat.ofDigitChars 10 (padded '0' width n) 0 = n := by
  rw [padded, Nat.ofDigitChars_append, Nat.ofDigitChars_replicate_zero, mul_zero]
  exact Nat.ofDigitChars_toDigits (by decide) (by decide)

theorem length_padded (hwidth : 0 < width) (h : n < 10 ^ width) : (padded '0' width n).length = width := by
  have hdigits : (Decimal.digitsOf n).length ≤ width := (Nat.length_toDigits_le_iff (by decide) hwidth).2 h
  rw [padded, List.length_append, List.length_replicate]
  omega

end

/-- A text that does not go on with a digit. -/
def EndsDigits (cs : List Char) : Prop := ∀ c ∈ cs.head?, c.isDigit = false

theorem endsDigits_nil : EndsDigits [] := nofun

theorem endsDigits_cons {c : Char} (h : c.isDigit = false) (cs : List Char) : EndsDigits (c :: cs) := by
  rintro d ⟨⟩
  exact h

namespace LayoutReader

section

variable {front rest : List Char} (hdigits : ∀ c ∈ front, c.isDigit = true) (hrest : EndsDigits rest)

include hdigits hrest

theorem takeWhile_isDigit_append (n : Nat) : (front ++ rest.take n).takeWhile Char.isDigit = front := by
  rw [List.takeWhile_append_of_pos hdigits]
  cases n with
  | zero => simp
  | succ n =>
    cases rest with
    | nil => simp
    | cons c rest => simp [hrest c rfl]

/-- A number is read in front of a text that does not go on with a digit. -/
theorem number?_append {width : Nat} (hne : front ≠ []) (hwidth : front.length ≤ width)
    (hvalue : Nat.ofDigitChars 10 front 0 < 2 ^ 63) :
    number? width (front ++ rest) = some ((Nat.ofDigitChars 10 front 0 : Int), rest) := by
  have htake : ((front ++ rest).take width).takeWhile Char.isDigit = front := by
    rw [List.take_append, List.take_of_length_le hwidth]
    exact takeWhile_isDigit_append hdigits hrest _
  have hfits : ¬ (front.isEmpty = true ∨ Nat.pow 2 63 ≤ Nat.ofDigitChars 10 front 0) := by
    rw [List.isEmpty_iff]
    exact not_or.2 ⟨hne, Nat.not_le.2 hvalue⟩
  simp only [number?, htake]
  rw [List.drop_left]
  exact if_neg hfits

end

theorem number?_padded {width fill n : Nat} {rest : List Char} (hwidth : (padded '0' fill n).length ≤ width)
    (hlarge : n < 2 ^ 63) (hrest : EndsDigits rest) : number? width (padded '0' fill n ++ rest) = some ((n : Int), rest) := by
  have hread := number?_append (fun c hc => isDigit_of_mem_padded hc) hrest padded_ne_nil hwidth
    (ofDigitChars_padded.trans_lt hlarge)
  rwa [ofDigitChars_padded] at hread

theorem signedNumber?_of_isDigit {part : NumberPart} {c : Char} (hc : c.isDigit = true) (cs : List Char) :
    signedNumber? part (c :: cs) = number? (limits part).1 (c :: cs) := by
  have hminus : c ≠ '-' := by
    rintro rfl
    cases hc
  have hplus : c ≠ '+' := by
    rintro rfl
    cases hc
  cases hlimits : limits part with
  | mk width signed => cases signed <;> simp [signedNumber?, hlimits, hminus, hplus]

theorem signedNumber?_padded {part : NumberPart} {fill n : Nat} {rest : List Char}
    (hwidth : (padded '0' fill n).length ≤ (limits part).1) (hlarge : n < 2 ^ 63) (hrest : EndsDigits rest) :
    signedNumber? part (padded '0' fill n ++ rest) = some ((n : Int), rest) := by
  have hne : padded '0' fill n ≠ [] := padded_ne_nil
  obtain ⟨c, cs, hcs⟩ := List.exists_cons_of_ne_nil hne
  have hdigit : c.isDigit = true := isDigit_of_mem_padded (hcs ▸ List.mem_cons_self)
  have hread := number?_padded hwidth hlarge hrest
  rw [hcs] at hread ⊢
  exact (signedNumber?_of_isDigit hdigit _).trans hread

/-- The year of a date is read whole, with its sign. -/
theorem signedNumber?_yearChars {year : Int} (hyear : year.natAbs < 2 ^ 63) {rest : List Char}
    (hrest : EndsDigits rest) : signedNumber? .year (yearChars year ++ rest) = some (year, rest) := by
  have hall {fill : Nat} : (padded '0' fill year.natAbs).length ≤ (padded '0' fill year.natAbs ++ rest).length := by
    simp
  have hminus (cs : List Char) : signedNumber? .year ('-' :: cs) = (number? cs.length cs).map fun r => (-r.1, r.2) := rfl
  have hplus (cs : List Char) : signedNumber? .year ('+' :: cs) = number? cs.length cs := rfl
  unfold yearChars
  split
  next hnegative =>
    have hvalue : -(year.natAbs : Int) = year := by omega
    rw [List.cons_append, hminus, number?_padded hall hyear hrest, Option.map_some, hvalue]
  next hnonneg =>
    have hvalue : (year.natAbs : Int) = year := by omega
    split
    next hlong =>
      rw [List.cons_append, hplus, number?_padded hall hyear hrest, hvalue]
    next hshort =>
      have hlength : (padded '0' 4 year.natAbs).length = 4 := length_padded (by decide) (by omega)
      rw [signedNumber?_padded hlength.le hyear hrest, hvalue]

/-! ### The items of a date -/

theorem item?_number {p p' : MomentParts} {part : NumberPart} {v : Int} {front rest : List Char} (padding : Padding)
    (hne : front ≠ []) (hblank : ∀ c ∈ front, isBlank c = false)
    (hread : signedNumber? part (front ++ rest) = some (v, rest)) (hset : p.set? part v = some p') :
    item? p (front ++ rest) (.number part padding) = some (p', rest) := by
  obtain ⟨c, cs, rfl⟩ := List.exists_cons_of_ne_nil hne
  have htrim : trimFront (c :: cs ++ rest) = c :: cs ++ rest :=
    List.dropWhile_cons_of_neg (by simp [hblank c List.mem_cons_self])
  simp only [item?, htrim, hread, Option.bind_eq_bind, Option.bind_some, hset, Option.map_some]

/-- What the text of a date says. -/
def said (d : Date) : MomentParts := { numbers := [(.day, d.day), (.month, d.month), (.year, d.year)] }

variable {d : Date}

theorem natAbs_year_lt (hd : d.Valid) : d.year.natAbs < 2 ^ 31 := by
  have := hd.year
  unfold Date.firstYear Date.lastYear at this
  omega

theorem day_lt (hd : d.Valid) : d.day ≤ 31 := by
  have := hd.day
  unfold Date.daysInMonth at this
  split_ifs at this <;> omega

theorem isBlank_of_mem_yearChars {year : Int} {c : Char} (h : c ∈ yearChars year) : isBlank c = false := by
  unfold yearChars at h
  split_ifs at h
  · obtain rfl | h := List.mem_cons.1 h
    · rfl
    · exact isBlank_of_mem_padded h
  · obtain rfl | h := List.mem_cons.1 h
    · rfl
    · exact isBlank_of_mem_padded h
  · exact isBlank_of_mem_padded h

theorem yearChars_ne_nil {year : Int} : yearChars year ≠ [] := by
  unfold yearChars
  split_ifs
  · exact List.cons_ne_nil _ _
  · exact List.cons_ne_nil _ _
  · exact padded_ne_nil

theorem text_toList (d : Date) :
    d.text.toList = yearChars d.year ++ '-' :: (padded '0' 2 d.month ++ '-' :: padded '0' 2 d.day) := by
  simp [Date.text]

theorem items?_year (hd : d.Valid) (layout : Layout) {rest : List Char} (hrest : EndsDigits rest) :
    items? {} (.zero .year :: layout) (yearChars d.year ++ rest) = items? { numbers := [(.year, d.year)] } layout rest := by
  have hyear := natAbs_year_lt hd
  have hrange : ¬ (d.year < -2147483648 ∨ 2147483647 < d.year) := by omega
  have hset : ({} : MomentParts).set? .year d.year = some { numbers := [(.year, d.year)] } := if_neg hrange
  have hitem := item?_number .zero yearChars_ne_nil (fun c hc => isBlank_of_mem_yearChars hc)
    (signedNumber?_yearChars (by omega) hrest) hset
  simp only [items?, LayoutItem.zero, hitem, Option.bind_eq_bind, Option.bind_some]

theorem items?_literal {p : MomentParts} (c : Char) (layout : Layout) (rest : List Char) :
    items? p (.literal [c] :: layout) (c :: rest) = items? p layout rest := by
  simp [items?, item?]

/-- A part of two digits. -/
theorem items?_padded {p p' : MomentParts} {part : NumberPart} {n : Nat} (hlimits : limits part = (2, false))
    (hn : n < 100) (hset : p.set? part n = some p') (layout : Layout) {rest : List Char} (hrest : EndsDigits rest) :
    items? p (.zero part :: layout) (padded '0' 2 n ++ rest) = items? p' layout rest := by
  have hwidth : (padded '0' 2 n).length ≤ (limits part).1 := by
    rw [length_padded (by decide) hn, hlimits]
  have hitem := item?_number .zero padded_ne_nil (fun c hc => isBlank_of_mem_padded hc)
    (signedNumber?_padded hwidth (by omega) hrest) hset
  simp only [items?, LayoutItem.zero, hitem, Option.bind_eq_bind, Option.bind_some]

/-- The text of a date is read as what it says, whatever comes behind it in the layout. -/
theorem items?_day (hd : d.Valid) (layout : Layout) :
    items? {} (LayoutItem.yearMonthDay ++ layout) d.text.toList = items? (said d) layout [] := by
  have hmonth := hd.month
  have hday := hd.day
  have hdayEnd := day_lt hd
  have hmonthRange : ¬ ((d.month : Int) < 1 ∨ 12 < (d.month : Int)) := by omega
  have hdayRange : ¬ ((d.day : Int) < 1 ∨ 31 < (d.day : Int)) := by omega
  have hmonthSet : ({ numbers := [(.year, d.year)] } : MomentParts).set? .month d.month =
      some { numbers := [(.month, d.month), (.year, d.year)] } := if_neg hmonthRange
  have hdaySet : ({ numbers := [(.month, d.month), (.year, d.year)] } : MomentParts).set? .day d.day =
      some (said d) := if_neg hdayRange
  calc
    _ = items? {} (.zero .year :: .literal ['-'] :: .zero .month :: .literal ['-'] :: .zero .day :: layout)
        (yearChars d.year ++ '-' :: (padded '0' 2 d.month ++ '-' :: (padded '0' 2 d.day ++ []))) := by
      rw [text_toList, List.append_nil]
      rfl
    _ = items? (said d) layout [] := by
      rw [items?_year hd _ (endsDigits_cons rfl _), items?_literal,
        items?_padded rfl (by omega) hmonthSet _ (endsDigits_cons rfl _), items?_literal,
        items?_padded rfl (by omega) hdaySet _ endsDigits_nil]

theorem date?_said (hd : d.Valid) : (said d).date? = some d := by
  have hcandidate : (said d).candidate? = some d := by
    show Date.of? d.year (d.month : Int).toNat (d.day : Int).toNat = some d
    rw [Int.toNat_natCast, Int.toNat_natCast]
    exact hd.of?_eq
  have hagrees : (said d).agreesWith d = true := by
    have hyear : (said d).get? .year = some d.year := rfl
    have hmonth : (said d).get? .month = some (d.month : Int) := rfl
    have hday : (said d).get? .day = some (d.day : Int) := rfl
    have hother (part : NumberPart) (h : part ∉ [NumberPart.year, .month, .day]) : (said d).get? part = none := by
      cases part <;> first | rfl | simp at h
    have hweekday : (said d).weekday = none := rfl
    simp [MomentParts.agreesWith, hyear, hmonth, hday, hother, hweekday]
  rw [MomentParts.date?, hcandidate, Option.filter_some, if_pos hagrees]

/-! ### The usual ways of reading -/

theorem momentLayouts_eq : Moment.momentLayouts =
    [LayoutItem.yearMonthDay ++ .space [' '] :: LayoutItem.clock,
      LayoutItem.yearMonthDay ++ .literal ['T'] :: LayoutItem.clock,
      .zero .year :: .literal ['/'] :: .zero .month :: .literal ['/'] :: .zero .day :: .space [' '] ::
        LayoutItem.clock] := rfl

theorem dateLayouts_eq : ∃ layouts, Moment.dateLayouts = LayoutItem.yearMonthDay :: layouts := ⟨_, rfl⟩

theorem readDate?_text (hd : d.Valid) : Layout.readDate? LayoutItem.yearMonthDay d.text = some d := by
  have hitems := items?_day hd []
  rw [List.append_nil] at hitems
  rw [Layout.readDate?, hitems]
  exact date?_said hd

/-- No layout of a moment takes a text without a time of day. -/
theorem findSome?_momentLayouts (hd : d.Valid) : Moment.momentLayouts.findSome? (·.readMoment? d.text) = none := by
  have hspace : items? {} (LayoutItem.yearMonthDay ++ .space [' '] :: LayoutItem.clock) d.text.toList = none :=
    items?_day hd _
  have hletter : items? {} (LayoutItem.yearMonthDay ++ .literal ['T'] :: LayoutItem.clock) d.text.toList = none :=
    items?_day hd _
  have hslash (layout : Layout) : items? {} (.zero .year :: .literal ['/'] :: layout) d.text.toList = none := by
    rw [text_toList, items?_year hd _ (endsDigits_cons rfl _)]
    rfl
  simp only [momentLayouts_eq, List.findSome?_cons, List.findSome?_nil, Layout.readMoment?, hspace, hletter, hslash,
    Option.bind_none]

theorem exactNumber?_padded {count n : Nat} (hcount : 0 < count) (hn : n < 10 ^ count) (hlarge : n < 2 ^ 63)
    {rest : List Char} (hrest : EndsDigits rest) :
    exactNumber? count (padded '0' count n ++ rest) = some ((n : Int), rest) := by
  have hlength : (padded '0' count n).length = count := length_padded hcount hn
  have htake : ((padded '0' count n ++ rest).take count).filter Char.isDigit = padded '0' count n := by
    rw [List.take_left' hlength]
    exact List.filter_eq_self.2 fun c hc => isDigit_of_mem_padded hc
  rw [exactNumber?, htake, if_pos hlength, number?_padded hlength.le hlarge hrest]

theorem exactNumber?_of_sign {c : Char} (hc : c.isDigit = false) (cs : List Char) : exactNumber? 4 (c :: cs) = none := by
  have hfew : ((cs.take 3).filter Char.isDigit).length ≤ 3 := (List.length_filter_le _ _).trans (List.length_take_le _ _)
  rw [exactNumber?, List.take_succ_cons, List.filter_cons_of_neg (by simp [hc]), if_neg (by omega)]

/-- A text without a time of day is no stamp. -/
theorem ofStamp?_text (hd : d.Valid) : Moment.ofStamp? d.text = none := by
  have hmonth := hd.month
  have hday := day_lt hd
  have hstamp : stamp? {} d.text.toList = none := by
    rw [text_toList]
    unfold yearChars
    split_ifs with hnegative hlong
    · rw [stamp?, List.cons_append, exactNumber?_of_sign rfl]
      rfl
    · rw [stamp?, List.cons_append, exactNumber?_of_sign rfl]
      rfl
    · have hyear (cs : List Char) : exactNumber? 4 (padded '0' 4 d.year.natAbs ++ '-' :: cs) =
          some ((d.year.natAbs : Int), '-' :: cs) :=
        exactNumber?_padded (by decide) (by omega) (by omega) (endsDigits_cons rfl cs)
      have hmonthRead (cs : List Char) : exactNumber? 2 (padded '0' 2 d.month ++ '-' :: cs) =
          some ((d.month : Int), '-' :: cs) :=
        exactNumber?_padded (by decide) (by omega) (by omega) (endsDigits_cons rfl cs)
      have hdayRead : exactNumber? 2 (padded '0' 2 d.day ++ []) = some ((d.day : Int), []) :=
        exactNumber?_padded (by decide) (by omega) (by omega) endsDigits_nil
      rw [List.append_nil] at hdayRead
      rw [stamp?, hyear]
      change (exactNumber? 2 (padded '0' 2 d.month ++ '-' :: padded '0' 2 d.day)).bind _ = none
      rw [hmonthRead]
      change (exactNumber? 2 (padded '0' 2 d.day)).bind _ = none
      rw [hdayRead]
      rfl
  rw [Moment.ofStamp?, hstamp]
  rfl

end LayoutReader

namespace Date

open LayoutReader

variable {d : Date}

/-- A date comes back from its text. -/
theorem ofText?_text (hd : d.Valid) : Moment.ofText? d.text none = some (.ofDate d) := by
  obtain ⟨layouts, hlayouts⟩ := dateLayouts_eq
  simp [Moment.ofText?, ofStamp?_text hd, findSome?_momentLayouts hd, hlayouts, readDate?_text hd]

theorem trim_text (d : Date) : trim d.text = d.text := by
  have hblank : ∀ c ∈ d.text.toList, isBlank c = false := by
    intro c hc
    simp only [text_toList, List.mem_append, List.mem_cons] at hc
    obtain hc | rfl | hc | rfl | hc := hc
    · exact isBlank_of_mem_yearChars hc
    · rfl
    · exact isBlank_of_mem_padded hc
    · rfl
    · exact isBlank_of_mem_padded hc
  have hne : d.text.toList ≠ [] := by simp [text_toList]
  obtain ⟨c, back, hcons⟩ := List.exists_cons_of_ne_nil hne
  exact trim_eq_self hcons (List.dropLast_concat_getLast hne).symm (hblank c (hcons ▸ List.mem_cons_self))
    (hblank _ (List.getLast_mem hne))

end Date

end BackOffice
