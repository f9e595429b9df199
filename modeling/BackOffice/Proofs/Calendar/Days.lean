import BackOffice.Field.Coercion
import Mathlib

/-!
Days counted and dates. Every count of days is a day of a year that begins in March, so that a leap day is the last of
its year. With that, every date that a count gives is one of the calendar.
-/

namespace BackOffice

namespace Date

/-- A day that the calendar has. -/
structure Valid (d : Date) : Prop where
  year : firstYear ≤ d.year ∧ d.year ≤ lastYear
  month : 1 ≤ d.month ∧ d.month ≤ 12
  day : 1 ≤ d.day ∧ d.day ≤ daysInMonth d.year d.month

theorem Valid.of?_eq {d : Date} (h : d.Valid) : of? d.year d.month d.day = some d :=
  if_pos ⟨h.year.1, h.year.2, h.month.1, h.month.2, h.day.1, h.day.2⟩

theorem valid_of? {year : Int} {month day : Nat} {d : Date} (h : of? year month day = some d) : d.Valid := by
  unfold of? at h
  split at h
  next hvalid =>
    obtain ⟨hfirst, hlast, hmonth, hmonth', hday, hday'⟩ := hvalid
    cases h
    exact ⟨⟨hfirst, hlast⟩, ⟨hmonth, hmonth'⟩, ⟨hday, hday'⟩⟩
  next => cases h

/-! ### Years that begin in March -/

/-- The leap days of a year. -/
def leapDays (year : Int) : Int := if isLeapYear year then 1 else 0

theorem leapDays_eq (year : Int) :
    leapDays year = if year % 4 = 0 ∧ (year % 100 ≠ 0 ∨ year % 400 = 0) then 1 else 0 := by
  simp [leapDays, isLeapYear]

/-- The days before the first of March of a year, since that of the year zero. -/
def marchDays (year : Int) : Int := 365 * year + year / 4 - year / 100 + year / 400

/-- The year that begins in March has as many leap days as the year of its last month. -/
theorem marchDays_succ (year : Int) : marchDays (year + 1) = marchDays year + 365 + leapDays (year + 1) := by
  rw [leapDays_eq, marchDays, marchDays]
  split <;> omega

/-- Every count of days is a day of some year. -/
theorem exists_marchDay (days : Int) :
    ∃ year day, 0 ≤ day ∧ day ≤ 364 + leapDays (year + 1) ∧ days = marchDays year + day := by
  have hbounded : ∃ b, ∀ year, marchDays year ≤ days → year ≤ b :=
    ⟨days.natAbs, fun year h => by unfold marchDays at h; omega⟩
  have hsome : ∃ year, marchDays year ≤ days := ⟨-days.natAbs - 1, by unfold marchDays; omega⟩
  obtain ⟨year, hyear, hgreatest⟩ := Int.exists_greatest_of_bdd hbounded hsome
  have hnext := hgreatest (year + 1)
  rw [marchDays_succ] at hnext
  exact ⟨year, days - marchDays year, by omega, by omega, by omega⟩

/-- The month of a day of a year that begins in March. -/
def monthOf (day : Nat) : Nat :=
  let fromMarch := (5 * day + 2) / 153
  if fromMarch < 10 then fromMarch + 3 else fromMarch - 9

/-- The date of a day of a year that begins in March. -/
def ofMarchDay (year : Int) (day : Nat) : Date :=
  ⟨year + if monthOf day ≤ 2 then 1 else 0, monthOf day, day - daysBeforeMonth ((5 * day + 2) / 153) + 1⟩

/-- The days of a cycle of 400 years, without its leap days. -/
def commonDays (days : Int) : Int := days - days / 1460 + days / 36524 - days / 146096

theorem commonDays_le {a b : Int} (h : a ≤ b) : commonDays a ≤ commonDays b := by
  unfold commonDays
  omega

/-- The first and the last day of a year of the cycle are days of that year. -/
theorem commonDays_first_last : ∀ year : Fin 400,
    commonDays (marchDays (year : Nat)) / 365 = (year : Nat) ∧
      commonDays (marchDays (year : Nat) + 364 + leapDays ((year : Nat) + 1)) / 365 = (year : Nat) := by
  decide +kernel

theorem commonDays_div {year day : Int} (hyear : 0 ≤ year) (hyear' : year < 400) (hday : 0 ≤ day)
    (hday' : day ≤ 364 + leapDays (year + 1)) : commonDays (marchDays year + day) / 365 = year := by
  obtain ⟨n, rfl⟩ := Int.eq_ofNat_of_zero_le hyear
  obtain ⟨hfirst, hlast⟩ := commonDays_first_last ⟨n, by omega⟩
  have hlow := commonDays_le (show marchDays n ≤ marchDays n + day by omega)
  have hhigh := commonDays_le (show marchDays n + day ≤ marchDays n + 364 + leapDays (n + 1) by omega)
  dsimp only at hfirst hlast
  omega

/-- The date of a count of days is that of the day in its year. -/
theorem ofDays_marchDay {year : Int} {day : Nat} (hday : day ≤ 364 + leapDays (year + 1)) :
    ofDays (marchDays year + day - 719468) = ofMarchDay year day := by
  have hleap : leapDays (year % 400 + 1) = leapDays (year + 1) := by
    rw [leapDays_eq, leapDays_eq]
    congr 1
    rw [eq_iff_iff]
    omega
  have hcycle : marchDays year = 146097 * (year / 400) + marchDays (year % 400) := by
    unfold marchDays
    omega
  have hstart : marchDays (year % 400) = 365 * (year % 400) + year % 400 / 4 - year % 400 / 100 := by
    unfold marchDays
    omega
  have hera : (marchDays year + day) / 146097 = year / 400 := by
    have := leapDays_eq (year + 1)
    split at this <;> omega
  have hofEra : marchDays year + day - year / 400 * 146097 = marchDays (year % 400) + day := by omega
  have hyear : (marchDays (year % 400) + day - (marchDays (year % 400) + day) / 1460 +
      (marchDays (year % 400) + day) / 36524 - (marchDays (year % 400) + day) / 146096) / 365 = year % 400 :=
    commonDays_div (by omega) (by omega) (by omega) (by omega)
  have hofYear : marchDays (year % 400) + day - (365 * (year % 400) + year % 400 / 4 - year % 400 / 100) = day := by
    omega
  have hmonth : ((5 * (day : Int) + 2) / 153).toNat = (5 * day + 2) / 153 := by omega
  have hfirst : ((day : Int) - daysBeforeMonth ((5 * day + 2) / 153) + 1).toNat =
      day - daysBeforeMonth ((5 * day + 2) / 153) + 1 := by
    unfold daysBeforeMonth
    omega
  have hwhole : year % 400 + year / 400 * 400 = year := by omega
  simp only [ofDays, sub_add_cancel, hera, hofEra, hyear, hofYear, hmonth, hfirst, hwhole]
  rfl

/-! ### The dates of the calendar -/

/-- The months of a year that begins in March, and their days; only February has a day more in a leap year. -/
theorem monthOf_spec : ∀ day : Fin 366, 1 ≤ monthOf day ∧ monthOf day ≤ 12 ∧ (monthOf day ≤ 2 ↔ 306 ≤ (day : Nat)) ∧
    (ofMarchDay 0 day).day ≤ if monthOf day = 2 then if (day : Nat) = 365 then 29 else 28
      else if monthOf day = 4 ∨ monthOf day = 6 ∨ monthOf day = 9 ∨ monthOf day = 11 then 30 else 31 := by
  decide +kernel

/-- Every count of days is a day of the calendar, if its year is in range. -/
theorem valid_ofDays {days : Int} (h : (ofDays days).inRange = true) : (ofDays days).Valid := by
  obtain ⟨year, day, hday, hday', hdays⟩ := exists_marchDay (days + 719468)
  obtain ⟨day, rfl⟩ := Int.eq_ofNat_of_zero_le hday
  obtain rfl : days = marchDays year + day - 719468 := by omega
  have hleap := leapDays_eq (year + 1)
  rw [ofDays_marchDay hday'] at h ⊢
  obtain ⟨hlow, hhigh, -, hlast⟩ := monthOf_spec ⟨day, by split at hleap <;> omega⟩
  simp only [inRange, Bool.and_eq_true, decide_eq_true_eq] at h
  refine ⟨h, ⟨hlow, hhigh⟩, Nat.succ_pos _, hlast.trans ?_⟩
  show _ ≤ daysInMonth (year + if monthOf day ≤ 2 then 1 else 0) (monthOf day)
  unfold daysInMonth
  by_cases hfebruary : monthOf day = 2
  · have hleapYear : day = 365 → isLeapYear (year + 1) = true := by
      intro hend
      by_contra hcommon
      rw [leapDays, if_neg hcommon] at hday'
      omega
    simp only [hfebruary, le_refl, if_true]
    by_cases hend : day = 365
    · rw [if_pos hend, if_pos (hleapYear hend)]
    · rw [if_neg hend]
      split <;> omega
  · rw [if_neg hfebruary, if_neg hfebruary]

/-- A day counted in a year is a day of that year. -/
theorem year_ofDays_ordinal {year : Int} {ordinal : Nat} (hfirst : 1 ≤ ordinal)
    (hlast : ordinal ≤ if isLeapYear year then 366 else 365) :
    (ofDays (toDays ⟨year, 1, 1⟩ + ordinal - 1)).year = year := by
  have hdays : toDays ⟨year, 1, 1⟩ + ordinal - 1 = marchDays (year - 1) + (305 + ordinal : Nat) - 719468 := by
    simp only [toDays, marchDays, daysBeforeMonth, Nat.one_le_ofNat, if_true]
    omega
  have hnext := marchDays_succ (year - 1)
  have hlength : (ordinal : Int) ≤ 365 + leapDays year ∧ 0 ≤ leapDays year ∧ leapDays year ≤ 1 := by
    unfold leapDays
    split at hlast <;> simp_all
  rw [sub_add_cancel] at hnext
  rcases le_or_gt ((305 + ordinal : Nat) : Int) (364 + leapDays year) with hbefore | hafter
  · -- January and February end the year that began in March
    have hmonth : monthOf (305 + ordinal) ≤ 2 := (monthOf_spec ⟨305 + ordinal, by omega⟩).2.2.1.2 (by simp; omega)
    rw [hdays, ofDays_marchDay (by rwa [sub_add_cancel])]
    show year - 1 + (if monthOf (305 + ordinal) ≤ 2 then 1 else 0) = year
    rw [if_pos hmonth]
    omega
  · obtain ⟨day, hday⟩ : ∃ day : Nat, (day : Int) = (305 + ordinal : Nat) - (365 + leapDays year) :=
      ⟨_, Int.toNat_of_nonneg (by omega)⟩
    have hmonth : ¬ monthOf day ≤ 2 := fun h => by
      have : 306 ≤ day := (monthOf_spec ⟨day, by omega⟩).2.2.1.1 h
      omega
    have hsame : marchDays (year - 1) + (305 + ordinal : Nat) - 719468 = marchDays year + day - 719468 := by omega
    have hbound : (day : Int) ≤ 364 + leapDays (year + 1) := by
      have := leapDays_eq (year + 1)
      split at this <;> omega
    rw [hdays, hsame, ofDays_marchDay hbound]
    show year + (if monthOf day ≤ 2 then 1 else 0) = year
    rw [if_neg hmonth]
    omega

theorem valid_ofOrdinal? {year : Int} {ordinal : Nat} {d : Date} (h : ofOrdinal? year ordinal = some d) : d.Valid := by
  unfold ofOrdinal? at h
  by_cases hrange : firstYear ≤ year ∧ year ≤ lastYear ∧ 1 ≤ ordinal ∧ ordinal ≤ (if isLeapYear year then 366 else 365)
  · rw [if_pos hrange] at h
    cases h
    have hyear := year_ofDays_ordinal hrange.2.2.1 hrange.2.2.2
    refine valid_ofDays ?_
    rw [inRange, hyear]
    simp [hrange.1, hrange.2.1]
  · rw [if_neg hrange] at h
    cases h

theorem valid_ofWeekFrom? {year : Int} {week weekday firstDay : Nat} {d : Date}
    (h : ofWeekFrom? year week weekday firstDay = some d) : d.Valid := by
  simp only [ofWeekFrom?] at h
  split at h
  · cases h
  · exact valid_ofOrdinal? h

theorem valid_ofWeek? {weekYear : Int} {week weekday : Nat} {d : Date} (h : ofWeek? weekYear week weekday = some d) :
    d.Valid := by
  simp only [ofWeek?] at h
  split at h
  next hrange =>
    cases h
    exact valid_ofDays hrange.2.2
  next => cases h

end Date

/-! ### The dates that are read -/

theorem MomentParts.valid_of_candidate? {p : MomentParts} {d : Date} (h : p.candidate? = some d) : d.Valid := by
  simp only [candidate?, Option.bind_eq_bind, Option.bind_eq_some_iff] at h
  obtain ⟨year, -, weekYear, -, h⟩ := h
  split at h
  · exact Date.valid_of? h
  · split at h
    · exact Date.valid_ofOrdinal? h
    · split at h
      · exact Date.valid_ofWeekFrom? h
      · exact Date.valid_ofWeekFrom? h
      · split at h
        · exact Date.valid_ofWeek? h
        · cases h
      · cases h

theorem MomentParts.valid_of_date? {p : MomentParts} {d : Date} (h : p.date? = some d) : d.Valid :=
  valid_of_candidate? (Option.filter_eq_some_iff.1 h).1

theorem Moment.valid_ofSeconds? {seconds : Int} {nano : Nat} {m : Moment} (h : ofSeconds? seconds nano = some m) :
    m.date.Valid := by
  simp only [ofSeconds?] at h
  split at h
  next hrange =>
    cases h
    exact Date.valid_ofDays hrange
  next => cases h

theorem MomentParts.valid_of_fromTimestamp? {p : MomentParts} {t : Int} {m : Moment}
    (h : p.fromTimestamp? t = some m) : m.date.Valid := by
  simp only [fromTimestamp?, Option.bind_eq_bind, Option.bind_eq_some_iff] at h
  obtain ⟨start, -, h⟩ := h
  -- however the second is taken, the date is read off the parts in the end
  split_ifs at h <;> simp only [Option.bind_eq_some_iff, reduceCtorEq, false_and, exists_false] at h
  all_goals
    obtain ⟨_, -, _, -, _, -, _, -, _, -, date, hdate, _, -, h⟩ := h
    cases h
    exact valid_of_date? hdate

theorem MomentParts.valid_of_moment? {p : MomentParts} {m : Moment} (h : p.moment? = some m) : m.date.Valid := by
  unfold moment? at h
  split at h
  next date time hdate htime =>
    cases (Option.filter_eq_some_iff.1 h).1
    exact valid_of_date? hdate
  next =>
    obtain ⟨t, -, h⟩ := Option.bind_eq_some_iff.1 h
    exact valid_of_fromTimestamp? h

namespace Moment

theorem valid_readMoment? {layout : Layout} {text : String} {m : Moment} (h : layout.readMoment? text = some m) :
    m.date.Valid := by
  obtain ⟨p, -, h⟩ := Option.bind_eq_some_iff.1 h
  exact MomentParts.valid_of_moment? h

theorem valid_readDate? {layout : Layout} {text : String} {d : Date} (h : layout.readDate? text = some d) :
    d.Valid := by
  obtain ⟨p, -, h⟩ := Option.bind_eq_some_iff.1 h
  exact MomentParts.valid_of_date? h

theorem valid_ofStamp? {text : String} {m : Moment} (h : ofStamp? text = some m) : m.date.Valid := by
  simp only [ofStamp?, Option.bind_eq_bind, Option.bind_eq_some_iff] at h
  obtain ⟨_, -, h⟩ := h
  split at h
  · cases h
  · obtain ⟨_, -, h⟩ := Option.bind_eq_some_iff.1 h
    exact valid_ofSeconds? h

theorem valid_ofLayout? {layout : Layout} {text : String} {m : Moment} (h : ofLayout? text layout = some m) :
    m.date.Valid := by
  obtain h | ⟨-, h⟩ := Option.or_eq_some_iff.1 h
  · exact valid_readMoment? h
  · obtain ⟨d, hdate, rfl⟩ := Option.map_eq_some_iff.1 h
    exact valid_readDate? hdate

/-- The usual ways of reading a moment, without a layout of its own. -/
theorem ofText?_eq (text : String) (layout : Option Layout) :
    ofText? text layout = (layout.bind (ofLayout? text ·)).or (ofText? text none) := by
  cases layout with
  | none => rfl
  | some layout => cases h : ofLayout? text layout <;> simp [ofText?, h]

/-- Every moment that is read has a date of the calendar. -/
theorem valid_ofText? {text : String} {layout : Option Layout} {m : Moment} (h : ofText? text layout = some m) :
    m.date.Valid := by
  simp only [ofText?, Option.orElse_eq_orElse, Option.orElse_eq_or, Option.or_eq_some_iff] at h
  obtain h | ⟨-, h | ⟨-, h | ⟨-, h | ⟨-, h⟩⟩⟩⟩ := h
  · obtain ⟨own, -, h⟩ := Option.bind_eq_some_iff.1 h
    exact valid_ofLayout? h
  · exact valid_ofStamp? h
  · obtain ⟨usual, -, h⟩ := List.exists_of_findSome?_eq_some h
    exact valid_readMoment? h
  · obtain ⟨d, hdate, rfl⟩ := Option.map_eq_some_iff.1 h
    obtain ⟨usual, -, hdate⟩ := List.exists_of_findSome?_eq_some hdate
    exact valid_readDate? hdate
  · obtain ⟨millis, -, h⟩ := Option.bind_eq_some_iff.1 h
    exact valid_ofSeconds? h

end Moment

/-- A text that is read in the usual ways is read so unless a layout of its own reads it. -/
theorem Json.toMoment?_str {s : String} {m : Moment} (h : Moment.ofText? (trim s) none = some m)
    (layout : Option Layout) :
    (Json.str s).toMoment? layout = .ok ((layout.bind (Moment.ofLayout? (trim s))).getD m) := by
  rw [Json.toMoment?, Moment.ofText?_eq, h]
  cases layout.bind (Moment.ofLayout? (trim s)) <;> rfl

theorem Json.valid_toMoment? {layout : Option Layout} {v : Json} {m : Moment} (h : v.toMoment? layout = .ok m) :
    m.date.Valid := by
  unfold toMoment? at h
  split at h
  · split at h
    · split at h
      next hmillis =>
        cases h
        exact Moment.valid_ofSeconds? hmillis
      next => cases h
    · cases h
  · split at h
    next htext =>
      cases h
      exact Moment.valid_ofText? htext
    next => cases h
  · cases h

end BackOffice
