import BackOffice.Field.View

/-!
Date masks. A mask is made of tokens, which stand for the parts of a date, and of characters that stand for themselves.
The tokens are replaced by the directives of a layout, one kind of token after another in the whole mask, so a
replacement meets what those before it have put in. Only the last one takes notice of that: it replaces the token of
minutes, and the directive of a month ends with the letter which that token is made of. So a mask becomes the layout
that has a directive for each token just when no minutes directly follow a month. Where some do, the letter of the month
comes to stand behind them.
-/

namespace BackOffice

/-! ### Replacements in a text -/

section Replacement

variable {part by_ cs front : List Char} {mark : Char}

theorem length_drop_le (h : part ≠ []) (c : Char) (cs : List Char) :
    ((c :: cs).drop part.length).length ≤ cs.length := by
  have hpart : 0 < part.length := List.length_pos_iff.2 h
  rw [List.length_drop, List.length_cons]
  omega

/-- The fuel of a replacement makes no difference if it is enough. -/
theorem replaceAll.go_of_le (part by_ : List Char) {n m : Nat} (hn : cs.length ≤ n) (hm : cs.length ≤ m) :
    replaceAll.go part by_ n cs = replaceAll.go part by_ m cs := by
  induction n generalizing m cs with
  | zero =>
    obtain rfl := List.length_eq_zero_iff.1 (Nat.le_zero.1 hn)
    cases m <;> rfl
  | succ n ih =>
    cases cs with
    | nil => cases m <;> rfl
    | cons c rest =>
      rw [List.length_cons] at hn hm
      obtain ⟨m, rfl⟩ : ∃ k, m = k + 1 := ⟨m - 1, by omega⟩
      rw [replaceAll.go, replaceAll.go]
      split
      next h =>
        have hdrop := length_drop_le h.1 c rest
        have hgo := ih (m := m) (Nat.le_trans hdrop (by omega)) (Nat.le_trans hdrop (by omega))
        rw [hgo]
      next =>
        have hgo : replaceAll.go part by_ n rest = replaceAll.go part by_ m rest := ih (by omega) (by omega)
        rw [hgo]

theorem replaceAll_cons (part by_ : List Char) (c : Char) (cs : List Char) :
    replaceAll part by_ (c :: cs) =
      if part ≠ [] ∧ part.isPrefixOf (c :: cs) then by_ ++ replaceAll part by_ ((c :: cs).drop part.length)
      else c :: replaceAll part by_ cs := by
  rw [replaceAll, List.length_cons, replaceAll.go]
  split
  next h =>
    rw [replaceAll.go_of_le part by_ (length_drop_le h.1 c cs) (Nat.le_refl _)]
    rfl
  next => rfl

/-- An occurrence in front is replaced. -/
theorem replaceAll_append (h : part ≠ []) (by_ cs : List Char) :
    replaceAll part by_ (part ++ cs) = by_ ++ replaceAll part by_ cs := by
  obtain ⟨c, rest, rfl⟩ := List.exists_cons_of_ne_nil h
  have hprefix : (c :: rest).isPrefixOf (c :: (rest ++ cs)) = true :=
    List.isPrefixOf_iff_prefix.2 (List.prefix_append (c :: rest) cs)
  rw [List.cons_append, replaceAll_cons, if_pos ⟨h, hprefix⟩, ← List.cons_append, List.drop_left]

/-- A character that no occurrence begins at is passed over. -/
theorem replaceAll_cons_of_not_prefix {c : Char} (h : ¬part <+: c :: cs) (by_ : List Char) :
    replaceAll part by_ (c :: cs) = c :: replaceAll part by_ cs := by
  rw [replaceAll_cons, if_neg]
  rw [List.isPrefixOf_iff_prefix]
  exact fun hc => h hc.2

/-- What does not have the first character of an occurrence is passed over. -/
theorem replaceAll_of_notMem (hpart : part.head? = some mark) (h : mark ∉ front) (by_ cs : List Char) :
    replaceAll part by_ (front ++ cs) = front ++ replaceAll part by_ cs := by
  obtain ⟨tail, rfl⟩ := List.head?_eq_some_iff.1 hpart
  induction front with
  | nil => rfl
  | cons c rest ih =>
    rw [List.mem_cons, not_or] at h
    have hprefix : ¬mark :: tail <+: c :: (rest ++ cs) := fun hc => h.1 (List.cons_prefix_cons.1 hc).1
    rw [List.cons_append, replaceAll_cons_of_not_prefix hprefix, ih h.2, List.cons_append]

end Replacement

/-! ### Masks and layouts -/

/-- A part of a date that has a token in masks. -/
inductive DatePart where
  | year | month | day | hour | minute | second
deriving DecidableEq

namespace DatePart

/-- The token of a part in a mask. -/
def token : DatePart → List Char
  | year => "YYYY".toList
  | month => "MM".toList
  | day => "DD".toList
  | hour => "HH".toList
  | minute => "mm".toList
  | second => "ss".toList

/-- The directive of a part in a layout. -/
def directive : DatePart → List Char
  | year => "%Y".toList
  | month => "%m".toList
  | day => "%d".toList
  | hour => "%H".toList
  | minute => "%M".toList
  | second => "%S".toList

/-- The letter that the token of a part is made of. -/
def letter : DatePart → Char
  | year => 'Y'
  | month => 'M'
  | day => 'D'
  | hour => 'H'
  | minute => 'm'
  | second => 's'

theorem head?_token (p : DatePart) : p.token.head? = some p.letter := by
  cases p <;> rfl

theorem token_ne_nil (p : DatePart) : p.token ≠ [] := by
  cases p <;> decide

theorem letter_notMem_token {p q : DatePart} (h : q ≠ p) : p.letter ∉ q.token := by
  cases p <;> cases q <;> first | exact absurd rfl h | decide

theorem percent_notMem_token (p : DatePart) : '%' ∉ p.token := by
  cases p <;> decide

end DatePart

/-- Whether a character stands for itself in a mask: it is not the percent sign, and no token is made of it. So do all
characters but the percent sign that are no letters, and most letters. -/
def IsSeparator (c : Char) : Prop := c ≠ '%' ∧ ∀ p : DatePart, c ≠ p.letter

/-- A token of a mask, or a character that stands for itself. -/
inductive MaskPart where
  | token (p : DatePart)
  | separator (c : Char) (h : IsSeparator c)

namespace MaskPart

open DatePart (year month day hour minute second)

/-- What a part is in the mask. -/
def mask : MaskPart → List Char
  | token p => p.token
  | separator c _ => [c]

/-- What a part is to be in the layout. -/
def layout : MaskPart → List Char
  | token p => p.directive
  | separator c _ => [c]

/-- What a part is once the tokens of some parts of dates have been replaced. -/
def written (done : List DatePart) : MaskPart → List Char
  | token p => if p ∈ done then p.directive else p.token
  | separator c _ => [c]

variable {p : DatePart} {done : List DatePart} {part : MaskPart}

theorem written_nil : written [] = mask := by
  funext part
  cases part <;> rfl

theorem written_cons_of_ne (h : part ≠ token p) : written (p :: done) part = written done part := by
  cases part with
  | token q =>
    have hq : q ≠ p := fun hq => h (congrArg token hq)
    simp [written, hq]
  | separator c hc => rfl

theorem letter_notMem_written (hdone : ∀ q ∈ done, p.letter ∉ q.directive) (h : part ≠ token p) :
    p.letter ∉ written done part := by
  cases part with
  | token q =>
    have hq : q ≠ p := fun hq => h (congrArg token hq)
    rw [written]
    split
    next hmem => exact hdone q hmem
    next => exact DatePart.letter_notMem_token hq
  | separator c hc => exact fun hmem => hc.2 p (List.mem_singleton.1 hmem).symm

/-- A kind of token is replaced as a whole and without a change to anything else, if its letter is in none of the
directives that have been put in. -/
theorem replaceAll_token (hfresh : p ∉ done) (hdone : ∀ q ∈ done, p.letter ∉ q.directive) (parts : List MaskPart) :
    replaceAll p.token p.directive (parts.flatMap (written done)) = parts.flatMap (written (p :: done)) := by
  induction parts with
  | nil => rfl
  | cons part rest ih =>
    rw [List.flatMap_cons, List.flatMap_cons]
    by_cases h : part = token p
    · have hbefore : written done part = p.token := by rw [h, written, if_neg hfresh]
      have hafter : written (p :: done) part = p.directive := by rw [h, written, if_pos List.mem_cons_self]
      rw [hbefore, hafter, replaceAll_append p.token_ne_nil, ih]
    · rw [replaceAll_of_notMem p.head?_token (letter_notMem_written hdone h), ih, written_cons_of_ne h]

theorem percent_notMem_mask (parts : List MaskPart) : '%' ∉ parts.flatMap mask := by
  intro h
  obtain ⟨part, -, hpart⟩ := List.mem_flatMap.1 h
  cases part with
  | token p => exact p.percent_notMem_token hpart
  | separator c hc => exact hc.1 (List.mem_singleton.1 hpart).symm

/-- What is left to do of a mask once all tokens but those of minutes have been replaced. -/
theorem layoutOfMask_eq (parts : List MaskPart) :
    layoutOfMask (parts.flatMap mask) =
      replaceAll minute.token minute.directive (parts.flatMap (written [month, second, hour, day, year])) := by
  have hpercent : (parts.flatMap mask).contains '%' = false := by
    simpa using percent_notMem_mask parts
  -- From the last of the five back to the first: none meets its own letter in what those before it have put in.
  rw [layoutOfMask, hpercent, ← replaceAll_token (by decide) (by decide), ← replaceAll_token (by decide) (by decide),
    ← replaceAll_token (by decide) (by decide), ← replaceAll_token (by decide) (by decide),
    ← replaceAll_token (by decide) (by decide), written_nil]
  rfl

/-! ### Minutes behind a month -/

/-- The layout that the parts of a mask become behind some letters that are still to come: minutes go in front of these,
and behind a month its own letter is still to come. -/
def layoutBehind : List Char → List MaskPart → List Char
  | late, [] => late
  | late, token minute :: rest => minute.directive ++ layoutBehind late rest
  | late, token month :: rest => late ++ '%' :: layoutBehind ['m'] rest
  | late, part :: rest => late ++ (part.layout ++ layoutBehind [] rest)

variable {late front : List Char} {parts : List MaskPart}

theorem replaceAll_behind (hlate : late = [] ∨ late = ['m']) (hfront : 'm' ∉ front) (hne : front ≠ []) (cs : List Char) :
    replaceAll minute.token minute.directive (late ++ (front ++ cs)) =
      late ++ (front ++ replaceAll minute.token minute.directive cs) := by
  have hpass := replaceAll_of_notMem minute.head?_token hfront minute.directive cs
  obtain rfl | rfl := hlate
  · exact hpass
  · obtain ⟨c, rest, rfl⟩ := List.exists_cons_of_ne_nil hne
    have hc : 'm' ≠ c := fun h => hfront (h ▸ List.mem_cons_self)
    have hprefix : ¬minute.token <+: 'm' :: (c :: rest ++ cs) := by
      intro h
      exact hc (List.cons_prefix_cons.1 (List.cons_prefix_cons.1 h).2).1
    rw [List.singleton_append, replaceAll_cons_of_not_prefix hprefix, hpass, List.singleton_append]

theorem layoutBehind_of_ne (hminute : part ≠ token minute) (hmonth : part ≠ token month) (late : List Char)
    (rest : List MaskPart) : layoutBehind late (part :: rest) = late ++ (part.layout ++ layoutBehind [] rest) := by
  rw [layoutBehind]
  · exact hminute
  · exact hmonth

theorem layout_ne_nil (part : MaskPart) : part.layout ≠ [] := by
  cases part with
  | token p => cases p <;> decide
  | separator c hc => exact List.cons_ne_nil c []

theorem m_notMem_layout (h : part ≠ token month) : 'm' ∉ part.layout := by
  cases part with
  | token p => cases p <;> first | exact absurd rfl h | decide
  | separator c hc => exact fun hmem => hc.2 minute (List.mem_singleton.1 hmem).symm

theorem written_eq_layout (h : part ≠ token minute) : written [month, second, hour, day, year] part = part.layout := by
  cases part with
  | token p => cases p <;> first | exact absurd rfl h | rfl
  | separator c hc => rfl

theorem replaceAll_minutes (hlate : late = [] ∨ late = ['m']) (parts : List MaskPart) :
    replaceAll minute.token minute.directive (late ++ parts.flatMap (written [month, second, hour, day, year])) =
      layoutBehind late parts := by
  fun_induction layoutBehind late parts with
  | case1 late => obtain rfl | rfl := hlate <;> rfl
  | case2 late rest ih =>
    -- The letter in front of the minutes and their token are of one kind, so the token can be read one letter early.
    have hearly (cs : List Char) : late ++ (minute.token ++ cs) = minute.token ++ (late ++ cs) := by
      obtain rfl | rfl := hlate <;> rfl
    have hwritten : written [month, second, hour, day, year] (token minute) = minute.token := rfl
    rw [List.flatMap_cons, hwritten, hearly, replaceAll_append minute.token_ne_nil, ih hlate]
  | case3 late rest ih =>
    have hwritten : written [month, second, hour, day, year] (token month) = ['%'] ++ ['m'] := rfl
    rw [List.flatMap_cons, hwritten, List.append_assoc, replaceAll_behind hlate (by decide) (by decide), ih (.inr rfl)]
    rfl
  | case4 late part rest hminute hmonth ih =>
    rw [List.flatMap_cons, written_eq_layout hminute, replaceAll_behind hlate (m_notMem_layout hmonth) part.layout_ne_nil]
    congr 2
    exact ih (.inl rfl)

/-- Whether minutes directly follow a month. -/
def MinutesBehindMonth (parts : List MaskPart) : Prop := [token month, token minute] <:+: parts

theorem not_minutesBehindMonth_nil : ¬MinutesBehindMonth [] := by
  simp [MinutesBehindMonth]

theorem minutesBehindMonth_cons (part : MaskPart) (parts : List MaskPart) :
    MinutesBehindMonth (part :: parts) ↔
      part = token month ∧ parts.head? = some (token minute) ∨ MinutesBehindMonth parts := by
  rw [MinutesBehindMonth, List.infix_cons_iff, List.cons_prefix_cons, eq_comm (b := part)]
  cases parts with
  | nil => simp [MinutesBehindMonth]
  | cons second rest => simp [MinutesBehindMonth, List.cons_prefix_cons, eq_comm]

/-- What comes behind a month is as it should be exactly if no minutes follow directly: the directive of minutes would
come where the letter of the month belongs. -/
theorem layoutBehind_eq_iff (parts : List MaskPart) :
    (layoutBehind [] parts = parts.flatMap layout ↔ ¬MinutesBehindMonth parts) ∧
      (layoutBehind ['m'] parts = 'm' :: parts.flatMap layout ↔ ¬MinutesBehindMonth (token month :: parts)) := by
  induction parts with
  | nil => simp [layoutBehind, minutesBehindMonth_cons, not_minutesBehindMonth_nil]
  | cons part rest ih =>
    obtain ⟨hrest, hbehind⟩ := ih
    rw [List.flatMap_cons, minutesBehindMonth_cons (token month), minutesBehindMonth_cons part]
    by_cases hminute : part = token minute
    · subst hminute
      have hdirective : layout (token minute) = minute.directive := rfl
      rw [layoutBehind, layoutBehind, hdirective, List.append_right_inj, hrest]
      simp [DatePart.directive]
    · by_cases hmonth : part = token month
      · subst hmonth
        have hdirective : layout (token month) = ['%', 'm'] := rfl
        rw [minutesBehindMonth_cons] at hbehind
        simp [layoutBehind, hdirective, hbehind]
      · rw [layoutBehind_of_ne hminute hmonth, layoutBehind_of_ne hminute hmonth]
        simp [hminute, hmonth, hrest]

/-- A mask becomes a layout token by token, in which every token is its directive and every other character itself, if
and only if no minutes directly follow a month in it. In each case it becomes the layout in which the letter of a month
stands behind the minutes that directly follow. -/
theorem translated_token_by_token_iff (parts : List MaskPart) :
    (layoutOfMask (parts.flatMap mask) = parts.flatMap layout ↔ ¬[token month, token minute] <:+: parts) ∧
      layoutOfMask (parts.flatMap mask) = layoutBehind [] parts := by
  have hbehind : layoutOfMask (parts.flatMap mask) = layoutBehind [] parts := by
    rw [layoutOfMask_eq]
    exact replaceAll_minutes (.inl rfl) parts
  exact ⟨hbehind ▸ (layoutBehind_eq_iff parts).1, hbehind⟩

example : layoutOfMask "YYYYMMDD HH:mm:ss".toList = "%Y%m%d %H:%M:%S".toList := by decide

/-- The mask `MMmm` becomes the layout of a percent sign and two letters, and of no part of a date. -/
theorem minutes_behind_month_are_lost :
    layoutOfMask "MMmm".toList = "%%Mm".toList ∧
      (FieldView.ofTag "date" ⟨.obj [("format", .str "MMmm")], none⟩).display (.str "2024-03-05T08:07:00") = "%Mm" ∧
      ¬∀ parts : List MaskPart, layoutOfMask (parts.flatMap mask) = parts.flatMap layout := by
  refine ⟨by decide, by rfl, fun hall => ?_⟩
  exact absurd (hall [token month, token minute]) (by decide)

end MaskPart

end BackOffice
