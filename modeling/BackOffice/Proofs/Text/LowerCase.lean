import BackOffice.Text.LowerCase
import Mathlib.Data.Bool.Basic

/-!
The lower case of a part of a text. A character has one lower-case form wherever it stands, all but the capital sigma,
whose form tells whether a word ends with it. So a part of a text has the same lower case in the text as on its own,
unless the form of one of its sigmas depends on what is around the part.
-/

namespace BackOffice

theorem hasPart_iff {part cs : List Char} : hasPart part cs = true ↔ part <:+: cs := by
  induction cs with
  | nil => rw [hasPart, List.isEmpty_iff, List.infix_nil]
  | cons c rest ih => rw [hasPart, Bool.or_eq_true, List.isPrefixOf_iff_prefix, ih, List.infix_cons_iff]

theorem toList_lowerCase (text : String) : (lowerCase text).toList = LowerCase.ofChars [] text.toList :=
  String.toList_ofList

namespace LowerCase

/-- Whether a character is passed over in looking for one with case. -/
def isIgnorable : Char → Bool := inRanges CaseTable.ignorable

/-- The lower-case form of a capital sigma. -/
def sigma (isFinal : Bool) : Char := if isFinal then 'ς' else 'σ'

/-- The text around a part of a text, the one before it nearest first. -/
structure Place where
  before : List Char := []
  after : List Char := []

namespace Place

/-- The place between two pieces of a text that itself stands in a place. -/
def between (p : Place) (front back : List Char) : Place := ⟨front.reverse ++ p.before, back ++ p.after⟩

/-- Whether a capital sigma has its final form here. -/
def isFinal (p : Place) : Bool := meetsCased p.before && !meetsCased p.after

/-- The lower case of a text that stands here. -/
def lower : Place → List Char → List Char
  | _, [] => []
  | p, c :: rest => ofChar p.before c (rest ++ p.after) ++ (p.between [c] []).lower rest

/-- Whether the sigmas of a text that have their final form in one place have it in another one, too. -/
def FinalsStay (p q : Place) (cs : List Char) : Prop :=
  ∀ front back, cs = front ++ 'Σ' :: back → (p.between front back).isFinal → (q.between front back).isFinal

end Place

/-- Whether the form of one of the sigmas of a text depends on what is around the text. A word ends with it, but may go
on behind the text; or none ends with it, but only for want of a letter in front. -/
def ExposesSigma (cs : List Char) : Prop :=
  ∃ front back, cs = front ++ 'Σ' :: back ∧
    (meetsCased front.reverse ∧ back.all isIgnorable ∨ front.all isIgnorable ∧ ¬meetsCased back)

variable {p q : Place} {c : Char} {cs front back : List Char}

/-! ### The next character with case -/

@[simp] theorem meetsCased_nil : meetsCased [] = false := rfl

/-- The letter that stands for any other one. -/
@[simp] theorem meetsCased_a : meetsCased ['a'] = true := by decide +kernel

theorem meetsCased_cons (c : Char) (cs : List Char) :
    meetsCased (c :: cs) = if isIgnorable c then meetsCased cs else inRanges CaseTable.cased c := by
  rw [meetsCased, isIgnorable, List.dropWhile_cons]
  by_cases h : inRanges CaseTable.ignorable c
  · rw [if_pos h, if_pos h, meetsCased]
  · rw [if_neg h, if_neg h]

theorem meetsCased_append (front back : List Char) :
    meetsCased (front ++ back) = if front.all isIgnorable then meetsCased back else meetsCased front := by
  induction front with
  | nil => rfl
  | cons c rest ih =>
    rw [List.cons_append, meetsCased_cons, meetsCased_cons, ih, List.all_cons]
    by_cases h : isIgnorable c <;> simp [h]

theorem meetsCased_append_of_imp (h : meetsCased cs → meetsCased back) (front : List Char) :
    meetsCased (front ++ cs) → meetsCased (front ++ back) := by
  rw [meetsCased_append, meetsCased_append]
  split
  · exact h
  · exact id

theorem meetsCased_of_all (h : cs.all isIgnorable) : meetsCased cs = false := by
  have happend : meetsCased (cs ++ []) = meetsCased [] := by rw [meetsCased_append, if_pos h]
  rwa [List.append_nil] at happend

namespace Place

theorem between_between (p : Place) (front back front' back' : List Char) :
    (p.between front back).between front' back' = p.between (front ++ front') (back' ++ back) := by
  simp only [between, List.reverse_append, List.append_assoc]

theorem isFinal_between (p : Place) (front back : List Char) :
    (p.between front back).isFinal =
      ((if front.all isIgnorable then meetsCased p.before else meetsCased front.reverse) &&
        !(if back.all isIgnorable then meetsCased p.after else meetsCased back)) := by
  rw [isFinal, between, meetsCased_append, meetsCased_append, List.all_reverse]

/-! ### The lower case in a place -/

theorem ofChars_eq_lower (before cs : List Char) : ofChars before cs = lower ⟨before, []⟩ cs := by
  induction cs generalizing before with
  | nil => rfl
  | cons c rest ih =>
    rw [ofChars, lower, ih, List.append_nil]
    rfl

theorem lower_sigma (p : Place) (rest : List Char) :
    p.lower ('Σ' :: rest) = sigma (p.between [] rest).isFinal :: (p.between ['Σ'] []).lower rest :=
  rfl

theorem lower_of_ne (h : c ≠ 'Σ') (p : Place) (rest : List Char) :
    p.lower (c :: rest) = ofChar [] c [] ++ (p.between [c] []).lower rest := by
  rw [lower, ofChar, ofChar, if_neg h, if_neg h]

theorem lower_append (p : Place) (front back : List Char) :
    p.lower (front ++ back) = (p.between [] back).lower front ++ (p.between front []).lower back := by
  induction front generalizing p with
  | nil => rfl
  | cons c rest ih =>
    have hfront : ((p.between [] back).between [c] []) = ((p.between [c] []).between [] back) := by
      simp only [between_between, List.append_nil, List.nil_append]
    have hback : p.between (c :: rest) [] = ((p.between [c] []).between rest []) := by
      simp only [between_between, List.append_nil, List.cons_append, List.nil_append]
    rw [List.cons_append, lower, lower, ih, hfront, hback, List.append_assoc, List.append_assoc]
    rfl

theorem lower_singleton_a (p : Place) : p.lower ['a'] = ['a'] := by
  rw [lower_of_ne (by decide)]
  rfl

theorem count_final_cons (isFinal : Bool) (cs : List Char) :
    (sigma isFinal :: cs).count 'ς' = cs.count 'ς' + isFinal.toNat := by
  cases isFinal <;> simp [sigma]

theorem count_inner_cons (isFinal : Bool) (cs : List Char) :
    (sigma isFinal :: cs).count 'σ' + isFinal.toNat = cs.count 'σ' + 1 := by
  cases isFinal <;> simp [sigma]

/-- The place only chooses the forms of the sigmas. -/
theorem count_lower (p q : Place) (cs : List Char) :
    (p.lower cs).count 'ς' + (p.lower cs).count 'σ' = (q.lower cs).count 'ς' + (q.lower cs).count 'σ' := by
  induction cs generalizing p q with
  | nil => rfl
  | cons c rest ih =>
    have htail := ih (p.between [c] []) (q.between [c] [])
    by_cases hc : c = 'Σ'
    · subst hc
      have hp := count_inner_cons (p.between [] rest).isFinal ((p.between ['Σ'] []).lower rest)
      have hq := count_inner_cons (q.between [] rest).isFinal ((q.between ['Σ'] []).lower rest)
      rw [lower_sigma, lower_sigma, count_final_cons, count_final_cons]
      omega
    · simp only [lower_of_ne hc, List.count_append]
      omega

namespace FinalsStay

/-- More case in front and less behind can only bring about final forms. -/
theorem of_cased (hbefore : meetsCased p.before → meetsCased q.before)
    (hafter : meetsCased q.after → meetsCased p.after) (cs : List Char) : p.FinalsStay q cs := by
  intro front back _
  simp only [isFinal, between, Bool.and_eq_true, Bool.not_eq_true', Bool.eq_false_iff]
  rintro ⟨hfront, hback⟩
  exact ⟨meetsCased_append_of_imp hbefore _ hfront, fun h => hback (meetsCased_append_of_imp hafter _ h)⟩

theorem part (h : p.FinalsStay q (front ++ cs ++ back)) :
    (p.between front back).FinalsStay (q.between front back) cs := by
  intro front' back' hcs
  rw [between_between, between_between]
  apply h
  rw [hcs]
  simp only [List.append_assoc, List.cons_append]

theorem tail (h : p.FinalsStay q (c :: cs)) : (p.between [c] []).FinalsStay (q.between [c] []) cs := by
  apply part
  rwa [List.append_nil]

/-- Where the same sigmas have their final form, the lower case is the same. -/
theorem lower_eq (h : p.FinalsStay q cs) (h' : q.FinalsStay p cs) : p.lower cs = q.lower cs := by
  induction cs generalizing p q with
  | nil => rfl
  | cons c rest ih =>
    have htail := ih h.tail h'.tail
    by_cases hc : c = 'Σ'
    · subst hc
      have hfinal : (p.between [] rest).isFinal = (q.between [] rest).isFinal :=
        Bool.eq_iff_iff.2 ⟨h [] rest rfl, h' [] rest rfl⟩
      rw [lower_sigma, lower_sigma, hfinal, htail]
    · rw [lower_of_ne hc, lower_of_ne hc, htail]

theorem count_le (h : p.FinalsStay q cs) : (p.lower cs).count 'ς' ≤ (q.lower cs).count 'ς' := by
  induction cs generalizing p q with
  | nil => exact Nat.le_refl _
  | cons c rest ih =>
    have htail := ih h.tail
    by_cases hc : c = 'Σ'
    · subst hc
      rw [lower_sigma, lower_sigma, count_final_cons, count_final_cons]
      exact Nat.add_le_add htail (Bool.toNat_le_toNat (h [] rest rfl))
    · rw [lower_of_ne hc, lower_of_ne hc, List.count_append, List.count_append]
      exact Nat.add_le_add_left htail _

/-- A sigma that has its final form in the second place only is one more there. -/
theorem count_lt (h : p.FinalsStay q (front ++ 'Σ' :: back)) (hp : (p.between front back).isFinal = false)
    (hq : (q.between front back).isFinal = true) :
    (p.lower (front ++ 'Σ' :: back)).count 'ς' < (q.lower (front ++ 'Σ' :: back)).count 'ς' := by
  have hfront : (p.between [] ('Σ' :: back)).FinalsStay (q.between [] ('Σ' :: back)) front := part h
  have hback : (p.between (front ++ ['Σ']) []).FinalsStay (q.between (front ++ ['Σ']) []) back := by
    apply part
    rwa [List.append_nil, List.append_assoc]
  have hfront := hfront.count_le
  have hback := hback.count_le
  simp only [lower_append, lower_sigma, between_between, List.append_nil, List.count_append, count_final_cons, hp, hq,
    Bool.toNat_false, Bool.toNat_true]
  omega

end FinalsStay

end Place

/-! ### Texts that expose a sigma -/

theorem exposesSigma_iff (cs : List Char) : ExposesSigma cs ↔ ∃ i < cs.length, cs[i]? = some 'Σ' ∧
    (meetsCased (cs.take i).reverse ∧ (cs.drop (i + 1)).all isIgnorable ∨
      (cs.take i).all isIgnorable ∧ ¬meetsCased (cs.drop (i + 1))) := by
  constructor
  · rintro ⟨front, back, rfl, h⟩
    exact ⟨front.length, by simp, by simp, by simpa using h⟩
  · rintro ⟨i, hi, hsigma, h⟩
    have hc : cs[i] = 'Σ' := Option.some.inj ((List.getElem?_eq_getElem hi).symm.trans hsigma)
    refine ⟨cs.take i, cs.drop (i + 1), ?_, h⟩
    rw [← hc, List.getElem_cons_drop, List.take_append_drop]

instance : DecidablePred ExposesSigma := fun cs => decidable_of_iff' _ (exposesSigma_iff cs)

example : ¬ExposesSigma "ΣΟΦΙΑ".toList ∧ ExposesSigma "ΟΔΟΣ".toList := by decide +kernel

/-- A text that exposes no sigma has all it takes to tell the forms of its sigmas. -/
theorem isFinal_of_not_exposesSigma (h : ¬ExposesSigma (front ++ 'Σ' :: back)) (p : Place) :
    (p.between front back).isFinal = (({} : Place).between front back).isFinal := by
  have hbehind : back.all isIgnorable → meetsCased front.reverse = false := by
    intro hback
    rw [Bool.eq_false_iff]
    exact fun hfront => h ⟨front, back, rfl, .inl ⟨hfront, hback⟩⟩
  have hbefore : front.all isIgnorable → meetsCased back = true := by
    intro hfront
    by_contra hback
    exact h ⟨front, back, rfl, .inr ⟨hfront, hback⟩⟩
  rw [Place.isFinal_between, Place.isFinal_between]
  by_cases hfront : front.all isIgnorable
  · have hback : ¬back.all isIgnorable := fun hback => by
      simpa [meetsCased_of_all hback] using hbefore hfront
    rw [if_neg hback, if_neg hback, hbefore hfront, Bool.not_true, Bool.and_false, Bool.and_false]
  · rw [if_neg hfront, if_neg hfront]
    by_cases hback : back.all isIgnorable
    · rw [hbehind hback, Bool.false_and, Bool.false_and]
    · rw [if_neg hback, if_neg hback]

theorem lower_of_not_exposesSigma (h : ¬ExposesSigma cs) (p : Place) : p.lower cs = ofChars [] cs := by
  have hfinal (front back : List Char) (hcs : cs = front ++ 'Σ' :: back) :
      (p.between front back).isFinal = (({} : Place).between front back).isFinal :=
    isFinal_of_not_exposesSigma (hcs ▸ h) p
  rw [Place.ofChars_eq_lower]
  exact Place.FinalsStay.lower_eq (fun front back hcs => (hfinal front back hcs).symm.trans)
    (fun front back hcs => (hfinal front back hcs).trans)

/-- A text that no letter with case adjoins has the same lower case as on its own. -/
theorem lower_of_not_meetsCased (hfront : ¬meetsCased front) (hback : ¬meetsCased back) (cs : List Char) :
    (Place.mk front back).lower cs = ofChars [] cs := by
  rw [Place.ofChars_eq_lower]
  apply Place.FinalsStay.lower_eq <;> apply Place.FinalsStay.of_cased <;> simp [hfront, hback]

theorem ofChars_append (front cs back : List Char) :
    ofChars [] (front ++ cs ++ back) = (Place.mk [] (cs ++ back)).lower front ++
      (Place.mk front.reverse back).lower cs ++ (Place.mk (front ++ cs).reverse []).lower back := by
  simp [Place.ofChars_eq_lower, Place.lower_append, Place.between]

/-- A letter behind a text takes its final form from a sigma with which a word seemed to end. -/
theorem count_final_before_letter (hfront : meetsCased front.reverse) (hback : back.all isIgnorable) :
    ((Place.mk [] ['a']).lower (front ++ 'Σ' :: back)).count 'ς' < (ofChars [] (front ++ 'Σ' :: back)).count 'ς' := by
  have hnone : ¬front.all isIgnorable := fun h => by
    simp [meetsCased_of_all (List.all_reverse.trans h)] at hfront
  rw [Place.ofChars_eq_lower]
  apply Place.FinalsStay.count_lt
  · apply Place.FinalsStay.of_cased <;> simp
  · simp [Place.isFinal_between, hback]
  · simp [Place.isFinal_between, hback, hnone, hfront]

/-- A letter in front of a text gives its final form to a sigma with which a word had seemed to begin. -/
theorem count_final_behind_letter (hfront : front.all isIgnorable) (hback : ¬meetsCased back) :
    (ofChars [] (front ++ 'Σ' :: back)).count 'ς' < ((Place.mk ['a'] []).lower (front ++ 'Σ' :: back)).count 'ς' := by
  rw [Place.ofChars_eq_lower]
  apply Place.FinalsStay.count_lt
  · apply Place.FinalsStay.of_cased <;> simp
  · simp [Place.isFinal_between, hfront]
  · simp [Place.isFinal_between, hfront, hback]

theorem exists_lost (h : ExposesSigma cs) : ∃ front back, ¬ofChars [] cs <:+: ofChars [] (front ++ cs ++ back) := by
  obtain ⟨front, back, rfl, ⟨hfront, hback⟩ | ⟨hfront, hback⟩⟩ := h
  · refine ⟨[], ['a'], fun hpart => ?_⟩
    rw [ofChars_append, Place.lower_singleton_a, Place.lower, List.nil_append] at hpart
    have hcount := hpart.sublist.count_le 'ς'
    rw [List.count_append, List.count_singleton] at hcount
    exact Nat.not_lt_of_le hcount (count_final_before_letter hfront hback)
  · refine ⟨['a'], [], fun hpart => ?_⟩
    rw [ofChars_append, Place.lower_singleton_a, Place.lower, List.append_nil] at hpart
    have hcount := hpart.sublist.count_le 'σ'
    have hmore := count_final_behind_letter hfront hback
    have hsame := Place.count_lower {} (Place.mk ['a'] []) (front ++ 'Σ' :: back)
    rw [← Place.ofChars_eq_lower] at hsame
    rw [List.singleton_append, List.count_cons_of_ne (by decide), List.reverse_singleton] at hcount
    omega

/-- A text is found again in lower case wherever it stands, if it exposes no sigma, and only then. -/
theorem always_found_iff (cs : List Char) :
    (∀ front back, ofChars [] cs <:+: ofChars [] (front ++ cs ++ back)) ↔ ¬ExposesSigma cs := by
  constructor
  · intro hfound hexposes
    obtain ⟨front, back, hlost⟩ := exists_lost hexposes
    exact hlost (hfound front back)
  · intro h front back
    rw [ofChars_append, lower_of_not_exposesSigma h]
    exact List.infix_append _ _ _

end LowerCase

end BackOffice
