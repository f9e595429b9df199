import BackOffice.Field.View
import BackOffice.Proofs.Config.Encodings
import BackOffice.Proofs.Decimal.Doubles

/-!
Input of numbers. What is stored is a number within the limits, unless the input is a text that reads as infinite or as
no number: that passes every limit and is stored as null. A whole number, or its text, is stored as it is below 2^53,
and as the float nearest to it beyond.
-/

namespace BackOffice

namespace JsonNumber

/-- A number as values hold it: a whole number of a machine word, or a finite float. -/
def Held : JsonNumber → Prop
  | whole n => InWord n
  | float x => x.isFinite = true

theorem log2_le_of_inWord {n : Int} (h : InWord n) : n.natAbs.log2 ≤ 1000 := by
  rw [inWord_iff] at h
  by_cases h0 : n.natAbs = 0
  · simp [h0]
  · have hlt : n.natAbs < 2 ^ 64 := by omega
    have := (Nat.log2_lt h0).2 hlt
    omega

theorem Held.isFinite {n : JsonNumber} (h : n.Held) : n.toFloat.isFinite = true := by
  cases n with
  | whole n => exact (Binary.standsFor_ofInt (log2_le_of_inWord h)).finite
  | float x => exact h

end JsonNumber

/-! ### The text of a whole number -/

namespace Numeral

theorem digits_toDigits (n : Nat) : digits (Nat.toDigits 10 n) = (n, (Nat.toDigits 10 n).length, []) := by
  have hdigit : ∀ c ∈ Nat.toDigits 10 n, c.isDigit = true := fun c hc =>
    Nat.isDigit_of_mem_toDigits (by decide) (by decide) hc
  have hvalue := Nat.ofDigitChars_toDigits (b := 10) (n := n) (by decide) (by decide)
  have htake : (Nat.toDigits 10 n).takeWhile Char.isDigit = Nat.toDigits 10 n := List.takeWhile_eq_self_iff.2 hdigit
  have hdrop : (Nat.toDigits 10 n).dropWhile Char.isDigit = [] := List.dropWhile_eq_nil_iff.2 hdigit
  simp only [digits, htake, hdrop]
  exact congrArg (·, _, _) hvalue

theorem nearest_whole (n count : Nat) : nearest n count 0 = Float.ofNat n := by
  have hlow : ¬ (0 : Int) + count < -400 := by omega
  by_cases h0 : n = 0
  · rw [nearest, if_pos (.inl h0), h0]
    rfl
  · rw [nearest, if_neg (not_or.2 ⟨h0, hlow⟩), if_neg (fun h => absurd h.1 (by decide)), if_pos le_rfl]
    rfl

theorem magnitude?_toDigits (n : Nat) : magnitude? (Nat.toDigits 10 n) = some (Float.ofNat n) := by
  have hlength : ¬ (Nat.toDigits 10 n).length + 0 = 0 := by simp [Nat.toDigits_ne_nil]
  have hvalue : n * Nat.pow 10 0 + 0 = n := Nat.mul_one n
  simp only [magnitude?, digits_toDigits]
  rw [if_neg hlength, hvalue]
  exact congrArg some (nearest_whole n _)

theorem sign_toDigits (n : Nat) : sign (Nat.toDigits 10 n) = (false, Nat.toDigits 10 n) := by
  unfold sign
  split
  case h_3 => rfl
  -- A digit is no sign.
  all_goals
    next heq =>
      have hdigit := Nat.isDigit_of_mem_toDigits (b := 10) (by decide) (by decide) (heq ▸ List.mem_cons_self)
      cases hdigit

/-- The text of a whole number reads as its double. -/
theorem float?_text (n : Int) : float? (Json.whole n).text = some (Float.ofInt n) := by
  have htext : (Json.whole n).text.toList = (if n < 0 then ['-'] else []) ++ Nat.toDigits 10 n.natAbs :=
    String.toList_ofList
  cases n with
  | ofNat n =>
    have hnonneg : ¬ Int.ofNat n < 0 := Int.not_lt.2 (Int.natCast_nonneg n)
    rw [if_neg hnonneg, List.nil_append] at htext
    rw [float?, htext, show (Int.ofNat n).natAbs = n from rfl, sign_toDigits]
    simp only [magnitude?_toDigits]
    rfl
  | negSucc n =>
    rw [if_pos (Int.negSucc_lt_zero n)] at htext
    rw [float?, htext, Int.natAbs_negSucc]
    simp only [List.cons_append, List.nil_append, sign, magnitude?_toDigits]
    rfl

end Numeral

namespace FieldView

variable {f : FieldView} {v w : Json} {x : Float}

/-! ### Limits -/

/-- A number is not below the least and not above the greatest that a field asks for. A limit that is no number is
none. -/
structure Within (f : FieldView) (x : Float) : Prop where
  min : ∀ limit, f.config.float? "min" = some limit → limit.isNaN = true ∨ limit ≤ x
  max : ∀ limit, f.config.float? "max" = some limit → limit.isNaN = true ∨ x ≤ limit

theorem numberIssues_eq_nil_iff (hx : x.isFinite = true) : f.numberIssues x = [] ↔ f.Within x := by
  have hwithin : f.Within x ↔ (∀ limit, f.config.float? "min" = some limit → ¬ x < limit) ∧
      ∀ limit, f.config.float? "max" = some limit → ¬ limit < x := by
    simp only [Binary.not_lt_iff hx, Binary.not_gt_iff hx]
    exact ⟨fun h => ⟨h.min, h.max⟩, fun h => ⟨h.1, h.2⟩⟩
  rw [hwithin, numberIssues]
  cases f.config.float? "min" <;> cases f.config.float? "max" <;> simp

/-! ### What is stored -/

section

variable (hkind : f.kind = .numeric) (hblank : v.isBlank = false)

include hkind hblank

theorem validate_of_toFloat?_error {e : FieldFault} (h : v.toFloat? = .error e) :
    f.coerce v = .error e ∧ f.validate v = [.fault e] := by
  have hcoerce : f.coerce v = .error e := by
    rw [coerce_numeric v hkind, if_neg (by simp [hblank]), h]
    rfl
  exact ⟨hcoerce, by rw [validate, if_neg (by simp [hblank]), hcoerce]⟩

theorem coerce_of_toFloat? (h : v.toFloat? = .ok x) : f.coerce v = .ok (Json.ofNumber x) := by
  rw [coerce_numeric v hkind, if_neg (by simp [hblank]), h]
  rfl

/-- A finite number is checked as it is stored. -/
theorem validate_of_isFinite (h : v.toFloat? = .ok x) (hx : x.isFinite = true) :
    ∃ n : JsonNumber, f.coerce v = .ok (.num n) ∧ n.toFloat.isFinite = true ∧
      (f.validate v = [] ↔ f.Within n.toFloat) := by
  obtain ⟨n, hstored, hfinite, -⟩ := Json.exists_ofNumber hx
  have hcoerce := coerce_of_toFloat? hkind hblank h
  rw [hstored] at hcoerce
  refine ⟨n, hcoerce, hfinite, ?_⟩
  rw [validate, if_neg (by simp [hblank]), hcoerce]
  simp only [hkind, Json.toFloat?, numberIssues_eq_nil_iff hfinite]

/-- Nothing is ever wrong with a number that is not finite, since what is stored of it is null. -/
theorem validate_of_not_isFinite (h : v.toFloat? = .ok x) (hx : x.isFinite = false) :
    f.coerce v = .ok .null ∧ f.validate v = [] := by
  have hcoerce := coerce_of_toFloat? hkind hblank h
  rw [Json.ofNumber_of_notFinite hx] at hcoerce
  refine ⟨hcoerce, ?_⟩
  rw [validate, if_neg (by simp [hblank]), hcoerce]
  simp only [hkind, Json.toFloat?]

end

/-- Nothing is wrong with an input that is not blank exactly when it is stored as a finite number within the limits, or
is a text that reads as infinite or as no number: of that null is stored, whatever the limits are. -/
theorem valid_number_iff (hkind : f.kind = .numeric) (hblank : v.isBlank = false)
    (hheld : ∀ n, v = .num n → n.Held) :
    f.validate v = [] ↔
      (∃ n : JsonNumber, f.coerce v = .ok (.num n) ∧ n.toFloat.isFinite = true ∧ f.Within n.toFloat) ∨
        ∃ s x, v = .str s ∧ Numeral.float? (trim s) = some x ∧ x.isFinite = false ∧ f.coerce v = .ok .null := by
  cases hread : v.toFloat? with
  | error e =>
    obtain ⟨hcoerce, hissue⟩ := validate_of_toFloat?_error hkind hblank hread
    simp [hcoerce, hissue]
  | ok x =>
    cases hx : x.isFinite with
    | true =>
      obtain ⟨n, hcoerce, hfinite, hvalid⟩ := validate_of_isFinite hkind hblank hread hx
      simp [hcoerce, hfinite, hvalid]
    | false =>
      obtain ⟨hcoerce, hvalid⟩ := validate_of_not_isFinite hkind hblank hread hx
      refine iff_of_true hvalid (.inr ?_)
      -- Numbers and truth values are finite.
      cases v with
      | null => cases hread
      | bool b =>
        cases b <;> cases hread <;> cases hx
      | num n =>
        cases hread
        have := (hheld n rfl).isFinite
        simp_all
      | str s =>
        cases htext : Numeral.float? (trim s) with
        | none => simp [Json.toFloat?, htext] at hread
        | some y =>
          obtain rfl : y = x := by simpa [Json.toFloat?, htext] using hread
          exact ⟨s, y, rfl, htext, hx, hcoerce⟩
      | arr items => cases hread
      | obj members => cases hread

/-- A number from 1 to 10. -/
def oneToTen : FieldView where
  kind := .numeric
  config := ⟨.obj [("min", .whole 1), ("max", .whole 10)], none⟩
  options := []
  required := false

theorem seven_is_within :
    (oneToTen.kind = .numeric ∧ (Json.whole 7).isBlank = false ∧ ∀ n, Json.whole 7 = .num n → n.Held) ∧
      ∃ n : JsonNumber, oneToTen.coerce (.whole 7) = .ok (.num n) ∧ n.toFloat.isFinite = true ∧
        oneToTen.Within n.toFloat := by
  have hheld : ∀ n, Json.whole 7 = .num n → n.Held := by
    rintro n ⟨⟩
    exact JsonNumber.inWord_iff.2 (by decide)
  have hvalid : oneToTen.validate (.whole 7) = [] := rfl
  refine ⟨⟨rfl, rfl, hheld⟩, ?_⟩
  obtain h | ⟨s, x, hs, -⟩ := (valid_number_iff rfl rfl hheld).1 hvalid
  · exact h
  · cases hs

/-- An infinite number passes the limits, and nothing is stored of it. -/
theorem infinite_passes_limits :
    oneToTen.validate (.str "inf") = [] ∧ oneToTen.coerce (.str "inf") = .ok .null := by
  constructor <;> rfl

/-! ### Whole numbers -/

section

variable {n : Int} (hkind : f.kind = .numeric)

include hkind

theorem coerce_whole (n : Int) : f.coerce (.whole n) = .ok (Json.ofNumber (Float.ofInt n)) :=
  coerce_of_toFloat? hkind rfl rfl

theorem coerce_text_of_whole (hn : JsonNumber.InWord n) :
    f.coerce (.str (Json.whole n).text) = .ok (Json.ofNumber (Float.ofInt n)) := by
  have hproper : Json.Proper 0 (.whole n) := .whole hn
  have hblank : (Json.str (Json.whole n).text).isBlank = false := by
    obtain ⟨c, cs, hchars, hc⟩ := Json.chars_eq_cons hproper nofun
    have htext : (Json.whole n).text.toList = c :: cs := String.toList_ofList.trans hchars
    show (Json.whole n).text.toList.all isBlank = false
    rw [htext, List.all_cons, Json.isBlank_of_opens hc, Bool.false_and]
  refine coerce_of_toFloat? hkind hblank ?_
  rw [Json.toFloat?, Json.trim_text hproper nofun, Numeral.float?_text]

/-- A whole number and its text are stored alike: below 2^53 as the number itself, and beyond as the float nearest to
it. -/
theorem whole_number_stored (hn : JsonNumber.InWord n) :
    f.coerce (.str (Json.whole n).text) = f.coerce (.whole n) ∧
      (n.natAbs < 2 ^ 53 → f.coerce (.whole n) = .ok (.whole n)) ∧
      (2 ^ 53 ≤ n.natAbs → ∃ x, f.coerce (.whole n) = .ok (.num (.float x)) ∧ Binary.StandsFor x n) := by
  refine ⟨(coerce_text_of_whole hkind hn).trans (coerce_whole hkind n).symm, fun hlt => ?_, fun hle => ?_⟩
  · rw [coerce_whole hkind, Json.ofNumber_of_whole (Json.wholeOfFloat?_ofInt_of_lt hlt)]
  · have hlog := JsonNumber.log2_le_of_inWord hn
    have hstands := Binary.standsFor_ofInt hlog
    exact ⟨_, by rw [coerce_whole hkind, Json.ofNumber_of_float (Json.wholeOfFloat?_ofInt_of_le hle hlog) hstands.finite],
      hstands⟩

end

/-- A number without limits. -/
def anyNumber : FieldView := .ofTag "numeric" (.empty .object)

theorem greatest_exact_number_stored :
    anyNumber.kind = .numeric ∧ JsonNumber.InWord 9007199254740991 ∧
      anyNumber.coerce (.str "9007199254740991") = .ok (.whole 9007199254740991) := by
  have hword : JsonNumber.InWord 9007199254740991 := JsonNumber.inWord_iff.2 (by decide)
  have hstored := whole_number_stored (f := anyNumber) rfl hword
  exact ⟨rfl, hword, hstored.1.trans (hstored.2.1 (by decide))⟩

/-- From 2^53 on a whole number is stored as a float, and another number may be next to it. -/
theorem odd_number_rounded :
    anyNumber.coerce (.whole 9007199254740993) = .ok (.num (.float 9007199254740992)) ∧
      anyNumber.coerce (.whole 9007199254740993) ≠ .ok (.whole 9007199254740993) := by
  have hstored : anyNumber.coerce (.whole 9007199254740993) = .ok (.num (.float 9007199254740992)) := rfl
  refine ⟨hstored, ?_⟩
  rw [hstored]
  nofun

end FieldView

end BackOffice
