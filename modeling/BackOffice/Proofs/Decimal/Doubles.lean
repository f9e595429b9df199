import BackOffice.Field.Coercion
import Mathlib

/-!
Whole numbers as doubles. A double holds in place of a whole number the nearest one that has no more than 53 binary
digits in front of its zeros: the number itself below 2^53, where a double goes back to the whole number that it came
from, and a number of the same size beyond, where it does not.
-/

namespace BackOffice

open Float.Model (Format UnpackedFloat totalExponent)
open Float.Model.UnpackedFloat

/-! ### Rounding a quotient -/

theorem roundDiv_eq_or (num den : Nat) (tie : Tie) :
    roundDiv num den tie = num / den ∨ roundDiv num den tie = num / den + 1 := by
  unfold roundDiv
  cases tie <;> grind

theorem roundDiv_one (n : Nat) (tie : Tie) : roundDiv n 1 tie = n := by
  simpa using roundDiv_mul n 1 one_pos tie

theorem roundDiv_mul_right (num den : Nat) {c : Nat} (hc : 0 < c) (tie : Tie) :
    roundDiv (num * c) (den * c) tie = roundDiv num den tie := by
  have hrest : 2 * (num % den * c) = 2 * (num % den) * c := by ring
  simp only [roundDiv, Nat.mul_div_mul_right _ _ hc, Nat.mul_mod_mul_right, hrest, Nat.mul_lt_mul_right hc]

theorem log2_mul_two_pow {n : Nat} (hn : n ≠ 0) (c : Nat) : (n * 2 ^ c).log2 = n.log2 + c := by
  have hlow := Nat.log2_self_le hn
  have hhigh := Nat.lt_log2_self (n := n)
  have hpos : 0 < n * 2 ^ c := Nat.mul_pos (by omega) (Nat.two_pow_pos c)
  refine (Nat.log2_eq_iff (by omega)).2 ⟨?_, ?_⟩
  · rw [Nat.pow_add]
    exact Nat.mul_le_mul_right _ hlow
  · rw [show n.log2 + c + 1 = n.log2 + 1 + c by omega, Nat.pow_add]
    exact Nat.mul_lt_mul_of_pos_right hhigh (Nat.two_pow_pos c)

namespace Binary

/-- The exact value of a magnitude. -/
def value (b : Binary) : ℚ := b.mantissa * 2 ^ b.exponent

/-- A magnitude with 53 binary digits and an exponent that doubles have. -/
structure Normal (b : Binary) : Prop where
  low : 2 ^ 52 ≤ b.mantissa
  high : b.mantissa < 2 ^ 53
  least : -1074 ≤ b.exponent
  most : b.exponent ≤ 971

theorem Normal.log2_eq {b : Binary} (hb : b.Normal) : b.mantissa.log2 = 52 :=
  (Nat.log2_eq_iff (by have := hb.low; omega)).2 ⟨hb.low, hb.high⟩

/-- A double, taken apart, has a sign and a magnitude other than zero. -/
def Holds (x : UnpackedFloat) (s : Sign) (b : Binary) : Prop := ∃ h, x = .finite s b.mantissa b.exponent h

/-! ### Rounding a mantissa -/

/-- Moving a whole mantissa to the right keeps what was pushed out: its first digit, and whether there is any other. -/
theorem shiftRight_eq (m k : Nat) : (⟨m, false, false⟩ : ExtendedMantissa) >>> (k + 1) =
    ⟨m / 2 ^ (k + 1), m / 2 ^ k % 2 != 0, m % 2 ^ k != 0⟩ := by
  induction k with
  | zero => simp [HShiftRight.hShiftRight, Nat.repeat, ExtendedMantissa.shiftRightOne, Nat.mod_one]
  | succ k ih =>
    have hstep : (⟨m, false, false⟩ : ExtendedMantissa) >>> (k + 1 + 1) =
      ((⟨m, false, false⟩ : ExtendedMantissa) >>> (k + 1)).shiftRightOne := rfl
    have hd : m / 2 ^ (k + 1) / 2 = m / 2 ^ (k + 1 + 1) := by rw [Nat.div_div_eq_div_mul, ← Nat.pow_succ]
    have hm := Nat.mod_pow_succ (x := m) (b := 2) (k := k)
    rw [hstep, ih, ExtendedMantissa.shiftRightOne]
    simp only [hd, ExtendedMantissa.mk.injEq, true_and, hm]
    rcases Nat.mod_two_eq_zero_or_one (m / 2 ^ k) with h | h <;> simp [h]

/-- A mantissa moved to the right is rounded to the nearest, a half to the even neighbour. -/
theorem roundedMantissa_shiftRight (m k : Nat) :
    ((⟨m, false, false⟩ : ExtendedMantissa) >>> k).roundedMantissa = roundDiv m (2 ^ k) .toEven := by
  cases k with
  | zero =>
    rw [pow_zero, roundDiv_one]
    rfl
  | succ k =>
    have hd : m / 2 ^ k / 2 = m / 2 ^ (k + 1) := by rw [Nat.div_div_eq_div_mul, ← Nat.pow_succ]
    have hm := Nat.mod_pow_succ (x := m) (b := 2) (k := k)
    have hlt : m % 2 ^ k < 2 ^ k := Nat.mod_lt _ (Nat.two_pow_pos k)
    rw [shiftRight_eq]
    simp only [roundDiv, ExtendedMantissa.roundedMantissa, Nat.pow_succ]
    rcases Nat.mod_two_eq_zero_or_one (m / 2 ^ k) with h | h <;>
      by_cases hz : m % 2 ^ k = 0 <;>
      simp [h, hz, ExtendedMantissa.accuracy, Accuracy.roundToNearestEven] <;> grind

theorem targetExponent_eq (e : Int) : Format.binary64.targetExponent e = max (e - 53) (-1074) := rfl

theorem shiftToTargetExponent_exact (m : Nat) (e : Int) {k : Nat}
    (hk : (k : Int) = max ((m.log2 : Int) + e - 52) (-1074) - e) :
    shiftToTargetExponent Format.binary64 m e .exact = ((⟨m, false, false⟩ : ExtendedMantissa) >>> k, e + k) := by
  have hamount : (Format.binary64.targetExponent (totalExponent m e) - e).toNat = k := by
    rw [targetExponent_eq, totalExponent]
    omega
  simp only [shiftToTargetExponent, shiftToExponent, hamount, ExtendedMantissa.ofMantissaAndAccuracy]

/-- A mantissa with at least 53 binary digits is rounded to 53 of them. -/
theorem holds_round (s : Sign) {m : Nat} {e : Int} (hm : 52 ≤ m.log2) (he : -1022 ≤ (m.log2 : Int) + e)
    (he' : m.log2 + e ≤ 1022) :
    ∃ b, Holds (roundWithAccuracy Format.binary64 s m e .exact) s b ∧ b.Normal ∧ b.exponent ≤ m.log2 + e - 51 ∧
      b.value = value ⟨roundDiv m (2 ^ (m.log2 - 52)) .toEven, m.log2 + e - 52⟩ := by
  have hm0 : m ≠ 0 := by
    rintro rfl
    simp at hm
  obtain ⟨k, hk⟩ : ∃ k, m.log2 = 52 + k := ⟨m.log2 - 52, by omega⟩
  have hlow : 2 ^ 52 ≤ m / 2 ^ k := by
    rw [Nat.le_div_iff_mul_le (Nat.two_pow_pos k), ← Nat.pow_add, ← hk]
    exact Nat.log2_self_le hm0
  have hhigh : m / 2 ^ k < 2 ^ 53 := by
    rw [Nat.div_lt_iff_lt_mul (Nat.two_pow_pos k), ← Nat.pow_add, show 53 + k = m.log2 + 1 by omega]
    exact Nat.lt_log2_self
  have hexponent : m.log2 + e - 52 = e + k := by omega
  obtain ⟨r, hr⟩ : ∃ r, r = roundDiv m (2 ^ k) .toEven := ⟨_, rfl⟩
  have hcase := roundDiv_eq_or m (2 ^ k) .toEven
  have hfirst := shiftToTargetExponent_exact m e (k := k) (by omega)
  rw [hexponent, show m.log2 - 52 = k by omega, ← hr]
  simp only [Holds, roundWithAccuracy, hfirst, roundedMantissa_shiftRight, ← hr]
  rcases Nat.lt_or_eq_of_le (show r ≤ 2 ^ 53 by omega) with hlt | rfl
  · have hnormal : Normal ⟨r, e + k⟩ := ⟨by show 2 ^ 52 ≤ r; omega, hlt, by show _ ≤ e + k; omega, by show e + k ≤ _; omega⟩
    have hlog : r.log2 = 52 := hnormal.log2_eq
    have hagain := shiftToTargetExponent_exact r (e + k) (k := 0) (by omega)
    refine ⟨⟨r, e + k⟩, ⟨by show 0 < r; omega, ?_⟩, hnormal, by show e + k ≤ _; omega, rfl⟩
    simp only [hagain]
    rw [dif_neg (by show ¬ r = 0; omega)]
    simp [HShiftRight.hShiftRight, Nat.repeat]
  · -- all digits are carried over, and the last one of what there is then is a zero
    have hlog : (2 ^ 53 : Nat).log2 = 53 := Nat.log2_two_pow
    have hagain := shiftToTargetExponent_exact (2 ^ 53) (e + k) (k := 1) (by omega)
    refine ⟨⟨2 ^ 52, e + k + 1⟩, ⟨Nat.two_pow_pos 52, ?_⟩,
      ⟨le_rfl, Nat.pow_lt_pow_right one_lt_two (by decide), by show _ ≤ e + k + 1; omega, by show e + k + 1 ≤ _; omega⟩,
      by show e + k + 1 ≤ _; omega, ?_⟩
    · simp only [hagain]
      rw [dif_neg (by decide)]
      rfl
    · rw [value, value, zpow_add_one₀ two_ne_zero]
      push_cast
      ring

/-! ### The bits of a double -/

/-- A normal magnitude is held without loss. -/
theorem holds_pack {x : UnpackedFloat} {s : Sign} {b : Binary} (hx : Holds x s b) (hb : b.Normal) :
    Holds (Float.Model.pack x).unpack s b := by
  obtain ⟨h, rfl⟩ := hx
  obtain ⟨m, e⟩ := b
  obtain ⟨hlow, hhigh, he, he'⟩ := hb
  dsimp only at h hlow hhigh he he'
  refine ⟨h, ?_⟩
  obtain ⟨c, hc⟩ : ∃ c : Nat, (c : Int) = e + 1075 := ⟨(e + 1075).toNat, by omega⟩
  have hbias : (e + Format.binary64.exponentBias + Format.binary64.mantissaBitsWithoutImplicit).toNat = c := by
    show (e + (1023 : Nat) + (52 : Nat)).toNat = c
    omega
  have hlog : m.log2 + 1 = Format.binary64.mantissaBits := by
    rw [(Nat.log2_eq_iff (k := 52) (by omega)).2 ⟨hlow, hhigh⟩]
    rfl
  have hpacked : (Float.Model.pack (.finite s m e h)).toBits.toBitVec =
      packComponents Format.binary64 s (BitVec.ofNat 11 c) (BitVec.ofNat 52 m) := by
    have hfit : ¬ 2 ^ Format.binary64.exponentBits ≤ c + 1 := by
      show ¬ 2 ^ 11 ≤ c + 1
      omega
    show UnpackedFloat.pack Format.binary64 (.finite s m e h) = _
    simp only [UnpackedFloat.pack, hbias, if_neg hfit, if_pos hlog]
  have hc11 : (BitVec.ofNat 11 c).toNat = c := by
    rw [BitVec.toNat_ofNat]
    omega
  have hne (d : BitVec 11) (hd : d.toNat = 0 ∨ d.toNat = 2047) : BitVec.ofNat 11 c ≠ d := by
    rintro rfl
    omega
  have hmantissa : (1#1 ++ BitVec.ofNat 52 m).toNat = m := by
    rw [BitVec.toNat_append, ← Nat.shiftLeft_add_eq_or_of_lt (BitVec.isLt _), BitVec.toNat_ofNat]
    show 1 <<< 52 + m % 2 ^ 52 = m
    omega
  show UnpackedFloat.unpack Format.binary64 (Float.Model.pack (.finite s m e h)).toBits.toBitVec = _
  rw [hpacked]
  unfold UnpackedFloat.unpack
  simp only [unpackExponent_packComponents, unpackMantissa_packComponents, unpackSign_packComponents,
    if_neg (hne (-1#11) (.inr rfl)), if_neg (hne 0#11 (.inl rfl)), hmantissa, Sign.ofBitVec_toBitVec, hc11]
  congr 1
  show (c : Int) - ((1023 : Nat) + (52 : Nat)) = e
  omega

/-- The magnitude and the sign that are read off the bits of a double. -/
theorem Holds.ofFloat_eq {x : Float} {s : Sign} {b : Binary} (hx : Holds x.toModel.unpack s b) :
    ofFloat x = b ∧ (isNegative x = true ↔ s = .negative) := by
  obtain ⟨h, hx⟩ := hx
  obtain ⟨m, e⟩ := b
  obtain ⟨c, hc⟩ : ∃ c : BitVec 64, c = x.toModel.toBits.toBitVec := ⟨_, rfl⟩
  have hbits : x.toBits.toNat = c.toNat := by
    rw [hc]
    rfl
  have hexp : (@unpackExponent .binary64 c).toNat = c.toNat / 2 ^ 52 % 2 ^ 11 := by
    show (BitVec.extractLsb 62 52 c).toNat = _
    rw [BitVec.extractLsb_toNat, Nat.shiftRight_eq_div_pow]
  have hman : (@unpackMantissa .binary64 c).toNat = c.toNat % 2 ^ 52 := by
    show (BitVec.extractLsb 51 0 c).toNat = _
    rw [BitVec.extractLsb_toNat]
    rfl
  have hsgn : (@unpackSign .binary64 c).toNat = c.toNat / 2 ^ 63 := by
    show (BitVec.extractLsb 63 63 c).toNat = _
    rw [BitVec.extractLsb_toNat, Nat.shiftRight_eq_div_pow]
    have := c.isLt
    omega
  have hsign : isNegative x = true ↔ Sign.ofBitVec (@unpackSign .binary64 c) = .negative := by
    have hone (d : BitVec 1) : d.toNat = 1 ↔ Sign.ofBitVec d = .negative := by
      obtain rfl | rfl : d = 0#1 ∨ d = 1#1 := BitVec.eq_zero_or_eq_one d
      · exact ⟨nofun, nofun⟩
      · exact ⟨fun _ => rfl, fun _ => rfl⟩
    show decide (x.toBits.toNat / 2 ^ 63 = 1) = true ↔ _
    rw [hbits, ← hsgn, decide_eq_true_iff, hone]
  have hof : ofFloat x = if c.toNat / 2 ^ 52 % 2 ^ 11 = 0 then ⟨c.toNat % 2 ^ 52, -1074⟩
      else ⟨2 ^ 52 + c.toNat % 2 ^ 52, (c.toNat / 2 ^ 52 % 2 ^ 11 : Nat) - 1075⟩ := by
    show (if x.toBits.toNat / 2 ^ 52 % 2 ^ 11 = 0 then _ else _) = _
    rw [hbits]
    rfl
  rw [Float.Model.unpack, ← hc, UnpackedFloat.unpack] at hx
  rw [hof, ← hexp, ← hman, hsign]
  simp only at hx
  split at hx
  · split at hx <;> cases hx
  · split at hx
    next hzero =>
      split at hx
      · cases hx
      · cases hx
        rw [if_pos (by rw [hzero]; rfl), hzero]
        exact ⟨rfl, Iff.rfl⟩
    next hnz =>
      cases hx
      have hne : (@unpackExponent .binary64 c).toNat ≠ 0 := fun h => hnz (BitVec.eq_of_toNat_eq h)
      rw [if_neg hne, BitVec.toNat_append, ← Nat.shiftLeft_add_eq_or_of_lt (BitVec.isLt _)]
      exact ⟨rfl, Iff.rfl⟩

/-! ### The nearest whole number -/

/-- The whole number that a double holds in place of `n`: the nearest that has no more than 53 binary digits in front
of its zeros, of two the one with an even last digit. -/
def nearestWhole (n : Nat) : Nat := roundDiv n (2 ^ (n.log2 - 52)) .toEven * 2 ^ (n.log2 - 52)

theorem nearestWhole_of_lt {n : Nat} (h : n < 2 ^ 53) : nearestWhole n = n := by
  have hlog : n.log2 - 52 = 0 := by
    by_cases h0 : n = 0
    · simp [h0]
    · have := (Nat.log2_lt h0).2 h
      omega
  rw [nearestWhole, hlog, pow_zero, mul_one, roundDiv_one]

theorem le_nearestWhole {n : Nat} (h : 2 ^ 53 ≤ n) : 2 ^ 53 ≤ nearestWhole n := by
  have hlog : 53 ≤ n.log2 := (Nat.le_log2 (by omega)).2 h
  have hq : 2 ^ 52 ≤ n / 2 ^ (n.log2 - 52) := by
    rw [Nat.le_div_iff_mul_le (Nat.two_pow_pos _), ← Nat.pow_add, show 52 + (n.log2 - 52) = n.log2 by omega]
    exact Nat.log2_self_le (by omega)
  have hle : 2 ^ 52 ≤ roundDiv n (2 ^ (n.log2 - 52)) .toEven := by
    have := roundDiv_eq_or n (2 ^ (n.log2 - 52)) .toEven
    omega
  calc
    2 ^ 53 = 2 ^ 52 * 2 ^ 1 := rfl
    _ ≤ nearestWhole n := Nat.mul_le_mul hle (Nat.pow_le_pow_right (by decide) (by omega))

/-- Zeros put behind a whole number do not change what it is rounded to. -/
theorem value_scaled {n c : Nat} (hc : 52 ≤ n.log2 + c) :
    value ⟨roundDiv (n * 2 ^ c) (2 ^ (n.log2 + c - 52)) .toEven, n.log2 - 52⟩ = nearestWhole n := by
  rcases Nat.le_total 52 n.log2 with hl | hl
  · obtain ⟨k, hk⟩ : ∃ k, n.log2 = 52 + k := ⟨n.log2 - 52, by omega⟩
    have hexponent : n.log2 + c - 52 = k + c := by omega
    rw [hexponent, Nat.pow_add, roundDiv_mul_right _ _ (Nat.two_pow_pos c), nearestWhole, hk]
    simp [value]
  · have hlt : n < 2 ^ 53 := by
      by_cases h0 : n = 0
      · simp [h0]
      · exact (Nat.log2_lt h0).1 (by omega)
    obtain ⟨k, hk⟩ : ∃ k, c = k + (52 - n.log2) := ⟨n.log2 + c - 52, by omega⟩
    have hsplit : n * 2 ^ c = n * 2 ^ (52 - n.log2) * 2 ^ k := by rw [hk, Nat.pow_add]; ring
    have hexponent : (n.log2 : Int) - 52 = -((52 - n.log2 : Nat) : Int) := by omega
    rw [show n.log2 + c - 52 = k by omega, hsplit, roundDiv_mul _ _ (Nat.two_pow_pos k), nearestWhole_of_lt hlt, value,
      hexponent, zpow_neg, zpow_natCast]
    push_cast
    field_simp

/-- What is held of a positive whole number with zeros put behind it. -/
theorem holds_pack_scaled {n c : Nat} (hn : 0 < n) (hlog : n.log2 ≤ 1000) (hc : 52 ≤ n.log2 + c) :
    ∃ b, Holds (Float.Model.pack (roundWithAccuracy Format.binary64 .positive (n * 2 ^ c) (-c) .exact)).unpack .positive b ∧
      b.Normal ∧ b.exponent ≤ n.log2 - 51 ∧ b.value = nearestWhole n := by
  have hl := log2_mul_two_pow (n := n) (by omega) c
  obtain ⟨b, hround, hb, hle, hvalue⟩ :=
    holds_round .positive (m := n * 2 ^ c) (e := -c) (by omega) (by omega) (by omega)
  have hexponent : ((n.log2 + c : Nat) : Int) + -c - 52 = n.log2 - 52 := by omega
  rw [hl] at hvalue
  exact ⟨b, holds_pack hround hb, hb, by omega, by rw [hvalue, hexponent, value_scaled hc]⟩

theorem ofUInt64_eq {n : Nat} (hn : 0 < n) (h : n < 2 ^ 53) : UnpackedFloat.ofUInt64 Format.binary64 n.toUInt64 =
    roundWithAccuracy Format.binary64 .positive (n * 2 ^ (52 - n.log2)) (-(52 - n.log2 : Nat)) .exact := by
  have hlog := (Nat.log2_lt (by omega)).2 h
  have hword : n.toUInt64.toNat = n := by
    rw [UInt64.toNat_ofNat']
    omega
  have hpos : compare (n : Int) 0 = .gt := Int.compare_eq_gt.2 (by omega)
  have htarget : (-Format.binary64.targetExponent (totalExponent n 0)).toNat = 52 - n.log2 := by
    rw [targetExponent_eq, totalExponent]
    omega
  rw [UnpackedFloat.ofUInt64, UnpackedFloat.ofNat, UnpackedFloat.ofInt, UnpackedFloat.normalize, hword, hpos]
  simp only [UnpackedFloat.round, decreaseExponent, Int.toNat_natCast, Nat.shiftLeft_eq, zero_sub, htarget]

/-- A positive whole number below 2^53 becomes a double as a word times one. -/
theorem holds_ofNat_of_lt {n : Nat} (hn : 0 < n) (h : n < 2 ^ 53) :
    ∃ b, Holds (Float.ofNat n).toModel.unpack .positive b ∧ b.Normal ∧ b.value = nearestWhole n := by
  have hlog := (Nat.log2_lt (by omega)).2 h
  obtain ⟨w, hword, hw, hle, hvalue⟩ := holds_pack_scaled (c := 52 - n.log2) hn (by omega) (by omega)
  have hl := log2_mul_two_pow (n := w.mantissa) (by have := hw.low; omega) 52
  have hw52 := hw.log2_eq
  have hleast := hw.least
  obtain ⟨b, hproduct, hb, -, hsame⟩ :=
    holds_round .positive (m := w.mantissa * 2 ^ 52) (e := w.exponent + -52) (by omega) (by omega) (by omega)
  refine ⟨b, ?_, hb, ?_⟩
  · have hfloat : Float.ofNat n = n.toUInt64.toFloat * Float.ofBits 0x3FF0000000000000 := by
      show Float.ofScientific n false 0 = _
      rw [Float.ofScientific, dif_pos ⟨h, by decide⟩]
      rfl
    have hone : (Float.ofBits 0x3FF0000000000000).toModel.unpack = .finite .positive (2 ^ 52) (-52) (by decide) := rfl
    rw [← ofUInt64_eq hn h] at hword
    obtain ⟨hpos, hword⟩ := hword
    rw [hfloat]
    show Holds (Float.Model.pack (UnpackedFloat.mul Format.binary64 n.toUInt64.toFloat.toModel.unpack _)).unpack _ _
    rw [show n.toUInt64.toFloat.toModel.unpack = _ from hword, hone]
    exact holds_pack hproduct hb
  · have hexponent : ((52 + 52 : Nat) : Int) + (w.exponent + -52) - 52 = w.exponent := by omega
    rw [hl, hw52] at hsame
    rw [hsame, hexponent, roundDiv_mul _ _ (Nat.two_pow_pos _), ← hvalue]

/-- A whole number from 2^53 on becomes a double in one rounding. -/
theorem holds_ofNat_of_le {n : Nat} (h : 2 ^ 53 ≤ n) (hlog : n.log2 ≤ 1000) :
    ∃ b, Holds (Float.ofNat n).toModel.unpack .positive b ∧ b.Normal ∧ b.value = nearestWhole n := by
  obtain ⟨b, hround, hb, -, hvalue⟩ := holds_pack_scaled (n := n) (c := 53) (by omega) hlog (by omega)
  refine ⟨b, ?_, hb, hvalue⟩
  have hfloat : (Float.ofNat n).toModel = Float.Model.ofScientific n 0 := by
    show (Float.ofScientific n false 0).toModel = _
    rw [Float.ofScientific, dif_neg fun hsmall => absurd hsmall.1 (by omega)]
    rfl
  have hlow : ¬ (0 : Int) < -(2 ^ Format.binary64.exponentBits + n.log2) := by
    show ¬ (0 : Int) < -(2 ^ 11 + n.log2)
    omega
  have hscientific : UnpackedFloat.ofScientific Format.binary64 n 0 =
      roundWithAccuracy Format.binary64 .positive (n * 2 ^ 53) (-(53 : Nat)) .exact := by
    rw [UnpackedFloat.ofScientific, dif_neg (by omega), if_neg (by decide), if_neg hlow, if_pos le_rfl]
    simp only [UnpackedFloat.mul, Nat.shiftLeft_eq, Int.toNat_zero, pow_zero, mul_one, add_zero]
    rfl
  rwa [hfloat, Float.Model.ofScientific, hscientific]

theorem holds_ofNat {n : Nat} (hn : 0 < n) (hlog : n.log2 ≤ 1000) :
    ∃ b, Holds (Float.ofNat n).toModel.unpack .positive b ∧ b.Normal ∧ b.value = nearestWhole n := by
  rcases Nat.lt_or_ge n (2 ^ 53) with h | h
  · exact holds_ofNat_of_lt hn h
  · exact holds_ofNat_of_le h hlog

/-! ### The order of doubles -/

theorem compare_swap (x y : UnpackedFloat) : y.compare x = (x.compare y).map Ordering.swap := by
  have hfinite (e e' : Int) (m m' : Nat) :
      (compare e' e).then (compare m' m) = ((compare e e').then (compare m m')).swap := by
    rw [Ordering.swap_then, ← Std.OrientedCmp.eq_swap, ← Std.OrientedCmp.eq_swap]
  rcases x with (_ | _) | _ | (_ | _) | ⟨(_ | _), m, e, _⟩ <;>
    rcases y with (_ | _) | _ | (_ | _) | ⟨(_ | _), m', e', _⟩ <;>
    first
    | rfl
    | simp only [UnpackedFloat.compare, Option.map_some, hfinite e e' m m', Ordering.swap_swap]

theorem compare_eq_none_iff {x y : UnpackedFloat} : x.compare y = none ↔ x.isNaN = true ∨ y.isNaN = true := by
  rcases x with (_ | _) | _ | (_ | _) | ⟨(_ | _), m, e, _⟩ <;>
    rcases y with (_ | _) | _ | (_ | _) | ⟨(_ | _), m', e', _⟩ <;>
    simp [UnpackedFloat.compare, UnpackedFloat.isNaN]

theorem isNaN_of_isFinite {x : Float} (hx : x.isFinite = true) : x.isNaN = false := by
  change x.toModel.unpack.isFinite = true at hx
  show x.toModel.unpack.isNaN = false
  cases h : x.toModel.unpack with
  | notANumber =>
    rw [h] at hx
    cases hx
  | infinity s | zero s | finite s m e hm => rfl

theorem lt_iff_compare {x y : Float} : x < y ↔ x.toModel.unpack.compare y.toModel.unpack = some .lt := by
  show decide ((x.toModel.unpack.compare y.toModel.unpack == some .lt) = true) = true ↔ _
  rw [decide_eq_true_iff, beq_iff_eq]

theorem le_iff_compare {x y : Float} :
    x ≤ y ↔ (x.toModel.unpack.compare y.toModel.unpack).any Ordering.isLE = true := by
  show decide ((x.toModel.unpack.compare y.toModel.unpack).any Ordering.isLE = true) = true ↔ _
  rw [decide_eq_true_iff]

section

variable {x y : Float} (hx : x.isFinite = true)

include hx

theorem compare_eq_none_iff_of_isFinite :
    x.toModel.unpack.compare y.toModel.unpack = none ↔ y.isNaN = true := by
  rw [compare_eq_none_iff]
  exact or_iff_right (Bool.eq_false_iff.1 (isNaN_of_isFinite hx))

/-- A finite double is not below another exactly when that is no number, or is not above it. -/
theorem not_lt_iff : ¬ x < y ↔ y.isNaN = true ∨ y ≤ x := by
  rw [lt_iff_compare, le_iff_compare, compare_swap x.toModel.unpack, ← compare_eq_none_iff_of_isFinite hx]
  cases x.toModel.unpack.compare y.toModel.unpack with
  | none => simp
  | some o => cases o <;> simp

theorem not_gt_iff : ¬ y < x ↔ y.isNaN = true ∨ x ≤ y := by
  rw [lt_iff_compare, le_iff_compare, compare_swap x.toModel.unpack, ← compare_eq_none_iff_of_isFinite hx]
  cases x.toModel.unpack.compare y.toModel.unpack with
  | none => simp
  | some o => cases o <;> simp

end

/-! ### From a whole number to a double and back -/

/-- A double is the nearest that there is to a whole number: it has its sign, and the magnitude that its own is rounded
to. -/
structure StandsFor (x : Float) (n : Int) : Prop where
  finite : x.isFinite = true
  sign : isNegative x = true ↔ n < 0
  value : (ofFloat x).value = nearestWhole n.natAbs

theorem Holds.isFinite {x : Float} {s : Sign} {b : Binary} (hx : Holds x.toModel.unpack s b) : x.isFinite = true := by
  obtain ⟨h, hx⟩ := hx
  show x.toModel.unpack.isFinite = true
  rw [hx]
  rfl

theorem standsFor_ofNat {n : Nat} (hn : 0 < n) (hlog : n.log2 ≤ 1000) : StandsFor (Float.ofNat n) n := by
  obtain ⟨b, hx, -, hvalue⟩ := holds_ofNat hn hlog
  obtain ⟨hof, hsign⟩ := hx.ofFloat_eq
  refine ⟨hx.isFinite, ?_, by rw [hof, hvalue]; rfl⟩
  rw [hsign]
  exact ⟨nofun, fun h => by omega⟩

theorem standsFor_neg {n : Nat} (hn : 0 < n) (hlog : n.log2 ≤ 1000) : StandsFor (-Float.ofNat n) (-n) := by
  obtain ⟨b, hx, hb, hvalue⟩ := holds_ofNat hn hlog
  have hneg : Holds (-Float.ofNat n).toModel.unpack .negative b := by
    refine holds_pack ?_ hb
    obtain ⟨h, hx⟩ := hx
    rw [hx]
    exact ⟨h, rfl⟩
  obtain ⟨hof, hsign⟩ := hneg.ofFloat_eq
  refine ⟨hneg.isFinite, ?_, by rw [hof, hvalue, Int.natAbs_neg]; rfl⟩
  rw [hsign]
  exact ⟨fun _ => by omega, fun _ => rfl⟩

theorem standsFor_ofInt {n : Int} (hlog : n.natAbs.log2 ≤ 1000) : StandsFor (Float.ofInt n) n := by
  cases n with
  | ofNat n =>
    rcases Nat.eq_zero_or_pos n with rfl | hn
    · exact ⟨rfl, ⟨nofun, nofun⟩, by decide +kernel⟩
    · exact standsFor_ofNat hn hlog
  | negSucc n => exact standsFor_neg n.succ_pos hlog

theorem quotient_eq (b : Binary) :
    ((quotient b.mantissa b.exponent).1 : ℚ) = b.value * (quotient b.mantissa b.exponent).2 := by
  obtain ⟨m, e⟩ := b
  have hsplit : (2 : ℚ) ^ e.toNat = 2 ^ e * 2 ^ (-e).toNat := by
    rw [← zpow_natCast, ← zpow_natCast, ← zpow_add₀ two_ne_zero]
    congr 1
    omega
  show ((m * 2 ^ e.toNat : Nat) : ℚ) = m * 2 ^ e * ((2 ^ (-e).toNat : Nat) : ℚ)
  push_cast
  rw [hsplit, mul_assoc]

end Binary

namespace Json

open Binary

/-- The whole number is read off a double that stands for one, if it is below 2^53. -/
theorem wholeOfFloat?_of_standsFor {x : Float} {n : Int} (h : StandsFor x n) : wholeOfFloat? x =
    if nearestWhole n.natAbs < 2 ^ 53 then
      some (if n < 0 then -(nearestWhole n.natAbs : Int) else nearestWhole n.natAbs)
    else none := by
  have hden : 0 < (quotient (Binary.ofFloat x).mantissa (Binary.ofFloat x).exponent).2 := Nat.two_pow_pos _
  have hquotient := quotient_eq (Binary.ofFloat x)
  rw [h.value] at hquotient
  unfold wholeOfFloat?
  generalize quotient (Binary.ofFloat x).mantissa (Binary.ofFloat x).exponent = q at hden hquotient
  obtain ⟨num, den⟩ := q
  dsimp only at hden hquotient ⊢
  obtain rfl : num = nearestWhole n.natAbs * den := by exact_mod_cast hquotient
  simp only [h.finite, Bool.not_true, Bool.false_eq_true, if_false, Nat.mul_mod_left, Nat.mul_div_cancel _ hden,
    true_and, h.sign]
  rfl

theorem natAbs_lt_of_wholeOfFloat? {x : Float} {n : Int} (h : wholeOfFloat? x = some n) : n.natAbs < 2 ^ 53 := by
  simp only [wholeOfFloat?] at h
  generalize quotient _ _ = q at h
  split at h
  · cases h
  · split at h
    next hq =>
      have hlt : q.1 / q.2 < 2 ^ 53 := hq.2
      split at h <;> cases h
      · rwa [Int.natAbs_neg]
      · exact hlt
    next => cases h

/-- A whole number below 2^53 comes back from its double. -/
theorem wholeOfFloat?_ofInt_of_lt {n : Int} (h : n.natAbs < 2 ^ 53) : wholeOfFloat? (Float.ofInt n) = some n := by
  have hlog : n.natAbs.log2 ≤ 1000 := by
    by_cases h0 : n.natAbs = 0
    · simp [h0]
    · have := (Nat.log2_lt h0).2 h
      omega
  rw [wholeOfFloat?_of_standsFor (standsFor_ofInt hlog), nearestWhole_of_lt h, if_pos h]
  congr 1
  split <;> omega

/-- A whole number from 2^53 on does not come back from its double. -/
theorem wholeOfFloat?_ofInt_of_le {n : Int} (h : 2 ^ 53 ≤ n.natAbs) (hlog : n.natAbs.log2 ≤ 1000) :
    wholeOfFloat? (Float.ofInt n) = none := by
  have := le_nearestWhole h
  rw [wholeOfFloat?_of_standsFor (standsFor_ofInt hlog), if_neg (by omega)]

theorem isFinite_of_wholeOfFloat? {x : Float} {n : Int} (h : wholeOfFloat? x = some n) : x.isFinite = true := by
  by_contra hx
  simp [wholeOfFloat?, hx] at h

theorem ofNumber_of_whole {x : Float} {n : Int} (h : wholeOfFloat? x = some n) : ofNumber x = whole n := by
  rw [ofNumber, h]

theorem ofNumber_of_float {x : Float} (h : wholeOfFloat? x = none) (hx : x.isFinite = true) :
    ofNumber x = num (.float x) := by
  rw [ofNumber, h]
  exact if_pos hx

theorem ofNumber_of_notFinite {x : Float} (hx : x.isFinite = false) : ofNumber x = null := by
  simp [ofNumber, wholeOfFloat?, ofFloat, hx]

/-- What a finite double is stored as: a number that is stored as itself, with a finite value. -/
theorem exists_ofNumber {x : Float} (hx : x.isFinite = true) :
    ∃ n : JsonNumber, ofNumber x = num n ∧ n.toFloat.isFinite = true ∧ ofNumber n.toFloat = num n := by
  cases hwhole : wholeOfFloat? x with
  | none =>
    have hfloat := ofNumber_of_float hwhole hx
    exact ⟨.float x, hfloat, hx, hfloat⟩
  | some n =>
    have hback := wholeOfFloat?_ofInt_of_lt (natAbs_lt_of_wholeOfFloat? hwhole)
    exact ⟨.whole n, ofNumber_of_whole hwhole, isFinite_of_wholeOfFloat? hback, ofNumber_of_whole hback⟩

end Json

end BackOffice
