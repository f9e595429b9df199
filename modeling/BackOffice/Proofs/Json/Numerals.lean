import BackOffice.Json.Parser
import BackOffice.Json.Printer
import Mathlib.Data.List.Basic

/-!
Numerals between other text. A numeral that a reader takes up whole is read the same in front of any
text that does not go on with a numeral character, and whole numbers of the machine words read back as
they were written. Floats are read in two rounded steps, so that not every one of them reads back.
-/

namespace BackOffice

/-- A character that can stand in a numeral. -/
def isNumeral (c : Char) : Bool :=
  c.isDigit || c == '-' || c == '+' || c == '.' || c == 'e' || c == 'E'

/-- A text that cannot lengthen a numeral in front of it. -/
def EndsNumeral (rest : List Char) : Prop := ∀ c ∈ rest.head?, isNumeral c = false

theorem endsNumeral_nil : EndsNumeral [] := by simp [EndsNumeral]

theorem endsNumeral_cons {c : Char} (h : isNumeral c = false) (rest : List Char) :
    EndsNumeral (c :: rest) := by
  simpa [EndsNumeral] using h

theorem isNumeral_of_isDigit {c : Char} (h : c.isDigit = true) : isNumeral c = true := by
  simp [isNumeral, h]

/-- A reader of a part of a numeral: it takes numeral characters only, and it takes the same ones when
text follows that does not go on with another. -/
structure ReadsNumeral {α : Type} (read : List Char → Option (α × List Char)) : Prop where
  taken : ∀ {cs x r}, read cs = some (x, r) →
    ∃ front, cs = front ++ r ∧ ∀ c ∈ front, isNumeral c = true
  steady : ∀ {cs x r rest}, read cs = some (x, r) → EndsNumeral rest →
    read (cs ++ rest) = some (x, r ++ rest)

namespace ReadsNumeral

variable {α β : Type}

/-- Taking nothing. -/
theorem constant (x : Option α) : ReadsNumeral fun cs => x.map (·, cs) where
  taken h := by
    obtain ⟨_, _, he⟩ := Option.map_eq_some_iff.1 h
    exact ⟨[], by simp_all⟩
  steady h _ := by
    obtain ⟨_, rfl, he⟩ := Option.map_eq_some_iff.1 h
    simp_all

/-- One part after another. -/
theorem bind {f : List Char → Option (α × List Char)} {g : α → List Char → Option (β × List Char)}
    (hf : ReadsNumeral f) (hg : ∀ x, ReadsNumeral (g x)) :
    ReadsNumeral fun cs => (f cs).bind fun p => g p.1 p.2 where
  taken h := by
    obtain ⟨⟨x, middle⟩, h₁, h₂⟩ := Option.bind_eq_some_iff.1 h
    obtain ⟨front, rfl, hfront⟩ := hf.taken h₁
    obtain ⟨back, rfl, hback⟩ := (hg x).taken h₂
    exact ⟨front ++ back, by simp, fun c hc => (List.mem_append.1 hc).elim (hfront c) (hback c)⟩
  steady h hrest := by
    obtain ⟨⟨x, middle⟩, h₁, h₂⟩ := Option.bind_eq_some_iff.1 h
    exact Option.bind_eq_some_iff.2 ⟨_, hf.steady h₁ hrest, (hg x).steady h₂ hrest⟩

/-- One reader behind a numeral character in front, another without it. -/
theorem branch {there absent : List Char → Option (α × List Char)} {c : Char}
    (hc : isNumeral c = true) (ht : ReadsNumeral there) (ha : ReadsNumeral absent) :
    ReadsNumeral fun cs => if cs.head? = some c then there cs.tail else absent cs where
  taken := by
    intro cs x r h
    by_cases hh : cs.head? = some c
    · obtain ⟨rest, rfl⟩ := List.head?_eq_some_iff.1 hh
      obtain ⟨front, hcs, hf⟩ := ht.taken ((if_pos hh).symm.trans h)
      exact ⟨c :: front, by simpa using hcs, by simpa [hc] using hf⟩
    · exact ha.taken ((if_neg hh).symm.trans h)
  steady := by
    intro cs x r rest h hrest
    by_cases hh : cs.head? = some c
    · obtain ⟨cs, rfl⟩ := List.head?_eq_some_iff.1 hh
      simpa using ht.steady ((if_pos hh).symm.trans h) hrest
    · -- if nothing is before it, the character would have to come from the text behind
      have hh' : (cs ++ rest).head? ≠ some c := by
        intro he
        cases cs with
        | nil => simp [hrest c he] at hc
        | cons d cs => exact hh (by simpa using he)
      exact (if_neg hh').trans (ha.steady ((if_neg hh).symm.trans h) hrest)

end ReadsNumeral

namespace Json

theorem digits?_eq_some_iff {cs front r : List Char} :
    digits? cs = some (front, r) ↔
      cs = front ++ r ∧ front ≠ [] ∧ (∀ c ∈ front, c.isDigit = true) ∧
        ∀ c ∈ r.head?, c.isDigit = false := by
  have hsplit : cs.takeWhile Char.isDigit ++ cs.dropWhile Char.isDigit = cs :=
    List.takeWhile_append_dropWhile
  constructor
  · intro h
    obtain ⟨rfl, rfl, hne⟩ :
        cs.takeWhile Char.isDigit = front ∧ cs.dropWhile Char.isDigit = r ∧ front ≠ [] := by
      unfold digits? at h
      split at h
      · cases h
      next hne =>
        obtain ⟨rfl, rfl⟩ := Prod.mk.inj (Option.some.inj h)
        exact ⟨rfl, rfl, hne⟩
    refine ⟨hsplit.symm, hne, ?_, ?_⟩
    · exact List.all_eq_true.1 List.all_takeWhile
    · intro c hc
      have := List.head?_dropWhile_not Char.isDigit cs
      rw [Option.mem_def.1 hc] at this
      exact this
  · rintro ⟨rfl, hne, hfront, hr⟩
    have ht : r.takeWhile Char.isDigit = [] := by
      cases r with
      | nil => rfl
      | cons c r => rw [List.takeWhile_cons, hr c rfl]; rfl
    have hd : r.dropWhile Char.isDigit = r := by
      cases r with
      | nil => rfl
      | cons c r => rw [List.dropWhile_cons, hr c rfl]; rfl
    rw [digits?, List.takeWhile_append_of_pos hfront, List.dropWhile_append_of_pos hfront, ht, hd,
      List.append_nil]
    split
    next hnil => exact absurd rfl hne
    next => rfl

theorem readsNumeral_digits? : ReadsNumeral digits? where
  taken h := by
    obtain ⟨rfl, _, hf, _⟩ := digits?_eq_some_iff.1 h
    exact ⟨_, rfl, fun c hc => isNumeral_of_isDigit (hf c hc)⟩
  steady := by
    intro cs front r rest h hrest
    obtain ⟨rfl, hne, hf, hr⟩ := digits?_eq_some_iff.1 h
    refine digits?_eq_some_iff.2 ⟨by simp, hne, hf, fun c hc => ?_⟩
    cases r with
    | nil => exact Bool.eq_false_iff.2 fun hd => by simpa [isNumeral_of_isDigit hd] using hrest c hc
    | cons d r => exact hr c (by simpa using hc)

theorem readsNumeral_wholeDigits? : ReadsNumeral wholeDigits? := by
  refine readsNumeral_digits?.bind (g := fun front r =>
    if front.head? = some '0' ∧ front.length ≠ 1 then none else some (front, r)) fun front => ?_
  by_cases h : front.head? = some '0' ∧ front.length ≠ 1
  · simpa only [if_pos h] using .constant none
  · simpa only [if_neg h] using .constant (some front)

/-- The number of an exponent with its digits. -/
def exponentOf (minus : Bool) (digits : List Char) : Int :=
  let value : Nat := ((digits.dropWhile (· = '0')).take 11).foldl (fun n c => 10 * n + (c.toNat - 48)) 0
  if minus then -(value : Int) else value

theorem exponentRest?_eq : exponentRest? = fun cs =>
    if cs.head? = some '-' then (digits? cs.tail).bind fun p => some (exponentOf true p.1, p.2)
    else if cs.head? = some '+' then (digits? cs.tail).bind fun p => some (exponentOf false p.1, p.2)
    else (digits? cs).bind fun p => some (exponentOf false p.1, p.2) := by
  funext cs
  by_cases hm : cs.head? = some '-'
  · obtain ⟨cs, rfl⟩ := List.head?_eq_some_iff.1 hm
    rfl
  by_cases hp : cs.head? = some '+'
  · obtain ⟨cs, rfl⟩ := List.head?_eq_some_iff.1 hp
    rfl
  rw [if_neg hm, if_neg hp, exponentRest?]
  · rfl
  · rintro rest rfl; exact hm rfl
  · rintro rest rfl; exact hp rfl

theorem readsNumeral_exponentRest? : ReadsNumeral exponentRest? := by
  have hd (minus : Bool) :
      ReadsNumeral fun cs => (digits? cs).bind fun p => some (exponentOf minus p.1, p.2) :=
    readsNumeral_digits?.bind (g := fun front r => some (exponentOf minus front, r))
      fun _ => .constant (some _)
  rw [exponentRest?_eq]
  exact .branch rfl (hd true) (.branch rfl (hd false) (hd false))

theorem fraction?_eq : fraction? = fun cs =>
    if cs.head? = some '.' then (digits? cs.tail).bind fun p => some (some p.1, p.2)
    else some (none, cs) := by
  funext cs
  by_cases h : cs.head? = some '.'
  · obtain ⟨cs, rfl⟩ := List.head?_eq_some_iff.1 h
    exact Option.map_eq_bind
  · rw [if_neg h, fraction?]
    rintro rest rfl; exact h rfl

theorem readsNumeral_fraction? : ReadsNumeral fraction? := by
  rw [fraction?_eq]
  exact .branch rfl (readsNumeral_digits?.bind (g := fun back r => some (some back, r))
    fun _ => .constant (some _)) (.constant (some none))

theorem exponent?_eq : exponent? = fun cs =>
    if cs.head? = some 'e' then (exponentRest? cs.tail).bind fun p => some (some p.1, p.2)
    else if cs.head? = some 'E' then (exponentRest? cs.tail).bind fun p => some (some p.1, p.2)
    else some (none, cs) := by
  funext cs
  by_cases he : cs.head? = some 'e'
  · obtain ⟨cs, rfl⟩ := List.head?_eq_some_iff.1 he
    exact Option.map_eq_bind
  by_cases hE : cs.head? = some 'E'
  · obtain ⟨cs, rfl⟩ := List.head?_eq_some_iff.1 hE
    exact Option.map_eq_bind
  rw [if_neg he, if_neg hE, exponent?]
  · rintro rest rfl; exact he rfl
  · rintro rest rfl; exact hE rfl

theorem readsNumeral_exponent? : ReadsNumeral exponent? := by
  have hd : ReadsNumeral fun cs => (exponentRest? cs).bind fun p => some (some p.1, p.2) :=
    readsNumeral_exponentRest?.bind (g := fun e r => some (some e, r)) fun _ => .constant (some _)
  rw [exponent?_eq]
  exact .branch rfl hd (.branch rfl hd (.constant (some none)))

/-- A number with its sign already read. -/
def magnitude? (minus : Bool) (cs : List Char) : Option (JsonNumber × List Char) :=
  (wholeDigits? cs).bind fun front => (fraction? front.2).bind fun back =>
    (exponent? back.2).bind fun exponent =>
      (JsonNumber.ofParts minus front.1 back.1 exponent.1).map (·, exponent.2)

theorem number?_eq : number? = fun cs =>
    if cs.head? = some '-' then magnitude? true cs.tail else magnitude? false cs := by
  funext cs
  by_cases h : cs.head? = some '-'
  · obtain ⟨cs, rfl⟩ := List.head?_eq_some_iff.1 h
    rw [if_pos h]
    simp only [magnitude?, Option.map_eq_bind]
    rfl
  · rw [if_neg h, number?]
    · simp only [magnitude?, Option.map_eq_bind]
      rfl
    · rintro rest rfl; exact h rfl

theorem readsNumeral_magnitude? (minus : Bool) : ReadsNumeral (magnitude? minus) :=
  readsNumeral_wholeDigits?.bind fun front => readsNumeral_fraction?.bind fun back =>
    readsNumeral_exponent?.bind fun exponent =>
      .constant (JsonNumber.ofParts minus front back exponent)

theorem readsNumeral_number? : ReadsNumeral number? := by
  rw [number?_eq]
  exact .branch rfl (readsNumeral_magnitude? true) (readsNumeral_magnitude? false)

/-- A numeral that is taken up whole is read the same in front of text that does not lengthen it. -/
theorem number?_append {cs rest : List Char} {n : JsonNumber} (h : number? cs = some (n, []))
    (hrest : EndsNumeral rest) : number? (cs ++ rest) = some (n, rest) :=
  readsNumeral_number?.steady h hrest

theorem isNumeral_of_number? {cs : List Char} {n : JsonNumber} (h : number? cs = some (n, [])) :
    ∀ c ∈ cs, isNumeral c = true := by
  obtain ⟨front, rfl, hf⟩ := readsNumeral_number?.taken h
  simpa using hf

end Json

namespace JsonNumber

/-- A number whose text reads back as the number itself. -/
def ReadsBack (n : JsonNumber) : Prop := Json.number? n.chars = some (n, [])

instance (n : JsonNumber) : Decidable n.ReadsBack := inferInstanceAs (Decidable (_ = _))

theorem ReadsBack.isNumeral {n : JsonNumber} (h : n.ReadsBack) : ∀ c ∈ n.chars, isNumeral c = true :=
  Json.isNumeral_of_number? h

theorem ReadsBack.ne_nil {n : JsonNumber} (h : n.ReadsBack) : n.chars ≠ [] := by
  intro hnil
  rw [ReadsBack, hnil] at h
  cases h

/-- A whole number of a machine word, signed or unsigned. -/
def InWord (n : Int) : Prop := -Int.pow 2 63 ≤ n ∧ n < Int.pow 2 64

theorem inWord_iff {n : Int} : InWord n ↔ -9223372036854775808 ≤ n ∧ n < 18446744073709551616 := Iff.rfl

theorem two_pow_63 : Nat.pow 2 63 = 9223372036854775808 := rfl

theorem two_pow_64 : Nat.pow 2 64 = 18446744073709551616 := rfl

theorem le_ofDigitChars (start : Nat) (cs : List Char) : start ≤ Nat.ofDigitChars 10 cs start := by
  induction cs generalizing start with
  | nil => simp
  | cons c cs ih =>
    rw [Nat.ofDigitChars_cons]
    exact Nat.le_trans (by omega) (ih _)

/-- Digits whose value fits a word are used up. -/
theorem fittingDigits_eq {start : Nat} {cs : List Char} (h : Nat.ofDigitChars 10 cs start < Nat.pow 2 64) :
    fittingDigits start cs = (Nat.ofDigitChars 10 cs start, cs.length, 0) := by
  induction cs generalizing start with
  | nil => rfl
  | cons c cs ih =>
    rw [Nat.ofDigitChars_cons] at h ⊢
    have hnext : 10 * start + (c.toNat - 48) < Nat.pow 2 64 := Nat.lt_of_le_of_lt (le_ofDigitChars _ cs) h
    simp only [fittingDigits, if_pos hnext]
    exact congrArg (fun t : Nat × Nat × Nat => (t.1, t.2.1 + 1, t.2.2)) (ih h)

theorem fittingDigits_lt {start : Nat} (h : start < Nat.pow 2 64) (cs : List Char) :
    (fittingDigits start cs).1 < Nat.pow 2 64 := by
  fun_induction fittingDigits start cs with
  | case1 => exact h
  | case2 => simp_all
  | case3 => simp_all

/-- A number that is read as a whole number is one of a machine word. -/
theorem inWord_of_ofParts {minus : Bool} {front : List Char} {back : Option (List Char)}
    {exponent : Option Int} {n : Int} (h : ofParts minus front back exponent = some (whole n)) :
    InWord n := by
  have hlt := fittingDigits_lt (by decide : 0 < Nat.pow 2 64) front
  cases back with
  | some back => simp [ofParts] at h
  | none =>
    cases exponent with
    | some e => simp [ofParts] at h
    | none =>
      -- only a whole numeral whose digits are all used up is read as a whole number
      simp only [ofParts] at h
      rw [inWord_iff]
      rw [two_pow_64] at hlt
      split at h
      · simp at h
      · split at h
        · split at h
          · simp at h
          · simp only [Option.some.injEq, whole.injEq] at h
            simp only [two_pow_63, not_or, Nat.not_lt] at *
            omega
        · simp only [Option.some.injEq, whole.injEq] at h
          omega

theorem inWord_of_number? {cs r : List Char} {n : Int} (h : Json.number? cs = some (whole n, r)) :
    InWord n := by
  have hm {minus : Bool} {cs : List Char} (h : Json.magnitude? minus cs = some (whole n, r)) :
      InWord n := by
    simp only [Json.magnitude?, Option.bind_eq_some_iff, Option.map_eq_some_iff, Prod.mk.injEq] at h
    obtain ⟨front, _, back, _, exponent, _, m, hparts, rfl, _⟩ := h
    exact inWord_of_ofParts hparts
  rw [Json.number?_eq] at h
  dsimp only at h
  split at h
  · exact hm h
  · exact hm h

/-- Only zero is written with a zero in front. -/
theorem head?_toDigits {n : Nat} (h : (Nat.toDigits 10 n).head? = some '0') : n = 0 := by
  induction n using Nat.strongRecOn with
  | ind n ih =>
    rw [Nat.toDigits_eq_if (by decide)] at h
    split at h
    · simpa using h
    · rw [List.head?_append_of_ne_nil _ Nat.toDigits_ne_nil] at h
      have := ih (n / 10) (by omega) h
      omega

theorem wholeDigits?_toDigits (n : Nat) :
    Json.wholeDigits? (Nat.toDigits 10 n) = some (Nat.toDigits 10 n, []) := by
  have hd : Json.digits? (Nat.toDigits 10 n) = some (Nat.toDigits 10 n, []) :=
    Json.digits?_eq_some_iff.2 ⟨by simp, Nat.toDigits_ne_nil,
      fun c hc => Nat.isDigit_of_mem_toDigits (by decide) (by decide) hc, by simp⟩
  have hz : ¬((Nat.toDigits 10 n).head? = some '0' ∧ (Nat.toDigits 10 n).length ≠ 1) :=
    fun ⟨hz, hl⟩ => by simp [head?_toDigits hz] at hl
  simp [Json.wholeDigits?, hd, hz]

theorem magnitude?_toDigits {minus : Bool} (n : Nat) : Json.magnitude? minus (Nat.toDigits 10 n) =
    (ofParts minus (Nat.toDigits 10 n) none none).map (·, []) := by
  simp [Json.magnitude?, wholeDigits?_toDigits, Json.fraction?_eq, Json.exponent?_eq]

theorem readsBack_whole {n : Int} (h : InWord n) : (whole n).ReadsBack := by
  rw [inWord_iff] at h
  have hlt : n.natAbs < Nat.pow 2 64 := by rw [two_pow_64]; omega
  have hfit : fittingDigits 0 (Nat.toDigits 10 n.natAbs) =
      (n.natAbs, (Nat.toDigits 10 n.natAbs).length, 0) := by
    have hv := Nat.ofDigitChars_toDigits (n := n.natAbs) (by decide : 1 < 10) (by decide)
    rw [fittingDigits_eq (by rwa [hv]), hv]
  unfold ReadsBack
  rw [chars, Json.number?_eq, Decimal.digitsOf]
  by_cases hn : n < 0
  · have hword : ¬(n.natAbs = 0 ∨ Nat.pow 2 63 < n.natAbs) := by
      rw [two_pow_63]
      omega
    have habs : -(n.natAbs : Int) = n := by omega
    simp only [if_pos hn, List.cons_append, List.nil_append, List.head?_cons, if_true, List.tail_cons,
      magnitude?_toDigits]
    simp only [ofParts, hfit, if_neg hword, if_true, habs]
    rfl
  · have hhead : (Nat.toDigits 10 n.natAbs).head? ≠ some '-' := fun hh =>
      absurd (Nat.isDigit_of_mem_toDigits (by decide) (by decide) (List.mem_of_mem_head? hh)) (by decide)
    have habs : (n.natAbs : Int) = n := by omega
    simp only [if_neg hn, List.nil_append, if_neg hhead, magnitude?_toDigits]
    simp [ofParts, hfit, habs]

end JsonNumber

end BackOffice
