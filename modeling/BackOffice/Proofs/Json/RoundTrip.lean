import BackOffice.Proofs.Json.Proper
import BackOffice.Proofs.Json.Quoted

/-!
Text that was written reads back. A proper value is read from its own text, in front of whatever cannot lengthen a
numeral, if its floats are: two rounded steps take a numeral to its float, and not every float comes back from them.
-/

namespace BackOffice

namespace Json

/-! ### Floats -/

mutual

/-- The floats in a value. -/
def floats : Json → List Float
  | num (.float x) => [x]
  | arr items => itemFloats items
  | obj members => memberFloats members
  | _ => []

def itemFloats : List Json → List Float
  | [] => []
  | v :: rest => floats v ++ itemFloats rest

def memberFloats : List (String × Json) → List Float
  | [] => []
  | (_, v) :: rest => floats v ++ memberFloats rest

end

/-- A value of which every float reads back. -/
def FloatsReadBack (v : Json) : Prop := ∀ x ∈ v.floats, (JsonNumber.float x).ReadsBack

theorem itemFloats_eq (items : List Json) : itemFloats items = items.flatMap floats := by
  induction items with
  | nil => rfl
  | cons v rest ih => rw [itemFloats, ih, List.flatMap_cons]

theorem memberFloats_eq (members : Keyed Json) : memberFloats members = members.flatMap fun m => floats m.2 := by
  induction members with
  | nil => rfl
  | cons m rest ih => rw [memberFloats, ih, List.flatMap_cons]

theorem FloatsReadBack.item {items : List Json} (h : (arr items).FloatsReadBack) {v : Json} (hv : v ∈ items) :
    v.FloatsReadBack := by
  intro x hx
  apply h
  rw [floats, itemFloats_eq]
  exact List.mem_flatMap.2 ⟨v, hv, hx⟩

theorem FloatsReadBack.member {members : Keyed Json} (h : (obj members).FloatsReadBack) {m : String × Json}
    (hm : m ∈ members) : m.2.FloatsReadBack := by
  intro x hx
  apply h
  rw [floats, memberFloats_eq]
  exact List.mem_flatMap.2 ⟨m, hm, hx⟩

/-! ### Lists with commas -/

/-- A reader that takes exactly these characters for a value, whatever follows that cannot lengthen a numeral. -/
def Takes {α : Type} (read : List Char → Option (α × List Char)) (cs : List Char) (x : α) : Prop :=
  ∀ rest, EndsNumeral rest → read (cs ++ rest) = some (x, rest)

/-- A character that ends an item: it is no comma, cannot be skipped and cannot stand in a numeral. -/
structure Closes (close : Char) : Prop where
  comma : close ≠ ','
  gap : isGap close = false
  numeral : isNumeral close = false

theorem skipGap_cons {c : Char} (h : isGap c = false) (cs : List Char) : skipGap (c :: cs) = c :: cs :=
  List.dropWhile_cons_of_neg (by simpa using h)

section

variable {α : Type} {read : List Char → Option (α × List Char)} {write : α → List Char} {close : Char}

/-- There are at least as many characters as commas. -/
theorem length_le_intercalate (write : α → List Char) (xs : List α) :
    xs.length ≤ (List.intercalate [','] (xs.map write)).length + 1 := by
  induction xs with
  | nil => exact Nat.zero_le _
  | cons x rest ih =>
    cases rest with
    | nil => simp
    | cons y rest =>
      simp only [List.map_cons, List.intercalate_cons_cons, List.length_append, List.length_cons] at ih ⊢
      omega

theorem separated?_intercalate (hclose : Closes close) (rest : List Char) {first : α} {more : List α} {fuel : Nat}
    (hfuel : more.length < fuel) (htakes : ∀ x ∈ first :: more, Takes read (write x) x) :
    separated? read close fuel (List.intercalate [','] ((first :: more).map write) ++ close :: rest) =
      some (first :: more, rest) := by
  induction more generalizing first fuel with
  | nil =>
    obtain ⟨fuel, rfl⟩ := Nat.exists_eq_succ_of_ne_zero (Nat.ne_of_gt hfuel)
    have hfirst := htakes first List.mem_cons_self _ (endsNumeral_cons hclose.numeral rest)
    rw [List.map_cons, List.map_nil, List.intercalate_singleton, separated?, hfirst]
    simp [skipGap_cons hclose.gap, hclose.comma]
  | cons second more ih =>
    obtain ⟨fuel, rfl⟩ := Nat.exists_eq_succ_of_ne_zero (Nat.ne_of_gt (Nat.zero_lt_of_lt hfuel))
    have hmore := ih (Nat.lt_of_succ_lt_succ hfuel) fun x hx => htakes x (List.mem_cons_of_mem _ hx)
    have hcomma (cs : List Char) := htakes first List.mem_cons_self (',' :: cs) (endsNumeral_cons rfl cs)
    rw [List.map_cons, List.map_cons, List.intercalate_cons_cons, ← List.map_cons, List.append_assoc,
      List.append_assoc, List.singleton_append, separated?, hcomma]
    simp only [Option.bind_eq_bind, Option.bind_some, skipGap_cons (rfl : isGap ',' = false), hmore]
    rfl

theorem content?_intercalate (hclose : Closes close) (rest : List Char) {xs : List α}
    (hopen : ∀ x ∈ xs, ∃ c cs, write x = c :: cs ∧ isGap c = false ∧ c ≠ close)
    (htakes : ∀ x ∈ xs, Takes read (write x) x) :
    content? read close (List.intercalate [','] (xs.map write) ++ close :: rest) = some (xs, rest) := by
  cases xs with
  | nil => simp [content?, skipGap_cons hclose.gap]
  | cons first more =>
    obtain ⟨c, cs, hfirst, hgap, hne⟩ := hopen first List.mem_cons_self
    obtain ⟨tail, htail⟩ : ∃ tail,
        List.intercalate [','] ((first :: more).map write) ++ close :: rest = c :: tail := by
      cases more with
      | nil => exact ⟨cs ++ close :: rest, by simp [hfirst]⟩
      | cons second more => exact ⟨_, by rw [List.map_cons, List.map_cons, List.intercalate_cons_cons, hfirst]; rfl⟩
    have hfuel : more.length <
        (List.intercalate [','] ((first :: more).map write) ++ close :: rest).length := by
      have := length_le_intercalate write (first :: more)
      rw [List.length_append, List.length_cons] at *
      omega
    have hread := separated?_intercalate hclose rest hfuel htakes
    rw [htail] at hread ⊢
    rw [content?, skipGap_cons hgap]
    simpa [hne] using hread

end

/-! ### Values -/

theorem itemChars_eq (items : List Json) : itemChars items = List.intercalate [','] (items.map chars) := by
  induction items with
  | nil => rfl
  | cons v rest ih =>
    cases rest with
    | nil => simp [itemChars]
    | cons w rest =>
      rw [itemChars, ih]
      · simp
      · nofun

/-- The characters of a member: its name in quotes, a colon, its value. -/
def entryChars (m : String × Json) : List Char := quoted m.1 ++ ':' :: chars m.2

theorem memberChars_eq (members : Keyed Json) :
    memberChars members = List.intercalate [','] (members.map entryChars) := by
  induction members with
  | nil => rfl
  | cons m rest ih =>
    obtain ⟨key, v⟩ := m
    cases rest with
    | nil => simp [memberChars, entryChars]
    | cons w rest =>
      rw [memberChars, ih]
      · simp [entryChars]
      · nofun

/-- A character with which the text of a value begins. -/
def opens (c : Char) : Bool :=
  c == '[' || c == '{' || c == '"' || c == 'n' || c == 't' || c == 'f' || isNumeral c

theorem isGap_of_opens {c : Char} (h : opens c = true) : isGap c = false := by
  rw [Bool.eq_false_iff]
  intro hgap
  simp only [isGap, Bool.or_eq_true, beq_iff_eq] at hgap
  obtain ((rfl | rfl) | rfl) | rfl := hgap <;> cases h

theorem ne_of_opens {c d : Char} (hc : opens c = true) (hd : opens d = false) : c ≠ d := by
  rintro rfl
  exact Bool.noConfusion (hc.symm.trans hd)

theorem closes_bracket : Closes ']' := ⟨by decide, rfl, rfl⟩

theorem closes_brace : Closes '}' := ⟨by decide, rfl, rfl⟩

theorem Proper.readsBack {depth : Nat} {n : JsonNumber} (h : Proper depth (num n)) (hf : (num n).FloatsReadBack) :
    n.ReadsBack := by
  cases h with
  | whole h => exact JsonNumber.readsBack_whole h
  | float x => exact hf x (List.mem_singleton.2 rfl)

theorem chars_eq_cons {depth : Nat} {v : Json} (hv : Proper depth v) (hf : v.FloatsReadBack) :
    ∃ c cs, v.chars = c :: cs ∧ opens c = true := by
  cases v with
  | null => exact ⟨_, _, rfl, rfl⟩
  | bool b => cases b <;> exact ⟨_, _, rfl, rfl⟩
  | str s => exact ⟨_, _, rfl, rfl⟩
  | arr items => exact ⟨_, _, rfl, rfl⟩
  | obj members => exact ⟨_, _, rfl, rfl⟩
  | num n =>
    have hread := hv.readsBack hf
    obtain ⟨c, cs, hcs⟩ := List.exists_cons_of_ne_nil hread.ne_nil
    exact ⟨c, cs, hcs, by simp [opens, hread.isNumeral c (hcs ▸ List.mem_cons_self)]⟩

theorem scalar?_of_isNumeral {c : Char} (h : isNumeral c = true) (cs : List Char) :
    scalar? (c :: cs) = (number? (c :: cs)).map fun (n, rest) => (num n, rest) := by
  have hne {d : Char} (hd : isNumeral d = false) : c ≠ d := by
    rintro rfl
    exact Bool.noConfusion (h.symm.trans hd)
  unfold scalar?
  split
  next heq => exact absurd (List.cons.inj heq).1 (hne rfl)
  next heq => exact absurd (List.cons.inj heq).1 (hne rfl)
  next heq => exact absurd (List.cons.inj heq).1 (hne rfl)
  next heq => exact absurd (List.cons.inj heq).1 (hne rfl)
  next => rfl

/-- Without a bracket in front a value is no container. -/
theorem value?_eq_scalar? {c : Char} (hopen : opens c = true) (harr : c ≠ '[') (hobj : c ≠ '{') (depth : Nat)
    (cs : List Char) : value? depth (c :: cs) = scalar? (c :: cs) := by
  cases depth with
  | zero => rw [value?, skipGap_cons (isGap_of_opens hopen)]
  | succ depth =>
    rw [value?, skipGap_cons (isGap_of_opens hopen)]
    split <;> simp_all

theorem memberFrom?_entryChars {value : List Char → Option (Json × List Char)} {m : String × Json}
    (h : Takes value m.2.chars m.2) : Takes (memberFrom? value) (entryChars m) m := by
  intro rest hrest
  have hquoted : entryChars m ++ rest = '"' :: (m.1.toList.flatMap escape ++ '"' :: (':' :: (m.2.chars ++ rest))) := by
    simp [entryChars, quoted]
  have hcolon : skipGap (':' :: (m.2.chars ++ rest)) = ':' :: (m.2.chars ++ rest) := skipGap_cons rfl _
  have hkey := textRest?_quoted m.1 (':' :: (m.2.chars ++ rest))
  rw [hquoted, memberFrom?, skipGap_cons rfl]
  simp only [hkey, Option.bind_eq_bind, Option.bind_some, hcolon, h rest hrest]
  rfl

theorem takes_num {n : JsonNumber} (h : n.ReadsBack) (depth : Nat) : Takes (value? depth) (num n).chars (num n) := by
  intro rest hrest
  obtain ⟨c, cs, hcs⟩ := List.exists_cons_of_ne_nil h.ne_nil
  have hc : isNumeral c = true := h.isNumeral c (hcs ▸ List.mem_cons_self)
  have hread := number?_append h hrest
  rw [hcs, List.cons_append] at hread
  rw [chars, hcs, List.cons_append, value?_eq_scalar? (by simp [opens, hc]) (by rintro rfl; cases hc)
    (by rintro rfl; cases hc), scalar?_of_isNumeral hc, hread]
  rfl

/-- A proper value is read from its characters. -/
theorem value?_chars {depth : Nat} {v : Json} (hv : Proper depth v) (hf : v.FloatsReadBack) :
    Takes (value? depth) v.chars v := by
  induction hv with
  | null =>
    intro rest _
    exact value?_eq_scalar? rfl (by decide) (by decide) _ _
  | bool b =>
    intro rest _
    cases b
    · exact value?_eq_scalar? rfl (by decide) (by decide) _ _
    · exact value?_eq_scalar? rfl (by decide) (by decide) _ _
  | whole h => exact takes_num (JsonNumber.readsBack_whole h) _
  | float x => exact takes_num (hf x (List.mem_singleton.2 rfl)) _
  | str s =>
    intro rest _
    have hquoted : (str s).chars ++ rest = '"' :: (s.toList.flatMap escape ++ '"' :: rest) := by
      simp [chars, quoted]
    rw [hquoted, value?_eq_scalar? rfl (by decide) (by decide), scalar?, textRest?_quoted]
    rfl
  | @arr depth items h ih =>
    intro rest _
    have hopen : ∀ v ∈ items, ∃ c cs, v.chars = c :: cs ∧ isGap c = false ∧ c ≠ ']' := by
      intro v hv
      obtain ⟨c, cs, hcs, hc⟩ := chars_eq_cons (h v hv) (hf.item hv)
      exact ⟨c, cs, hcs, isGap_of_opens hc, ne_of_opens hc rfl⟩
    have hread := content?_intercalate closes_bracket rest hopen fun v hv => ih v hv (hf.item hv)
    have hchars : (arr items).chars ++ rest = '[' :: (itemChars items ++ ']' :: rest) := by simp [chars]
    rw [hchars, itemChars_eq, value?, skipGap_cons rfl]
    simp only [hread]
    rfl
  | @obj depth members names h ih =>
    intro rest _
    have hopen : ∀ m ∈ members, ∃ c cs, entryChars m = c :: cs ∧ isGap c = false ∧ c ≠ '}' :=
      fun m _ => ⟨_, _, rfl, rfl, by decide⟩
    have hread := content?_intercalate closes_brace rest hopen fun m hm =>
      memberFrom?_entryChars (ih m hm (hf.member hm))
    have hchars : (obj members).chars ++ rest = '{' :: (memberChars members ++ '}' :: rest) := by simp [chars]
    rw [hchars, memberChars_eq, value?, skipGap_cons rfl]
    simp only [hread]
    rfl

/-- A proper value nested at most as deep as a text may be is read from its text. -/
theorem parse_text {v : Json} (hv : Proper maxDepth v) (hf : v.FloatsReadBack) : parse v.text = some v := by
  have hread := value?_chars hv hf [] endsNumeral_nil
  rw [List.append_nil] at hread
  rw [parse, read?, text, String.toList_ofList, hread]
  exact congrArg some hv.merged_eq

end Json

end BackOffice
