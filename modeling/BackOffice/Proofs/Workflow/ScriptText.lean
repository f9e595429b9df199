import BackOffice.Proofs.Run.Binding

/-!
The forms of script text, and which of them are recognised: all but the arrow functions of one parameter whose name
begins with a word that is looked for first. Such a name is taken for the word with something behind it. What is
recognised never gets into a request, and what is not is sent as the text that it is.
-/

namespace BackOffice

/-- What stands between the parameters of a function and its body. -/
def arrow : List Char := ['=', '>']

/-- A name of letters, digits, underscores and dollar signs of ASCII that does not start with a digit. -/
structure IsIdentifier (name : List Char) : Prop where
  ne_nil : name ≠ []
  all_identifierChar : ∀ c ∈ name, isIdentifierChar c = true
  no_digit_in_front : ∀ c ∈ name.head?, c.isDigit = false

/-- The parameters of an arrow function. -/
inductive ArrowParameters : List Char → Prop
  | list {inner : List Char} (h : ¬arrow <:+: inner) : ArrowParameters ('(' :: (inner ++ [')']))
  | single {name : List Char} (h : IsIdentifier name) : ArrowParameters name

/-- The forms of script text. -/
inductive ScriptForm : List Char → Prop
  | function {c : Char} {rest : List Char} (h : isBlank c = true ∨ c = '(') :
      ScriptForm ("function".toList ++ c :: rest)
  | arrow {params gap body : List Char} (hparams : ArrowParameters params) (hgap : ∀ c ∈ gap, isBlank c = true) :
      ScriptForm (params ++ gap ++ arrow ++ body)
  | asyncArrow {between params gap body : List Char} (hsome : between ≠ []) (hbetween : ∀ c ∈ between, isBlank c = true)
      (hparams : ArrowParameters params) (hgap : ∀ c ∈ gap, isBlank c = true) :
      ScriptForm ("async".toList ++ between ++ params ++ gap ++ arrow ++ body)

/-- The arrow functions of one parameter that are taken for something else: the name goes on behind `function` or stands
right in front of the arrow, or there is no identifier behind `async`. -/
inductive IsMisread : List Char → Prop
  | function {more gap body : List Char} (hmore : ∀ c ∈ more, isIdentifierChar c = true)
      (hgap : ∀ c ∈ gap, isBlank c = true) (h : more = [] → gap = []) :
      IsMisread ("function".toList ++ more ++ gap ++ arrow ++ body)
  | async {more gap body : List Char} (hmore : ∀ c ∈ more, isIdentifierChar c = true)
      (hgap : ∀ c ∈ gap, isBlank c = true) (h : ∀ c ∈ more.head?, c.isDigit = true) :
      IsMisread ("async".toList ++ more ++ gap ++ arrow ++ body)

variable {c : Char} {text : String} {cs front back gap between body word rest name params : List Char}

/-! ### Characters -/

theorem toNat_of_isUpper (h : c.isUpper = true) : 65 ≤ c.toNat ∧ c.toNat ≤ 90 := of_decide_eq_true h

theorem toNat_of_isLower (h : c.isLower = true) : 97 ≤ c.toNat ∧ c.toNat ≤ 122 := by
  obtain ⟨hfrom, hto⟩ := Bool.and_eq_true_iff.1 h
  exact ⟨of_decide_eq_true hfrom, of_decide_eq_true hto⟩

theorem isBlank_of_isIdentifierChar (h : isIdentifierChar c = true) : isBlank c = false := by
  have hranges : (65 ≤ c.toNat ∧ c.toNat ≤ 90 ∨ 97 ≤ c.toNat ∧ c.toNat ≤ 122) ∨ (48 ≤ c.toNat ∧ c.toNat ≤ 57) ∨
      c.toNat = 95 ∨ c.toNat = 36 := by
    simp only [isIdentifierChar, Bool.or_eq_true, beq_iff_eq] at h
    obtain (h | rfl) | rfl := h
    · obtain h | h := Bool.or_eq_true_iff.1 h
      · exact .inl ((Bool.or_eq_true_iff.1 h).imp toNat_of_isUpper toNat_of_isLower)
      · exact .inr (.inl (Char.isDigit_iff_toNat.1 h))
    · exact .inr (.inr (.inl rfl))
    · exact .inr (.inr (.inr rfl))
  simp only [isBlank, inRanges, List.any_cons, List.any_nil, Bool.or_false, Bool.or_eq_false_iff,
    Bool.and_eq_false_iff, decide_eq_false_iff_not]
  omega

theorem ne_of_isIdentifierChar {d : Char} (h : isIdentifierChar c = true) (hd : isIdentifierChar d = false) :
    c ≠ d := by
  rintro rfl
  rw [h] at hd
  cases hd

theorem ne_of_isBlank {d : Char} (h : isBlank c = true) (hd : isBlank d = false) : c ≠ d := by
  rintro rfl
  rw [h] at hd
  cases hd

/-! ### Words in front -/

theorem all_function : ∀ c ∈ "function".toList, isIdentifierChar c = true := List.all_eq_true.1 rfl

theorem all_async : ∀ c ∈ "async".toList, isIdentifierChar c = true := List.all_eq_true.1 rfl

theorem stripFront?_append (word rest : List Char) : stripFront? word (word ++ rest) = some rest := by
  rw [stripFront?, if_pos (List.isPrefixOf_iff_prefix.2 (List.prefix_append word rest)), List.drop_left]

theorem stripFront?_of_not_in_front (h : ¬word <+: cs) : stripFront? word cs = none :=
  if_neg fun hpre => h (List.isPrefixOf_iff_prefix.1 hpre)

/-- A word in front of a name with something else behind it is in front of the name. -/
theorem prefix_of_prefix_append (hword : ∀ c ∈ word, isIdentifierChar c = true)
    (hrest : ∀ c ∈ rest.head?, isIdentifierChar c = false) (h : word <+: name ++ rest) : word <+: name := by
  obtain hpre | ⟨more, rfl⟩ := List.prefix_or_prefix_of_prefix h (List.prefix_append name rest)
  · exact hpre
  · cases more with
    | nil => simp
    | cons c more =>
      -- The word would go on with a character that no name has.
      obtain ⟨behind, hbehind⟩ := (List.prefix_append_right_inj name).1 h
      have hc : isIdentifierChar c = false := hrest c (by simp [← hbehind])
      rw [hword c (by simp)] at hc
      cases hc

/-! ### White space around -/

theorem trimFront_append (h : ∀ c ∈ between, isBlank c = true) (cs : List Char) :
    trimFront (between ++ cs) = trimFront cs := List.dropWhile_append_of_pos h

theorem trimBack_append (h : ∀ c ∈ gap, isBlank c = true) (cs : List Char) : trimBack (cs ++ gap) = trimBack cs := by
  rw [trimBack, List.reverse_append, List.dropWhile_append_of_pos fun c hc => h c (List.mem_reverse.1 hc), trimBack]

/-- Whether characters neither start nor end with white space. -/
structure IsTight (cs : List Char) : Prop where
  front : ∀ c ∈ cs.head?, isBlank c = false
  back : ∀ c ∈ cs.getLast?, isBlank c = false

theorem IsTight.trimBack_eq (h : IsTight cs) : trimBack cs = cs := by
  obtain rfl | ⟨front, c, rfl⟩ := cs.eq_nil_or_concat
  · rfl
  · have hc : isBlank c = false := h.back c (by simp)
    rw [trimBack, List.concat_eq_append, List.reverse_concat, List.dropWhile_cons_of_neg (by simp [hc]),
      List.reverse_cons, List.reverse_reverse]

/-- White space around characters is trimmed, and nothing else. -/
theorem IsTight.trim_eq (h : IsTight cs) (between gap : List Char) (hbetween : ∀ c ∈ between, isBlank c = true)
    (hgap : ∀ c ∈ gap, isBlank c = true) : trimBack (trimFront (between ++ cs ++ gap)) = cs := by
  rw [List.append_assoc, trimFront_append hbetween]
  cases cs with
  | nil =>
    have hnil : trimFront gap = [] := List.dropWhile_eq_nil_iff.2 hgap
    rw [List.nil_append, hnil]
    rfl
  | cons c rest =>
    have hc : isBlank c = false := h.front c rfl
    rw [trimFront, List.cons_append, List.dropWhile_cons_of_neg (by simp [hc]), ← List.cons_append,
      trimBack_append hgap, h.trimBack_eq]

theorem IsTight.append (hfront : IsTight front) (hback : IsTight back) (hne : front ≠ []) (hne' : back ≠ []) :
    IsTight (front ++ between ++ back) where
  front := by
    obtain ⟨c, rest, rfl⟩ := List.exists_cons_of_ne_nil hne
    exact hfront.front
  back := by
    rw [List.getLast?_append, List.getLast?_eq_some_getLast hne', Option.some_or, ← List.getLast?_eq_some_getLast hne']
    exact hback.back

theorem isTight_of_identifierChars (h : ∀ c ∈ name, isIdentifierChar c = true) : IsTight name where
  front c hc := isBlank_of_isIdentifierChar (h c (List.mem_of_mem_head? hc))
  back c hc := isBlank_of_isIdentifierChar (h c (List.mem_of_mem_getLast? hc))

/-! ### The first arrow -/

theorem not_arrow_infix_of_forall_ne (h : ∀ c ∈ cs, c ≠ '>') : ¬arrow <:+: cs :=
  fun hin => h '>' (hin.subset (by simp [arrow])) rfl

theorem not_arrow_infix_append (hfront : ¬arrow <:+: front) (hback : ∀ c ∈ back, c ≠ '>') :
    ¬arrow <:+: front ++ back := by
  induction front with
  | nil => exact not_arrow_infix_of_forall_ne hback
  | cons c rest ih =>
    rw [List.infix_cons_iff, not_or] at hfront
    rw [List.cons_append, List.infix_cons_iff]
    rintro (hpre | hin)
    · rw [arrow, List.cons_prefix_cons] at hpre
      cases rest with
      | nil => exact hback '>' (hpre.2.subset (by simp)) rfl
      | cons d rest => exact hfront.1 (by simpa [arrow] using hpre)
    · exact ih hfront.2 hin

theorem not_arrow_infix_prepend (hfront : ∀ c ∈ front, c ≠ '=') (hback : ¬arrow <:+: back) :
    ¬arrow <:+: front ++ back := by
  induction front with
  | nil => exact hback
  | cons c rest ih =>
    rw [List.forall_mem_cons] at hfront
    rw [List.cons_append, List.infix_cons_iff]
    rintro (hpre | hin)
    · rw [arrow, List.cons_prefix_cons] at hpre
      exact hfront.1 hpre.1.symm
    · exact ih hfront.2 hin

theorem beforeArrow?_append (h : ¬arrow <:+: front) (body : List Char) :
    beforeArrow? (front ++ arrow ++ body) = some front := by
  induction front with
  | nil => rfl
  | cons c rest ih =>
    rw [List.infix_cons_iff, not_or] at h
    rw [List.cons_append, List.cons_append, beforeArrow?, ih h.2, Option.map_some]
    -- The arrow cannot begin with this character, also not when it is the last one in front.
    rintro behind rfl hbehind
    cases rest with
    | nil => simp [arrow] at hbehind
    | cons d rest =>
      obtain ⟨rfl, -⟩ := List.cons.inj hbehind
      exact h.1 (by simp [arrow])

/-! ### Parameters -/

/-- Characters of a name are parameters if there are any and the first one is no digit. -/
theorem isParameters_of_identifierChars (h : ∀ c ∈ name, isIdentifierChar c = true) :
    isParameters name = (!name.isEmpty && !name.head?.any Char.isDigit) := by
  have hlist : (name.head? == some '(') = false := by
    cases name with
    | nil => rfl
    | cons c rest => simpa using ne_of_isIdentifierChar (h c List.mem_cons_self) (d := '(') rfl
  rw [isParameters, hlist, List.all_eq_true.2 h, Bool.false_and, Bool.false_or, Bool.and_true]

theorem IsIdentifier.isParameters (h : IsIdentifier name) : isParameters name = true := by
  have hdigit : name.head?.any Char.isDigit = false := by
    rw [Option.any_eq_false]
    exact fun c hc => by simp [h.no_digit_in_front c hc]
  rw [isParameters_of_identifierChars h.all_identifierChar, hdigit]
  simpa using h.ne_nil

namespace ArrowParameters

theorem ne_nil (h : ArrowParameters params) : params ≠ [] := by
  cases h with
  | list => exact List.cons_ne_nil _ _
  | single h => exact h.ne_nil

theorem getLast?_list (inner : List Char) : ('(' :: (inner ++ [')'])).getLast? = some ')' :=
  List.getLast?_concat (l := '(' :: inner)

theorem isTight (h : ArrowParameters params) : IsTight params := by
  cases h with
  | @list inner =>
    refine ⟨fun c hc => ?_, fun c hc => ?_⟩
    · obtain rfl : '(' = c := by simpa using hc
      rfl
    · rw [getLast?_list] at hc
      obtain rfl := Option.some.inj hc
      rfl
  | single h => exact isTight_of_identifierChars h.all_identifierChar

theorem no_arrow (h : ArrowParameters params) (hgap : ∀ c ∈ gap, isBlank c = true) :
    ¬arrow <:+: params ++ gap := by
  have hgap' : ∀ c ∈ gap, c ≠ '>' := fun c hc => ne_of_isBlank (hgap c hc) rfl
  cases h with
  | @list inner h =>
    have hfront : ¬arrow <:+: ['('] ++ inner := not_arrow_infix_prepend (by simp) h
    have hback : ∀ c ∈ ')' :: gap, c ≠ '>' := by
      rw [List.forall_mem_cons]
      exact ⟨by simp, hgap'⟩
    simpa using not_arrow_infix_append hfront hback
  | single h =>
    refine not_arrow_infix_prepend (fun c hc => ne_of_isIdentifierChar (h.all_identifierChar c hc) rfl) ?_
    exact not_arrow_infix_of_forall_ne hgap'

theorem isParameters (h : ArrowParameters params) : isParameters params = true := by
  cases h with
  | @list inner => simp [BackOffice.isParameters, getLast?_list]
  | single h => exact h.isParameters

end ArrowParameters

/-! ### Texts -/

theorem looksLikeScript_of_function (h : (trim text).toList = "function".toList ++ rest) :
    looksLikeScript text = rest.head?.any fun c => isBlank c || c == '(' := by
  have hcs : trimBack (trimFront text.toList) = "function".toList ++ rest := by rw [← h, trim, String.toList_ofList]
  simp only [looksLikeScript, hcs, stripFront?_append]

/-- What stands in front of the first arrow is looked at without the white space around. -/
theorem looksLikeScript_of_arrow (h : (trim text).toList = front ++ arrow ++ body)
    (hfunction : ¬"function".toList <+: front ++ arrow ++ body) (harrow : ¬arrow <:+: front)
    (hasync : ¬"async".toList <+: trimBack (trimFront front)) :
    looksLikeScript text = isParameters (trimBack (trimFront front)) := by
  have hcs : trimBack (trimFront text.toList) = front ++ arrow ++ body := by rw [← h, trim, String.toList_ofList]
  simp only [looksLikeScript, hcs, stripFront?_of_not_in_front hfunction, beforeArrow?_append harrow,
    stripFront?_of_not_in_front hasync]

/-- If it begins with `async`, what is behind the word is looked at instead. -/
theorem looksLikeScript_of_arrow_behind_async (h : (trim text).toList = front ++ arrow ++ body)
    (hfunction : ¬"function".toList <+: front ++ arrow ++ body) (harrow : ¬arrow <:+: front)
    (hasync : trimBack (trimFront front) = "async".toList ++ rest) :
    looksLikeScript text = isParameters (trimBack (trimFront rest)) := by
  have hcs : trimBack (trimFront text.toList) = front ++ arrow ++ body := by rw [← h, trim, String.toList_ofList]
  simp only [looksLikeScript, hcs, stripFront?_of_not_in_front hfunction, beforeArrow?_append harrow, hasync,
    stripFront?_append]

/-- A word that is not in front of a name is not in front of an arrow function with this name either. -/
theorem not_in_front_of_name (hgap : ∀ c ∈ gap, isBlank c = true) (hword : ∀ c ∈ word, isIdentifierChar c = true)
    (h : ¬word <+: name) : ¬word <+: name ++ gap ++ arrow ++ body := by
  rw [List.append_assoc, List.append_assoc]
  refine fun hpre => h (prefix_of_prefix_append hword (fun c hc => ?_) hpre)
  cases gap with
  | nil =>
    obtain rfl : '=' = c := by simpa [arrow] using hc
    rfl
  | cons d gap =>
    obtain rfl : d = c := by simpa using hc
    have hblank : isBlank d = true := hgap d List.mem_cons_self
    rw [Bool.eq_false_iff]
    intro hident
    rw [isBlank_of_isIdentifierChar hident] at hblank
    cases hblank

theorem IsIdentifier.trim_eq (hname : IsIdentifier name) (hgap : ∀ c ∈ gap, isBlank c = true) :
    trimBack (trimFront (name ++ gap)) = name :=
  (isTight_of_identifierChars hname.all_identifierChar).trim_eq [] gap (by simp) hgap

theorem looksLikeScript_of_name (h : (trim text).toList = name ++ gap ++ arrow ++ body) (hname : IsIdentifier name)
    (hgap : ∀ c ∈ gap, isBlank c = true) (hfunction : ¬"function".toList <+: name) (hasync : ¬"async".toList <+: name) :
    looksLikeScript text = true := by
  have htrim := hname.trim_eq hgap
  rw [looksLikeScript_of_arrow h (not_in_front_of_name hgap all_function hfunction)
    ((ArrowParameters.single hname).no_arrow hgap) (by rwa [htrim]), htrim]
  exact hname.isParameters

/-- Of a name that begins with `async` only what is behind the word is looked at. -/
theorem looksLikeScript_of_name_behind_async (h : (trim text).toList = "async".toList ++ name ++ gap ++ arrow ++ body)
    (hname : ∀ c ∈ name, isIdentifierChar c = true) (hgap : ∀ c ∈ gap, isBlank c = true) :
    looksLikeScript text = isParameters name := by
  have hwhole : IsIdentifier ("async".toList ++ name) := {
    ne_nil := by simp
    all_identifierChar := List.forall_mem_append.2 ⟨all_async, hname⟩
    no_digit_in_front := by simp }
  have htrim : trimBack (trimFront name) = name := by
    simpa using (isTight_of_identifierChars hname).trim_eq [] [] (by simp) (by simp)
  rw [looksLikeScript_of_arrow_behind_async h (not_in_front_of_name hgap all_function (by simp))
    ((ArrowParameters.single hwhole).no_arrow hgap) (hwhole.trim_eq hgap), htrim]

theorem looksLikeScript_of_isMisread (h : IsMisread (trim text).toList) : looksLikeScript text = false := by
  generalize hcs : (trim text).toList = cs at h
  cases h with
  | @function more gap body hmore hgap hdirect =>
    rw [List.append_assoc, List.append_assoc, List.append_assoc] at hcs
    rw [looksLikeScript_of_function hcs]
    cases more with
    | nil =>
      rw [hdirect rfl]
      rfl
    | cons c more =>
      have hc : isIdentifierChar c = true := hmore c List.mem_cons_self
      simpa [isBlank_of_isIdentifierChar hc] using ne_of_isIdentifierChar hc (d := '(') rfl
  | @async more gap body hmore hgap hdigit =>
    rw [looksLikeScript_of_name_behind_async hcs hmore hgap, isParameters_of_identifierChars hmore]
    cases more with
    | nil => rfl
    | cons c more => simp [hdigit c rfl]

theorem looksLikeScript_of_single (h : (trim text).toList = name ++ gap ++ arrow ++ body) (hname : IsIdentifier name)
    (hgap : ∀ c ∈ gap, isBlank c = true) (hread : ¬IsMisread (trim text).toList) : looksLikeScript text = true := by
  rw [h] at hread
  by_cases hfunction : "function".toList <+: name
  · obtain ⟨more, rfl⟩ := hfunction
    have hmore : ∀ c ∈ more, isIdentifierChar c = true := (List.forall_mem_append.1 hname.all_identifierChar).2
    -- The name is the word itself, with white space behind it.
    have hword : more = [] ∧ gap ≠ [] := by
      by_contra hnot
      exact hread (.function hmore hgap fun hnil => by_contra fun hne => hnot ⟨hnil, hne⟩)
    obtain ⟨rfl, hne⟩ := hword
    obtain ⟨c, gap, rfl⟩ := List.exists_cons_of_ne_nil hne
    rw [List.append_nil, List.append_assoc, List.append_assoc] at h
    rw [looksLikeScript_of_function h]
    simp [hgap c List.mem_cons_self]
  · by_cases hasync : "async".toList <+: name
    · obtain ⟨more, rfl⟩ := hasync
      have hmore : ∀ c ∈ more, isIdentifierChar c = true := (List.forall_mem_append.1 hname.all_identifierChar).2
      have hdigit : ¬∀ c ∈ more.head?, c.isDigit = true := fun hdigit => hread (.async hmore hgap hdigit)
      rw [looksLikeScript_of_name_behind_async h hmore hgap, isParameters_of_identifierChars hmore]
      cases more with
      | nil => exact absurd (by simp) hdigit
      | cons c more => simpa using hdigit
    · exact looksLikeScript_of_name h hname hgap hfunction hasync

theorem looksLikeScript_of_list (h : (trim text).toList = '(' :: (front ++ [')']) ++ gap ++ arrow ++ body)
    (hfront : ¬arrow <:+: front) (hgap : ∀ c ∈ gap, isBlank c = true) : looksLikeScript text = true := by
  have hparams : ArrowParameters ('(' :: (front ++ [')'])) := .list hfront
  have htrim : trimBack (trimFront ('(' :: (front ++ [')']) ++ gap)) = '(' :: (front ++ [')']) :=
    hparams.isTight.trim_eq [] gap (by simp) hgap
  rw [looksLikeScript_of_arrow h (by simp) (hparams.no_arrow hgap) (by rw [htrim]; simp), htrim]
  exact hparams.isParameters

/-- Behind `async` and white space all parameters are recognised. -/
theorem looksLikeScript_of_async (h : (trim text).toList = "async".toList ++ between ++ params ++ gap ++ arrow ++ body)
    (hbetween : ∀ c ∈ between, isBlank c = true) (hparams : ArrowParameters params)
    (hgap : ∀ c ∈ gap, isBlank c = true) : looksLikeScript text = true := by
  have htight : IsTight ("async".toList ++ between ++ params) :=
    (isTight_of_identifierChars all_async).append hparams.isTight (by simp) hparams.ne_nil
  have htrim : trimBack (trimFront ("async".toList ++ between ++ params ++ gap)) =
      "async".toList ++ (between ++ params) := by
    rw [← List.append_assoc]
    exact htight.trim_eq [] gap (by simp) hgap
  have htrim' : trimBack (trimFront (between ++ params)) = params := by
    simpa using hparams.isTight.trim_eq between [] hbetween (by simp)
  have hfront : ∀ c ∈ "async".toList ++ between, c ≠ '=' :=
    List.forall_mem_append.2
      ⟨fun c hc => ne_of_isIdentifierChar (all_async c hc) rfl, fun c hc => ne_of_isBlank (hbetween c hc) rfl⟩
  have harrow : ¬arrow <:+: "async".toList ++ between ++ params ++ gap := by
    rw [List.append_assoc]
    exact not_arrow_infix_prepend hfront (hparams.no_arrow hgap)
  rw [looksLikeScript_of_arrow_behind_async h (by simp) harrow htrim, htrim']
  exact hparams.isParameters

theorem looksLikeScript_iff (h : ScriptForm (trim text).toList) :
    looksLikeScript text = true ↔ ¬IsMisread (trim text).toList := by
  refine ⟨fun hscript hmisread => ?_, fun hread => ?_⟩
  · rw [looksLikeScript_of_isMisread hmisread] at hscript
    cases hscript
  · generalize hcs : (trim text).toList = cs at h
    cases h with
    | function hbehind =>
      rw [looksLikeScript_of_function hcs]
      simpa using hbehind
    | arrow hparams hgap =>
      cases hparams with
      | list hinner => exact looksLikeScript_of_list hcs hinner hgap
      | single hname => exact looksLikeScript_of_single hcs hname hgap hread
    | asyncArrow _ hbetween hparams hgap => exact looksLikeScript_of_async hcs hbetween hparams hgap

theorem InputExpr.ofJson_str_eq_script_iff : ofJson (.str text) = .script text ↔ looksLikeScript text = true := by
  rw [ofJson]
  split
  next h => simp [h]
  next h => simp [h]

namespace Step

/-- A step that holds a text is only sent if the text is not recognised, and then the request holds the text. -/
theorem sends_text {s : Step} {field : String} {c : Context} {around : Surroundings} {r : Request}
    (hmem : (field, Json.str text) ∈ s.input) (h : (s.bind c around).1 = .ok r) :
    looksLikeScript text = false ∧ (field, Json.str text) ∈ r.input := by
  have hinputs : (field, InputExpr.ofJson (.str text)) ∈ s.inputs := List.mem_map.2 ⟨_, hmem, rfl⟩
  have hplain : looksLikeScript text = false := by
    have hresolves := exists_bind_iff.1 ⟨r, h⟩ _ hinputs
    rwa [InputExpr.resolves_ofJson_str, Bool.not_eq_true'] at hresolves
  obtain ⟨input, hfilled, rfl⟩ := filled_of_bind h
  obtain ⟨i, hi⟩ := List.getElem?_of_mem hinputs
  obtain ⟨v, hv, hinput⟩ := hfilled.getElem? hi
  have hread : InputExpr.ofJson (.str text) = .literal (.str text) := by simp [InputExpr.ofJson, hplain]
  rw [hread] at hv
  obtain rfl := Except.ok.inj hv
  exact ⟨hplain, List.mem_of_getElem? hinput⟩

/-- All script text is recognised but for what is misread. What is recognised is read as script text, and no step that
holds it is sent; what is misread is sent as the text that it is. -/
theorem script_text_is_recognised (text : String) (h : ScriptForm (trim text).toList) :
    (looksLikeScript text = true ↔ ¬IsMisread (trim text).toList) ∧
      (InputExpr.ofJson (.str text) = .script text ↔ ¬IsMisread (trim text).toList) ∧
      ∀ (s : Step) (field : String) (c : Context) (around : Surroundings) (r : Request),
        (field, Json.str text) ∈ s.input → (s.bind c around).1 = .ok r →
          IsMisread (trim text).toList ∧ (field, Json.str text) ∈ r.input := by
  have hiff := looksLikeScript_iff h
  refine ⟨hiff, InputExpr.ofJson_str_eq_script_iff.trans hiff, fun s field c around r hmem hsent => ?_⟩
  obtain ⟨hplain, hinput⟩ := sends_text hmem hsent
  refine ⟨by_contra fun hread => ?_, hinput⟩
  rw [hiff.2 hread] at hplain
  cases hplain

/-- A name that begins with `async` is recognised when an identifier is behind the word, and is never sent. -/
theorem name_behind_async_is_recognised :
    ScriptForm (trim " asyncTask => asyncTask.id").toList ∧
      InputExpr.ofJson (.str " asyncTask => asyncTask.id") = .script " asyncTask => asyncTask.id" ∧
      ∀ (s : Step) (field : String) (c : Context) (around : Surroundings) (r : Request),
        (field, Json.str " asyncTask => asyncTask.id") ∈ s.input → (s.bind c around).1 ≠ .ok r := by
  have htext : (trim " asyncTask => asyncTask.id").toList =
      "asyncTask".toList ++ " ".toList ++ arrow ++ " asyncTask.id".toList := rfl
  have hname : IsIdentifier "asyncTask".toList := ⟨by simp, List.all_eq_true.1 rfl, by simp⟩
  have hform : ScriptForm (trim " asyncTask => asyncTask.id").toList := by
    rw [htext]
    exact .arrow (.single hname) (List.all_eq_true.1 rfl)
  obtain ⟨hiff, hscript, hsent⟩ := script_text_is_recognised _ hform
  have hread := hiff.1 (by decide)
  exact ⟨hform, hscript.2 hread, fun s field c around r hmem h => hread (hsent s field c around r hmem h).1⟩

/-- A name that goes on behind `function` is taken for the word, and the text is a value to send. -/
theorem function_is_taken_for_the_word :
    ScriptForm (trim "functional => functional.id").toList ∧ looksLikeScript "functional => functional.id" = false ∧
      InputExpr.ofJson (.str "functional => functional.id") = .literal (.str "functional => functional.id") := by
  have htext : (trim "functional => functional.id").toList =
      "functional".toList ++ " ".toList ++ arrow ++ " functional.id".toList := rfl
  have hname : IsIdentifier "functional".toList := ⟨by simp, List.all_eq_true.1 rfl, by simp⟩
  refine ⟨?_, by decide, rfl⟩
  rw [htext]
  exact .arrow (.single hname) (List.all_eq_true.1 rfl)

end Step

end BackOffice
