import BackOffice.Proofs.Field.StoredAgain

/-!
Choices among options. What is chosen may be several values, in arrays of any depth; each of them that is not null is
stored as the value of the first option that it matches, and the first that matches none is what the input is refused
for. So nothing but null and the values of options is ever stored.
-/

namespace BackOffice

namespace Json

mutual

/-- The values in a value that are no arrays, through arrays of any depth and in order. -/
def leaves : Json → List Json
  | arr items => leavesOf items
  | v => [v]

def leavesOf : List Json → List Json
  | [] => []
  | v :: rest => leaves v ++ leavesOf rest

end

mutual

/-- The value with another in the place of each of its leaves. -/
def mapLeaves (g : Json → Json) : Json → Json
  | arr items => arr (mapLeavesOf g items)
  | v => g v

def mapLeavesOf (g : Json → Json) : List Json → List Json
  | [] => []
  | v :: rest => mapLeaves g v :: mapLeavesOf g rest

end

variable {v : Json} {g h : Json → Json}

theorem leavesOf_eq (items : List Json) : leavesOf items = items.flatMap leaves := by
  induction items with
  | nil => rfl
  | cons v rest ih => rw [leavesOf, ih, List.flatMap_cons]

theorem mapLeavesOf_eq (g : Json → Json) (items : List Json) : mapLeavesOf g items = items.map (mapLeaves g) := by
  induction items with
  | nil => rfl
  | cons v rest ih => rw [mapLeavesOf, ih, List.map_cons]

theorem leaves_arr (items : List Json) : (arr items).leaves = items.flatMap leaves := by
  rw [leaves, leavesOf_eq]

theorem mapLeaves_arr (g : Json → Json) (items : List Json) : (arr items).mapLeaves g = arr (items.map (mapLeaves g)) := by
  rw [mapLeaves, mapLeavesOf_eq]

theorem leaves_of_isSingle (hsingle : v.isSingle = true) : v.leaves = [v] := by
  cases v <;> first | rfl | cases hsingle

theorem mapLeaves_of_isSingle (g : Json → Json) (hsingle : v.isSingle = true) : v.mapLeaves g = g v := by
  cases v <;> first | rfl | cases hsingle

theorem mapLeaves_congr (hsame : ∀ leaf ∈ v.leaves, g leaf = h leaf) : v.mapLeaves g = v.mapLeaves h := by
  induction v using itemsInduction with
  | null => exact hsame _ List.mem_cons_self
  | arr items ih =>
    rw [mapLeaves_arr, mapLeaves_arr, List.map_congr_left]
    intro v hv
    refine ih v hv fun leaf hleaf => hsame leaf ?_
    rw [leaves_arr]
    exact List.mem_flatMap.2 ⟨v, hv, hleaf⟩
  | single v hsingle =>
    rw [leaves_of_isSingle hsingle] at hsame
    rw [mapLeaves_of_isSingle g hsingle, mapLeaves_of_isSingle h hsingle]
    exact hsame v List.mem_cons_self

end Json

/-- Whether a value stands for an option: it is the option's value, or has the same text. -/
def FieldOption.Matches (o : FieldOption) (v : Json) : Prop := o.value.same v = true ∨ o.value.plainText = v.plainText

theorem FieldOption.matches_iff {o : FieldOption} {v : Json} :
    (o.value.same v || o.value.plainText == v.plainText) = true ↔ o.Matches v := by
  simp [Matches]

namespace FieldView

variable {f : FieldView} {v w : Json} {o : FieldOption} {e : FieldFault}

/-- Whether an option is the first that a value matches. -/
def FirstMatch (f : FieldView) (v : Json) (o : FieldOption) : Prop :=
  ∃ before after, f.options = before ++ o :: after ∧ o.Matches v ∧ ∀ a ∈ before, ¬ a.Matches v

/-- Whether a value is something and matches no option. -/
def Unmatched (f : FieldView) (v : Json) : Prop := v ≠ .null ∧ ∀ o ∈ f.options, ¬ o.Matches v

/-- Whether a value is the first of the leaves of an input that matches no option. -/
def FirstUnmatched (f : FieldView) (v leaf : Json) : Prop :=
  ∃ before after, v.leaves = before ++ leaf :: after ∧ f.Unmatched leaf ∧ ∀ a ∈ before, ¬ f.Unmatched a

/-- Whether a function keeps null, and takes every other leaf of an input to the value of the first option that the
leaf matches. -/
structure Chooses (f : FieldView) (v : Json) (g : Json → Json) : Prop where
  null : g .null = .null
  option {leaf : Json} (hleaf : leaf ∈ v.leaves) (hsome : leaf ≠ .null) : ∃ o, f.FirstMatch leaf o ∧ g leaf = o.value

/-- A value that is made, through arrays, of null and the values of options. -/
inductive MadeOfOptions (f : FieldView) : Json → Prop
  | null : MadeOfOptions f .null
  | option {o : FieldOption} (ho : o ∈ f.options) : MadeOfOptions f o.value
  | items {items : List Json} (h : ∀ v ∈ items, MadeOfOptions f v) : MadeOfOptions f (.arr items)

/-- What is stored of a leaf. -/
def choice (f : FieldView) (leaf : Json) : Json :=
  if leaf.isNull then .null else ((f.option? leaf).map FieldOption.value).getD .null

/-- Whether a leaf cannot be stored. -/
def isUnmatched (f : FieldView) (leaf : Json) : Bool := !leaf.isNull && (f.option? leaf).isNone

theorem option?_eq_some_iff : f.option? v = some o ↔ f.FirstMatch v o := by
  rw [option?, List.find?_eq_some_iff_append, FieldOption.matches_iff]
  simp only [Bool.not_eq_true', ← Bool.not_eq_true, FieldOption.matches_iff]
  constructor
  · rintro ⟨hmatch, before, after, hoptions, hbefore⟩
    exact ⟨before, after, hoptions, hmatch, hbefore⟩
  · rintro ⟨before, after, hoptions, hmatch, hbefore⟩
    exact ⟨hmatch, before, after, hoptions, hbefore⟩

theorem option?_eq_none_iff : f.option? v = none ↔ ∀ o ∈ f.options, ¬ o.Matches v := by
  rw [option?, List.find?_eq_none]
  simp only [FieldOption.matches_iff]

theorem isUnmatched_iff : f.isUnmatched v = true ↔ f.Unmatched v := by
  have hnull : v.isNull = true ↔ v = .null := by cases v <;> simp [Json.isNull]
  simp [isUnmatched, Unmatched, ← option?_eq_none_iff, ← hnull]

/-- Items are chosen one by one, up to the first leaf that matches no option. -/
theorem chosenItems?_eq {items : List Json}
    (h : ∀ v ∈ items, f.chosen? v = match v.leaves.find? f.isUnmatched with
      | some leaf => .error (.notOption leaf.plainText)
      | none => .ok (v.mapLeaves f.choice)) :
    f.chosenItems? items = match (items.flatMap Json.leaves).find? f.isUnmatched with
      | some leaf => .error (.notOption leaf.plainText)
      | none => .ok (items.map (Json.mapLeaves f.choice)) := by
  induction items with
  | nil => rfl
  | cons v rest ih =>
    rw [List.forall_mem_cons] at h
    rw [chosenItems?, h.1, ih h.2, List.flatMap_cons, List.find?_append]
    cases v.leaves.find? f.isUnmatched with
    | some leaf => rfl
    | none => cases (rest.flatMap Json.leaves).find? f.isUnmatched <;> rfl

/-- A choice is made leaf by leaf, up to the first leaf that matches no option. -/
theorem chosen?_eq (f : FieldView) (v : Json) :
    f.chosen? v = match v.leaves.find? f.isUnmatched with
      | some leaf => .error (.notOption leaf.plainText)
      | none => .ok (v.mapLeaves f.choice) := by
  induction v using Json.itemsInduction with
  | null => rfl
  | arr items ih =>
    rw [chosen?, chosenItems?_eq ih, Json.leaves_arr, Json.mapLeaves_arr]
    cases (items.flatMap Json.leaves).find? f.isUnmatched <;> rfl
  | single v hsingle =>
    have hnull : v.isNull = false := by cases v <;> first | rfl | cases hsingle
    rw [chosen?_of_isSingle hsingle, Json.leaves_of_isSingle hsingle, Json.mapLeaves_of_isSingle _ hsingle]
    cases hoption : f.option? v <;> simp [isUnmatched, choice, hnull, hoption]

theorem choice_of_firstMatch (hsome : v ≠ .null) (h : f.FirstMatch v o) : f.choice v = o.value := by
  have hnull : v.isNull = false := by
    cases v <;> first | rfl | exact absurd rfl hsome
  rw [choice, hnull, option?_eq_some_iff.2 h]
  rfl

/-- When every leaf is null or matches an option, what is stored of each leaf is what the leaf is taken to. -/
theorem chooses_choice (h : ∀ leaf ∈ v.leaves, ¬ f.Unmatched leaf) : f.Chooses v f.choice where
  null := rfl
  option {leaf} hleaf hsome := by
    cases hoption : f.option? leaf with
    | none => exact absurd ⟨hsome, option?_eq_none_iff.1 hoption⟩ (h leaf hleaf)
    | some o =>
      have hfirst := option?_eq_some_iff.1 hoption
      exact ⟨o, hfirst, choice_of_firstMatch hsome hfirst⟩

theorem Chooses.not_unmatched {g : Json → Json} (h : f.Chooses v g) {leaf : Json} (hleaf : leaf ∈ v.leaves) :
    ¬ f.Unmatched leaf := by
  rintro ⟨hsome, hnone⟩
  obtain ⟨o, ⟨before, after, hoptions, hmatch, -⟩, -⟩ := h.option hleaf hsome
  exact hnone o (by simp [hoptions]) hmatch

/-- Two functions that take each leaf to the value of its option make the same of the input. -/
theorem Chooses.mapLeaves_eq {g : Json → Json} (h : f.Chooses v g) : v.mapLeaves g = v.mapLeaves f.choice := by
  refine Json.mapLeaves_congr fun leaf hleaf => ?_
  by_cases hsome : leaf = .null
  · rw [hsome, h.null]
    rfl
  · obtain ⟨o, hfirst, hvalue⟩ := h.option hleaf hsome
    rw [hvalue, choice_of_firstMatch hsome hfirst]

theorem Chooses.madeOfOptions {g : Json → Json} (h : f.Chooses v g) : f.MadeOfOptions (v.mapLeaves g) := by
  have hleaf {leaf : Json} (hleaf : leaf ∈ v.leaves) : f.MadeOfOptions (g leaf) := by
    by_cases hsome : leaf = .null
    · rw [hsome, h.null]
      exact .null
    · obtain ⟨o, ⟨before, after, hoptions, -⟩, hvalue⟩ := h.option hleaf hsome
      rw [hvalue]
      exact .option (by simp [hoptions])
  clear h
  induction v using Json.itemsInduction with
  | null => exact hleaf List.mem_cons_self
  | arr items ih =>
    rw [Json.mapLeaves_arr]
    refine .items fun w hw => ?_
    obtain ⟨v, hv, rfl⟩ := List.mem_map.1 hw
    refine ih v hv fun {leaf} hmem => hleaf ?_
    rw [Json.leaves_arr]
    exact List.mem_flatMap.2 ⟨v, hv, hmem⟩
  | single v hsingle =>
    rw [Json.mapLeaves_of_isSingle g hsingle]
    exact hleaf (by rw [Json.leaves_of_isSingle hsingle]; exact List.mem_cons_self)

theorem chosen?_eq_ok_iff : f.chosen? v = .ok w ↔ ∃ g, f.Chooses v g ∧ w = v.mapLeaves g := by
  rw [chosen?_eq]
  cases hfind : v.leaves.find? f.isUnmatched with
  | some leaf =>
    have hunmatched := isUnmatched_iff.1 (List.find?_some hfind)
    refine iff_of_false nofun ?_
    rintro ⟨g, hg, -⟩
    exact hg.not_unmatched (List.mem_of_find?_eq_some hfind) hunmatched
  | none =>
    have hall : ∀ leaf ∈ v.leaves, ¬ f.Unmatched leaf := fun leaf hleaf h =>
      List.find?_eq_none.1 hfind leaf hleaf (isUnmatched_iff.2 h)
    constructor
    · intro h
      exact ⟨f.choice, chooses_choice hall, (Except.ok.inj h).symm⟩
    · rintro ⟨g, hg, rfl⟩
      rw [hg.mapLeaves_eq]

theorem chosen?_eq_error_iff :
    f.chosen? v = .error e ↔ ∃ leaf, f.FirstUnmatched v leaf ∧ e = .notOption leaf.plainText := by
  have hfirst {leaf : Json} : v.leaves.find? f.isUnmatched = some leaf ↔ f.FirstUnmatched v leaf := by
    rw [List.find?_eq_some_iff_append, isUnmatched_iff]
    simp only [Bool.not_eq_true', ← Bool.not_eq_true, isUnmatched_iff]
    constructor
    · rintro ⟨hunmatched, before, after, hleaves, hbefore⟩
      exact ⟨before, after, hleaves, hunmatched, hbefore⟩
    · rintro ⟨before, after, hleaves, hunmatched, hbefore⟩
      exact ⟨hunmatched, before, after, hleaves, hbefore⟩
  simp only [chosen?_eq, ← hfirst]
  cases v.leaves.find? f.isUnmatched <;> simp [eq_comm]

/-- Some leaf of an input matches no option exactly if there is a first one. -/
theorem exists_firstUnmatched_iff : (∃ leaf, f.FirstUnmatched v leaf) ↔ ∃ leaf ∈ v.leaves, f.Unmatched leaf := by
  constructor
  · rintro ⟨leaf, before, after, hleaves, hunmatched, -⟩
    exact ⟨leaf, by simp [hleaves], hunmatched⟩
  · rintro ⟨leaf, hleaf, hunmatched⟩
    cases hchosen : f.chosen? v with
    | ok w =>
      obtain ⟨g, hg, -⟩ := chosen?_eq_ok_iff.1 hchosen
      exact absurd hunmatched (hg.not_unmatched hleaf)
    | error e =>
      obtain ⟨first, hfirst, -⟩ := chosen?_eq_error_iff.1 hchosen
      exact ⟨first, hfirst⟩

/-- Of a choice, the input is stored with null kept and every other leaf replaced by the value of the first option that
it matches, if there is one for each; and it is refused exactly if a leaf that is not null matches none, by the text of
the first such leaf. So whatever is stored is made of null and the values of options. -/
theorem choice_stores_options (hkind : f.kind = .select ∨ f.kind = .tag) (hoptions : f.options ≠ []) (v : Json) :
    (∀ w, f.coerce v = .ok w ↔ ∃ g, f.Chooses v g ∧ w = v.mapLeaves g) ∧
      ((∃ e, f.coerce v = .error e) ↔ ∃ leaf ∈ v.leaves, f.Unmatched leaf) ∧
      (∀ e, f.coerce v = .error e ↔ ∃ leaf, f.FirstUnmatched v leaf ∧ e = .notOption leaf.plainText) ∧
      ∀ w, f.coerce v = .ok w → f.MadeOfOptions w := by
  rw [coerce_eq_chosen? hkind hoptions]
  refine ⟨fun w => chosen?_eq_ok_iff, ?_, fun e => chosen?_eq_error_iff, fun w h => ?_⟩
  · rw [← exists_firstUnmatched_iff]
    simp only [chosen?_eq_error_iff]
    constructor
    · rintro ⟨e, leaf, hfirst, -⟩
      exact ⟨leaf, hfirst⟩
    · rintro ⟨leaf, hfirst⟩
      exact ⟨_, leaf, hfirst, rfl⟩
  · obtain ⟨g, hg, rfl⟩ := chosen?_eq_ok_iff.1 h
    exact hg.madeOfOptions

/-- A badge for a state that is given as a letter or as a number. -/
def statusTag : FieldView where
  kind := .tag
  config := .empty .object
  options := [{ value := .str "A", label := "Active" }, { value := .whole 0, label := "Off" }]
  required := false

/-- Several states are stored with the number for its text, and the first state that is not known is refused. -/
theorem nested_states_stored :
    statusTag.options ≠ [] ∧
      (statusTag.coerce (.arr [.arr [.str "A", .null], .str "0"]) = .ok (.arr [.arr [.str "A", .null], .whole 0]) ∧
        statusTag.MadeOfOptions (.arr [.arr [.str "A", .null], .whole 0])) ∧
      statusTag.coerce (.arr [.str "A", .arr [.str "Z"], .str "Y"]) = .error (.notOption "Z") := by
  have hoptions : statusTag.options ≠ [] := nofun
  have hstored : statusTag.coerce (.arr [.arr [.str "A", .null], .str "0"]) =
      .ok (.arr [.arr [.str "A", .null], .whole 0]) := by rfl
  have hfirst : statusTag.FirstUnmatched (.arr [.str "A", .arr [.str "Z"], .str "Y"]) (.str "Z") := by
    refine ⟨[.str "A"], [.str "Y"], rfl, isUnmatched_iff.1 (by rfl), fun a ha => ?_⟩
    rw [List.mem_singleton.1 ha, ← isUnmatched_iff]
    exact Bool.false_ne_true
  obtain ⟨-, -, -, hmade⟩ := choice_stores_options (.inr rfl) hoptions (.arr [.arr [.str "A", .null], .str "0"])
  obtain ⟨-, -, hrefused, -⟩ := choice_stores_options (.inr rfl) hoptions (.arr [.str "A", .arr [.str "Z"], .str "Y"])
  exact ⟨hoptions, ⟨hstored, hmade _ hstored⟩, (hrefused _).2 ⟨_, hfirst, rfl⟩⟩

end FieldView

end BackOffice
