import BackOffice.Proofs.Context.Reads
import Mathlib.Data.List.TakeWhile

/-!
Binding a step is all or nothing. There is a request if every field has a value in the context, and it then holds the
fields of the step in their order; otherwise the first field without a value is the one that is refused. One identifier
is taken for each field in front of it that asks for one, and nothing else is read than the keys of the step.
-/

namespace BackOffice

/-- Whether an expression has a value in a context, whatever the surroundings are. -/
def InputExpr.resolves (c : Context) : InputExpr → Bool
  | literal _ => true
  | contextRef key default | transform (.fromContext key default) => c.has key || default.isSome
  | transform (.unknown _) | script _ => false
  | transform _ => true

theorem InputExpr.resolves_ofJson_str (text : String) (c : Context) :
    (ofJson (.str text)).resolves c = !looksLikeScript text := by
  rw [ofJson]
  split
  next h => rw [h]; rfl
  next h => rw [Bool.eq_false_iff.2 h]; rfl

/-- The source of identifiers when some have been taken. -/
def IdSource.skip (s : IdSource) (n : Nat) : IdSource := { s with next := s.next + n }

/-- The surroundings when some identifiers have been taken. -/
def Surroundings.skip (s : Surroundings) (n : Nat) : Surroundings := { s with ids := s.ids.skip n }

theorem Surroundings.skip_skip (s : Surroundings) (m n : Nat) : (s.skip m).skip n = s.skip (m + n) := by
  simp only [skip, IdSource.skip, Nat.add_assoc]

namespace Binding

variable {c : Context} {around : Surroundings} {field : String} {e : InputExpr} {inputs : List (String × InputExpr)}
  {input : Keyed Json} {err : BindingError}

/-- The number of identifiers that fields ask for. -/
def uuids (inputs : List (String × InputExpr)) : Nat := inputs.countP (·.2.isUuid)

/-! ### One field -/

theorem lookup_of_has {key : String} (default : Option Json) (h : c.has key = true) :
    ∃ v, lookup field key default c = .ok v := by
  obtain ⟨v, hv, hnull⟩ := (Option.any_eq_true _ _).1 h
  exact ⟨v, by simp only [lookup, hv, Option.filter_some, if_pos hnull]⟩

theorem lookup_of_not_has {key : String} (default : Option Json) (h : c.has key = false) :
    lookup field key default c = match default with
      | some v => .ok v
      | none => .error (.missingKey field key) := by
  have hnone : (c.get? key).filter (!·.isNull) = none := by
    rw [Option.filter_eq_none_iff]
    intro v hv hnull
    rw [Context.has, hv, Option.any_some, hnull] at h
    cases h
  cases default <;> simp only [lookup, hnone]

theorem exists_lookup_iff {key : String} {default : Option Json} :
    (∃ v, lookup field key default c = .ok v) ↔ (c.has key || default.isSome) = true := by
  cases hhas : c.has key with
  | true => simpa using lookup_of_has default hhas
  | false =>
    rw [lookup_of_not_has default hhas]
    cases default <;> simp

/-- Whether a field has a value can be seen without its surroundings. -/
theorem exists_value_iff : (∃ v, value field c around e = .ok v) ↔ e.resolves c = true := by
  cases e with
  | literal v => simp [value, InputExpr.resolves]
  | contextRef key default => exact exists_lookup_iff
  | transform t =>
    cases t with
    | fromContext key default => exact exists_lookup_iff
    | _ => simp [value, InputExpr.resolves]
  | script text => simp [value, InputExpr.resolves]

theorem exists_error (h : e.resolves c = false) : ∃ err, value field c around e = .error err := by
  cases hvalue : value field c around e with
  | ok v => rw [exists_value_iff.1 ⟨v, hvalue⟩] at h; cases h
  | error err => exact ⟨err, rfl⟩

/-- The error names the field that has no value. -/
theorem field_of_error (h : value field c around e = .error err) : err.field = field := by
  have hlookup {key : String} {default : Option Json} (h : lookup field key default c = .error err) :
      err.field = field := by
    unfold lookup at h
    split at h
    · cases h
    · split at h
      · cases h
      · cases h
        rfl
  cases e with
  | literal v => cases h
  | contextRef key default => exact hlookup h
  | transform t =>
    cases t with
    | fromContext key default => exact hlookup h
    | unknown name => cases h; rfl
    | _ => cases h
  | script text => cases h; rfl

theorem after_eq (around : Surroundings) (e : InputExpr) : after around e = around.skip e.isUuid.toNat := by
  unfold after
  split
  · rfl
  next h =>
    have huuid : e.isUuid = false := by
      unfold InputExpr.isUuid
      split
      · exact absurd rfl h
      · rfl
    rw [huuid]
    rfl

theorem uuids_cons (i : String × InputExpr) (rest : List (String × InputExpr)) :
    uuids (i :: rest) = i.2.isUuid.toNat + uuids rest := by
  rw [uuids, List.countP_cons, Nat.add_comm, uuids]
  cases i.2.isUuid <;> rfl

/-! ### All fields -/

/-- When every field has a value, they all get their values, one after another. -/
inductive Filled (c : Context) : Surroundings → List (String × InputExpr) → Keyed Json → Prop
  | nil (around : Surroundings) : Filled c around [] []
  | cons {around : Surroundings} {field : String} {e : InputExpr} {v : Json} {rest : List (String × InputExpr)}
      {input : Keyed Json} (hvalue : value field c around e = .ok v) (h : Filled c (after around e) rest input) :
      Filled c around ((field, e) :: rest) ((field, v) :: input)

theorem fields_of_resolves (around : Surroundings) (h : ∀ i ∈ inputs, i.2.resolves c = true) :
    ∃ input, Filled c around inputs input ∧ fields c around inputs = (.ok input, around.skip (uuids inputs)) := by
  induction inputs generalizing around with
  | nil => exact ⟨[], .nil around, rfl⟩
  | cons i rest ih =>
    obtain ⟨field, e⟩ := i
    rw [List.forall_mem_cons] at h
    have hvalue : ∃ v, value field c around e = .ok v := exists_value_iff.2 h.1
    obtain ⟨v, hv⟩ := hvalue
    obtain ⟨input, hfilled, hrest⟩ := ih (after around e) h.2
    refine ⟨(field, v) :: input, .cons hv hfilled, ?_⟩
    simp only [fields, hv, hrest]
    rw [after_eq, Surroundings.skip_skip, uuids_cons]

/-- The first field without a value ends the binding, and is the one that is refused. -/
theorem fields_of_refused (around : Surroundings) (field : String) {front : List (String × InputExpr)}
    (back : List (String × InputExpr)) (h : ∀ i ∈ front, i.2.resolves c = true) (hrefused : e.resolves c = false) :
    ∃ err, value field c (around.skip (uuids front)) e = .error err ∧
      fields c around (front ++ (field, e) :: back) = (.error err, around.skip (uuids front)) := by
  induction front generalizing around with
  | nil =>
    have herror : ∃ err, value field c around e = .error err := exists_error hrefused
    obtain ⟨err, herr⟩ := herror
    refine ⟨err, herr, ?_⟩
    have huuid : e.isUuid = false := by
      -- An identifier can always be had.
      unfold InputExpr.isUuid
      split
      · cases hrefused
      · rfl
    simp only [List.nil_append, fields, herr]
    rw [after_eq, huuid]
    rfl
  | cons i rest ih =>
    obtain ⟨field', e'⟩ := i
    rw [List.forall_mem_cons] at h
    have hvalue : ∃ v, value field' c around e' = .ok v := exists_value_iff.2 h.1
    obtain ⟨v, hv⟩ := hvalue
    obtain ⟨err, herr, hfields⟩ := ih (after around e') h.2
    rw [after_eq, Surroundings.skip_skip, ← uuids_cons (field', e')] at herr hfields
    refine ⟨err, herr, ?_⟩
    simp only [List.cons_append, fields, hv, after_eq, hfields]

/-- Either every field has a value, or there is a first one that has none. -/
theorem resolves_or_refused (c : Context) (inputs : List (String × InputExpr)) :
    (∀ i ∈ inputs, i.2.resolves c = true) ∨
      ∃ front field e back, inputs = front ++ (field, e) :: back ∧ (∀ i ∈ front, i.2.resolves c = true) ∧
        e.resolves c = false := by
  -- The first field without a value ends the stretch of those that have one.
  cases hfirst : inputs.find? fun i => !i.2.resolves c with
  | none => exact .inl (by simpa using List.find?_eq_none.1 hfirst)
  | some i =>
    obtain ⟨hrefused, front, back, rfl, hfront⟩ := List.find?_eq_some_iff_append.1 hfirst
    exact .inr ⟨front, i.1, i.2, back, rfl, by simpa using hfront, by simpa using hrefused⟩

namespace Filled

theorem keys_eq (h : Filled c around inputs input) : input.keys = Keyed.keys inputs := by
  induction h with
  | nil => rfl
  | cons _ _ ih => exact congrArg (_ :: ·) ih

/-- Each field has its own value, in surroundings where those in front of it have taken their identifiers. -/
theorem getElem? (h : Filled c around inputs input) {i : Nat} (hi : inputs[i]? = some (field, e)) :
    ∃ v, value field c (around.skip (uuids (inputs.take i))) e = .ok v ∧ input[i]? = some (field, v) := by
  induction h generalizing i with
  | nil => cases hi
  | @cons around field' e' v rest input hvalue h ih =>
    cases i with
    | zero =>
      cases hi
      exact ⟨v, hvalue, rfl⟩
    | succ i =>
      rw [List.getElem?_cons_succ] at hi
      obtain ⟨v', hv', hinput⟩ := ih hi
      rw [after_eq, Surroundings.skip_skip, ← uuids_cons (field', e')] at hv'
      exact ⟨v', hv', hinput⟩

/-- The fields that ask for an identifier get the next ones of the source, in order. -/
theorem fresh (h : Filled c around inputs input) :
    ((inputs.zip input).filter (·.1.2.isUuid)).map (·.2.2) =
      (List.range (uuids inputs)).map fun n => .str (around.ids.skip n).fresh := by
  induction h with
  | nil => rfl
  | @cons around field e v rest input hvalue h ih =>
    rw [List.zip_cons_cons, uuids_cons]
    cases huuid : e.isUuid with
    | false =>
      rw [List.filter_cons_of_neg (by simp [huuid]), ih, after_eq, huuid]
      simp [Surroundings.skip, IdSource.skip]
    | true =>
      -- This field takes the next identifier, and those behind it go on from the one after.
      have hv : v = .str around.ids.fresh := by
        unfold InputExpr.isUuid at huuid
        split at huuid
        · exact (Except.ok.inj hvalue).symm
        · cases huuid
      rw [List.filter_cons_of_pos (by simpa using huuid), List.map_cons, ih, after_eq, huuid, hv, Nat.add_comm,
        Bool.toNat_true, List.range_succ_eq_map, List.map_cons, List.map_map]
      refine congrArg (_ :: ·) (List.map_congr_left fun n _ => ?_)
      simp [Surroundings.skip, IdSource.skip, Nat.add_comm n, Nat.add_assoc]

end Filled

end Binding

namespace Step

variable {s : Step} {c c' : Context} {around : Surroundings} {r : Request} {err : BindingError}

theorem keys_inputs (s : Step) : Keyed.keys s.inputs = s.input.keys := by
  rw [inputs, Keyed.keys, Keyed.mapValues, List.map_map]
  rfl

/-- The request of a step with values in its fields. -/
def request (s : Step) (input : Keyed Json) : Request :=
  { workflow := s.workflow, learnApi := s.learnApi, useMicroservice := s.useMicroservice.getD false, input }

/-- The fields in front of the first one that has no value. -/
def resolved (s : Step) (c : Context) : List (String × InputExpr) := s.inputs.takeWhile (·.2.resolves c)

/-- What may come of binding a step. -/
inductive Binds (s : Step) (c : Context) (around : Surroundings) : Except BindingError Request × Surroundings → Prop
  | sent {input : Keyed Json} (h : ∀ i ∈ s.inputs, i.2.resolves c = true)
      (hfilled : Binding.Filled c around s.inputs input) :
      Binds s c around (.ok (s.request input), around.skip (Binding.uuids s.inputs))
  | refused {front back : List (String × InputExpr)} {field : String} {e : InputExpr} {err : BindingError}
      (hinputs : s.inputs = front ++ (field, e) :: back) (h : ∀ i ∈ front, i.2.resolves c = true)
      (hrefused : e.resolves c = false)
      (herr : Binding.value field c (around.skip (Binding.uuids front)) e = .error err) :
      Binds s c around (.error err, around.skip (Binding.uuids front))

theorem binds (s : Step) (c : Context) (around : Surroundings) : s.Binds c around (s.bind c around) := by
  obtain hall | ⟨front, field, e, back, hinputs, hfront, hrefused⟩ := Binding.resolves_or_refused c s.inputs
  · obtain ⟨input, hfilled, hfields⟩ := Binding.fields_of_resolves around hall
    simp only [bind, hfields]
    exact .sent hall hfilled
  · obtain ⟨err, herr, hfields⟩ := Binding.fields_of_refused around field back hfront hrefused
    simp only [bind, hinputs, hfields]
    exact .refused hinputs hfront hrefused herr

theorem exists_bind_iff : (∃ r, (s.bind c around).1 = .ok r) ↔ ∀ i ∈ s.inputs, i.2.resolves c = true := by
  have hbinds := s.binds c around
  generalize s.bind c around = bound at hbinds ⊢
  cases hbinds with
  | sent hall hfilled => simpa using hall
  | @refused front back field e err hinputs _ hrefused _ =>
    have hmem : (field, e) ∈ s.inputs := hinputs ▸ List.mem_append_right _ List.mem_cons_self
    refine ⟨nofun, fun hall => ?_⟩
    have hresolves := hall _ hmem
    rw [hrefused] at hresolves
    cases hresolves

theorem filled_of_bind (h : (s.bind c around).1 = .ok r) :
    ∃ input, Binding.Filled c around s.inputs input ∧ r = s.request input := by
  have hbinds := s.binds c around
  generalize s.bind c around = bound at hbinds h
  cases hbinds with
  | sent _ hfilled => exact ⟨_, hfilled, (Except.ok.inj h).symm⟩
  | refused => cases h

/-- The field that is refused is the first one without a value. -/
theorem refused_of_bind (h : (s.bind c around).1 = .error err) :
    ∃ front field e back, s.inputs = front ++ (field, e) :: back ∧ (∀ i ∈ front, i.2.resolves c = true) ∧
      e.resolves c = false ∧ err.field = field ∧
      Binding.value field c (around.skip (Binding.uuids front)) e = .error err := by
  have hbinds := s.binds c around
  generalize s.bind c around = bound at hbinds h
  cases hbinds with
  | sent => cases h
  | refused hinputs hfront hrefused herr =>
    obtain rfl := Except.error.inj h
    exact ⟨_, _, _, _, hinputs, hfront, hrefused, Binding.field_of_error herr, herr⟩

theorem usedUp_by_bind (s : Step) (c : Context) (around : Surroundings) :
    (s.bind c around).2 = around.skip (Binding.uuids (s.resolved c)) := by
  have hbinds := s.binds c around
  generalize s.bind c around = bound at hbinds ⊢
  cases hbinds with
  | sent hall => rw [resolved, List.takeWhile_eq_self_iff.2 hall]
  | refused hinputs hfront hrefused =>
    rw [resolved, hinputs, List.takeWhile_append_of_pos hfront, List.takeWhile_cons_of_neg (by simp [hrefused]),
      List.append_nil]

/-- A step reads nothing but the values of its keys. -/
theorem bind_congr_get? (h : ∀ key ∈ s.reads, c.get? key = c'.get? key) : s.bind c around = s.bind c' around := by
  have hfields : Binding.fields c around s.inputs = Binding.fields c' around s.inputs :=
    Binding.fields_congr fun i hi key hkey => h key (List.mem_filterMap.2 ⟨i, hi, hkey⟩)
  simp only [bind, hfields]

/-- Whether a step is bound as a whole or not at all. -/
structure BoundWhole (s : Step) (c : Context) (around : Surroundings) : Prop where
  /-- Whether a field has a value does not hang on the surroundings. -/
  valued : ∀ i ∈ s.inputs, ∀ around', (∃ v, Binding.value i.1 c around' i.2 = .ok v) ↔ i.2.resolves c = true
  sent_iff : (∃ r, (s.bind c around).1 = .ok r) ↔ ∀ i ∈ s.inputs, i.2.resolves c = true
  /-- The request holds the fields of the step in their order, each with its own value. -/
  sent {r : Request} (h : (s.bind c around).1 = .ok r) :
    r.workflow = s.workflow ∧ r.learnApi = s.learnApi ∧ r.useMicroservice = s.useMicroservice.getD false ∧
      r.input.keys = s.input.keys ∧
      ∀ (i : Nat) (field : String) (e : InputExpr), s.inputs[i]? = some (field, e) →
        ∃ v, Binding.value field c (around.skip (Binding.uuids (s.inputs.take i))) e = .ok v ∧
          r.input[i]? = some (field, v)
  /-- The error is that of the first field without a value. -/
  refused {err : BindingError} (h : (s.bind c around).1 = .error err) :
    ∃ front field e back, s.inputs = front ++ (field, e) :: back ∧ (∀ i ∈ front, i.2.resolves c = true) ∧
      e.resolves c = false ∧ err.field = field ∧
      Binding.value field c (around.skip (Binding.uuids front)) e = .error err
  /-- The fields that ask for an identifier get the next ones of the source, in order. -/
  fresh {r : Request} (h : (s.bind c around).1 = .ok r) :
    ((s.inputs.zip r.input).filter (·.1.2.isUuid)).map (·.2.2) =
      (List.range (Binding.uuids s.inputs)).map fun n => .str (around.ids.skip n).fresh
  /-- One identifier is used up for each field that asks for one, up to the first field without a value. -/
  usedUp : (s.bind c around).2 = around.skip (Binding.uuids (s.resolved c))
  /-- Nothing is read but the values of the keys of the step. -/
  reads {c' : Context} (h : ∀ key ∈ s.reads, c.get? key = c'.get? key) : s.bind c around = s.bind c' around

/-- Every step is bound as a whole or not at all, in every context. -/
theorem bound_whole (s : Step) (c : Context) (around : Surroundings) : s.BoundWhole c around where
  valued := fun _ _ _ => Binding.exists_value_iff
  sent_iff := exists_bind_iff
  sent := by
    intro r h
    obtain ⟨input, hfilled, rfl⟩ := filled_of_bind h
    exact ⟨rfl, rfl, rfl, hfilled.keys_eq.trans s.keys_inputs, fun i field e hi => hfilled.getElem? hi⟩
  refused := refused_of_bind
  fresh := by
    intro r h
    obtain ⟨input, hfilled, rfl⟩ := filled_of_bind h
    exact hfilled.fresh
  usedUp := s.usedUp_by_bind c around
  reads := bind_congr_get?

/-- A field without a value keeps those behind it from taking an identifier. -/
example :
    let uuid : Json := .obj [("$fn", .str "uuid")]
    let s : Step := { workflow := "SAVE", input := [("A", uuid), ("B", .obj [("key", .str "lost")]), ("C", uuid)] }
    s.bind {} ⟨.epoch, ⟨"id", 4⟩⟩ = (.error (.missingKey "B" "lost"), ⟨.epoch, ⟨"id", 5⟩⟩) := rfl

end Step

end BackOffice
