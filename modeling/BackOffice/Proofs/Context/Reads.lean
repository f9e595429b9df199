import BackOffice.Run.Binding

/-!
What a read of a context depends on: the entry under the key, and for a key with dots the entry before
its first dot. A step is bound the same way in two contexts that agree on the entries of its keys, and
takes nothing from its surroundings unless it asks for an identifier.
-/

namespace BackOffice

namespace Keyed

variable {α : Type}

theorem find?_put (entries : Keyed α) (key other : String) (value : α) :
    find? (put entries key value) other = if other = key then some value else find? entries other := by
  by_cases h : other = key
  · rw [if_pos h, h, find?_put_self]
  · rw [if_neg h, find?_put_of_ne _ _ h]

theorem find?_erase (entries : Keyed α) (key other : String) :
    find? (erase entries key) other = if other = key then none else find? entries other := by
  induction entries with
  | nil => simp [erase, find?]
  | cons entry rest ih =>
    obtain ⟨k, v⟩ := entry
    simp only [find?, erase] at ih ⊢
    by_cases hk : k = key
    · rw [List.filter_cons_of_neg (by simp [hk]), ih]
      by_cases ho : other = key
      · rw [if_pos ho, if_pos ho]
      · have hbeq : (other == k) = false := by simpa [hk] using ho
        rw [if_neg ho, if_neg ho, List.lookup_cons, hbeq]
    · rw [List.filter_cons_of_pos (by simp [hk]), List.lookup_cons, List.lookup_cons, ih]
      by_cases ho : other = k
      · simp [ho, hk]
      · have hbeq : (other == k) = false := by simpa using ho
        rw [hbeq]

/-- After some writes a key has the value that was written last, or else the value that it had. -/
theorem find?_putAll (entries : Keyed α) (writes : List (String × α)) (key : String) :
    find? (putAll entries writes) key = (writes.reverse.lookup key).or (find? entries key) := by
  induction writes generalizing entries with
  | nil => rfl
  | cons w rest ih =>
    have hstep : putAll entries (w :: rest) = putAll (put entries w.1 w.2) rest := rfl
    rw [hstep, ih, find?_put, List.reverse_cons, List.lookup_append, Option.or_assoc]
    congr 1
    obtain ⟨k, v⟩ := w
    by_cases h : key = k
    · simp [h]
    · have hbeq : (key == k) = false := by simpa using h
      simp [h, List.lookup_cons, hbeq]

theorem find?_mapValues {β : Type} (f : α → β) (entries : Keyed α) (key : String) :
    find? (mapValues f entries) key = (find? entries key).map f := by
  induction entries with
  | nil => rfl
  | cons entry rest ih =>
    obtain ⟨k, v⟩ := entry
    by_cases h : key = k
    · simp [mapValues, find?, h]
    · have hbeq : (key == k) = false := by simpa using h
      simpa [mapValues, find?, List.lookup_cons, hbeq] using ih

end Keyed

namespace Context

/-- The entry that a key with dots is read out of when nothing stands under the key itself. -/
def entryKey? (key : String) : Option String :=
  (splitAtFirst '.' key.toList).map fun parts => String.ofList parts.1

/-- The entries that a read of a key looks at. -/
def entriesOf (key : String) : List String := key :: (entryKey? key).toList

/-- Whether two contexts have the same values in the entries that reads of some keys look at. -/
def AgreeOn (keys : List String) (a b : Context) : Prop :=
  ∀ key ∈ keys, ∀ k ∈ entriesOf key, a.values.find? k = b.values.find? k

variable {a b : Context} {key : String} {keys : List String}

theorem get?_congr (h : ∀ k ∈ entriesOf key, a.values.find? k = b.values.find? k) :
    a.get? key = b.get? key := by
  have hkey := h key List.mem_cons_self
  unfold get?
  rw [hkey]
  cases b.values.find? key with
  | some v => rfl
  | none =>
    cases hsplit : splitAtFirst '.' key.toList with
    | none => rfl
    | some parts =>
      have hhead : String.ofList parts.1 ∈ entriesOf key := by
        simp [entriesOf, entryKey?, hsplit]
      simp only [h _ hhead]

theorem find?_apply (c : Context) (writes : List Write) (key : String) :
    (c.apply writes).values.find? key = (writes.reverse.lookup key).or (c.values.find? key) := by
  rw [values_apply, Keyed.find?_putAll]

theorem apply_append (c : Context) (front back : List Write) :
    c.apply (front ++ back) = (c.apply front).apply back := List.foldl_append

theorem writesSince_apply (c : Context) (writes : List Write) :
    (c.apply writes).writesSince c.mark = writes := by
  rw [writesSince, journal_apply, mark, List.drop_left]

theorem lookup_reverse_flatMap {α : Type} (l : List α) (writes : α → List Write) (key : String) :
    (l.flatMap writes).reverse.lookup key =
      l.reverse.findSome? fun a => (writes a).reverse.lookup key := by
  induction l with
  | nil => rfl
  | cons a rest ih =>
    rw [List.flatMap_cons, List.reverse_append, List.lookup_append, ih, List.reverse_cons,
      List.findSome?_append]
    congr 1
    simp

theorem find?_apply_of_notMem {c : Context} {writes : List Write} (h : key ∉ writes.map Prod.fst) :
    (c.apply writes).values.find? key = c.values.find? key := by
  have hnone : writes.reverse.lookup key = none := Keyed.find?_eq_none_iff.2 (by simpa [Keyed.keys] using h)
  rw [find?_apply, hnone, Option.none_or]

theorem AgreeOn.apply (h : AgreeOn keys a b) (writes : List Write) :
    AgreeOn keys (a.apply writes) (b.apply writes) := by
  intro key hkey k hk
  rw [find?_apply, find?_apply, h key hkey k hk]

end Context

/-- Whether an expression takes a fresh identifier. -/
def InputExpr.isUuid : InputExpr → Bool
  | .transform .uuid => true
  | _ => false

/-- Whether no field of a step takes a fresh identifier. -/
def Step.Plain (s : Step) : Prop := ∀ i ∈ s.inputs, i.2.isUuid = false

instance (s : Step) : Decidable s.Plain := inferInstanceAs (Decidable (∀ i ∈ s.inputs, i.2.isUuid = false))

namespace Binding

variable {a b : Context} {around : Surroundings}

theorem value_congr {e : InputExpr} (field : String)
    (h : ∀ key ∈ e.contextKey?, a.get? key = b.get? key) :
    value field a around e = value field b around e := by
  cases e with
  | literal v => rfl
  | contextRef key default =>
    simp only [value, lookup]
    rw [h key rfl]
  | transform t =>
    cases t with
    | fromContext key default =>
      simp only [value, lookup]
      rw [h key rfl]
    | _ => rfl
  | script text => rfl

theorem fields_congr {inputs : List (String × InputExpr)}
    (h : ∀ i ∈ inputs, ∀ key ∈ i.2.contextKey?, a.get? key = b.get? key) :
    fields a around inputs = fields b around inputs := by
  induction inputs generalizing around with
  | nil => rfl
  | cons i rest ih =>
    obtain ⟨field, e⟩ := i
    rw [List.forall_mem_cons] at h
    simp only [fields]
    rw [value_congr field h.1, ih h.2]

theorem after_of_plain {e : InputExpr} (h : e.isUuid = false) : after around e = around := by
  unfold after
  split
  · simp [InputExpr.isUuid] at h
  · rfl

theorem surroundings_fields {inputs : List (String × InputExpr)} (h : ∀ i ∈ inputs, i.2.isUuid = false) :
    (fields a around inputs).2 = around := by
  induction inputs with
  | nil => rfl
  | cons i rest ih =>
    obtain ⟨field, e⟩ := i
    rw [List.forall_mem_cons] at h
    have hrest := ih h.2
    simp only [fields, after_of_plain h.1]
    split
    · rfl
    · split
      next heq => rw [heq] at hrest; exact hrest
      next heq => rw [heq] at hrest; exact hrest

/-- Each field gets the value of its expression. -/
theorem find?_fields {inputs : List (String × InputExpr)} {input : Keyed Json} {e : InputExpr} {key : String}
    (h : (fields a around inputs).1 = .ok input) (he : inputs.lookup key = some e) :
    ∃ around' v, value key a around' e = .ok v ∧ input.find? key = some v := by
  induction inputs generalizing around input with
  | nil => cases he
  | cons first rest ih =>
    obtain ⟨field, e₀⟩ := first
    rw [fields] at h
    split at h
    next => cases h
    next v hv =>
      split at h
      next more around' hmore =>
        cases h
        rw [List.lookup_cons] at he
        by_cases hkey : key = field
        · subst hkey
          obtain rfl : e₀ = e := by simpa using he
          exact ⟨around, v, hv, by simp [Keyed.find?]⟩
        · have hbeq : (key == field) = false := by simpa using hkey
          rw [hbeq] at he
          simpa [Keyed.find?, List.lookup_cons, hbeq] using ih (by rw [hmore]) he
      next => cases h

/-- A text that is bound is bound as it is: script text is not bound at all. -/
theorem eq_of_value_str {field text : String} {v : Json}
    (h : value field a around (.ofJson (.str text)) = .ok v) : v = .str text := by
  rw [InputExpr.ofJson] at h
  split at h
  next => cases h
  next => exact (Except.ok.inj h).symm

end Binding

namespace Step

variable {s : Step} {a b : Context} {around : Surroundings}

/-- A step is bound the same way in contexts that agree on what it reads. -/
theorem bind_congr (h : Context.AgreeOn s.reads a b) : s.bind a around = s.bind b around := by
  have hfields : Binding.fields a around s.inputs = Binding.fields b around s.inputs := by
    apply Binding.fields_congr
    intro i hi key hkey
    exact Context.get?_congr (h key (List.mem_filterMap.2 ⟨i, hi, hkey⟩))
  simp only [bind, hfields]

theorem surroundings_bind (h : s.Plain) : (s.bind a around).2 = around := by
  have hfields := @Binding.surroundings_fields a around s.inputs h
  simp only [bind]
  split
  next heq => rw [heq] at hfields; exact hfields
  next heq => rw [heq] at hfields; exact hfields

/-- What a request holds in a field is the value of what the step has in that field. -/
theorem field?_bind {r : Request} {key : String} {v : Json} (h : (s.bind a around).1 = .ok r)
    (hv : s.input.find? key = some v) :
    ∃ around' v', Binding.value key a around' (.ofJson v) = .ok v' ∧ r.field? key = some v' := by
  have he : Keyed.find? s.inputs key = some (.ofJson v) := by
    rw [inputs, Keyed.find?_mapValues, hv, Option.map_some]
  simp only [bind] at h
  split at h
  next => cases h
  next input around' hinput =>
    obtain rfl := Except.ok.inj h
    exact Binding.find?_fields (by rw [hinput]) he

/-- A text in a field is sent as it is. -/
theorem field?_bind_str {r : Request} {key text : String} (h : (s.bind a around).1 = .ok r)
    (hv : s.input.find? key = some (.str text)) : r.field? key = some (.str text) := by
  obtain ⟨_, v, hvalue, hfield⟩ := field?_bind h hv
  rw [hfield, Binding.eq_of_value_str hvalue]

/-- A number in a field is sent as it is. -/
theorem field?_bind_num {r : Request} {key : String} {n : JsonNumber} (h : (s.bind a around).1 = .ok r)
    (hv : s.input.find? key = some (.num n)) : r.field? key = some (.num n) := by
  obtain ⟨_, v, hvalue, hfield⟩ := field?_bind h hv
  rw [hfield, ← Except.ok.inj hvalue]

end Step

end BackOffice
