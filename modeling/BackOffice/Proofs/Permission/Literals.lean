import BackOffice.Proofs.Permission.Toggles
import BackOffice.Proofs.Record.Keyed
import BackOffice.Proofs.Run.Binding
import BackOffice.Proofs.Workflow.Expressions

/-!
What becomes of values that are put into the fields of a step as literals. A literal is written into the step as it is,
and read again when the step is bound. So it is sent as it is unless it looks like something else: script text is
refused, and a value that looks like a reference or a transform is sent as what that stands for. The write of a row of
the matrix is sent with the values of the row unless its role or its command looks like a script.
-/

namespace BackOffice

/-- A text has no value only if it is script text. -/
theorem Binding.script_of_value_str {field text : String} {c : Context} {around : Surroundings} {err : BindingError}
    (h : value field c around (.ofJson (.str text)) = .error err) :
    err = .unsupportedScript field ∧ looksLikeScript text = true := by
  rw [InputExpr.ofJson] at h
  split at h
  next hscript => exact ⟨(Except.error.inj h).symm, hscript⟩
  next => cases h

namespace Step

variable {s : Step} {field : String} {v : Json} {c : Context} {around : Surroundings} {own : List String}

theorem mem_inputs_of_find? (h : s.input.find? field = some v) (hnames : s.input.keys.Nodup) :
    (field, InputExpr.ofJson v) ∈ s.inputs :=
  List.mem_map.2 ⟨(field, v), (Keyed.find?_eq_some_iff hnames).1 h, rfl⟩

theorem exists_find?_of_mem_inputs {e : InputExpr} (h : (field, e) ∈ s.inputs) (hnames : s.input.keys.Nodup) :
    ∃ v, s.input.find? field = some v ∧ InputExpr.ofJson v = e := by
  obtain ⟨⟨name, v⟩, hentry, heq⟩ := List.mem_map.1 h
  obtain ⟨rfl, rfl⟩ := Prod.mk.inj heq
  exact ⟨v, (Keyed.find?_eq_some_iff hnames).2 hentry, rfl⟩

/-- When all other fields have a value, it is up to some fields whether the step is sent. -/
theorem exists_bind_iff_own (hnames : s.input.keys.Nodup)
    (hothers : ∀ i ∈ s.inputs, i.1 ∉ own → i.2.resolves c = true) :
    (∃ r, (s.bind c around).1 = .ok r) ↔
      ∀ name ∈ own, ∀ v, s.input.find? name = some v → (InputExpr.ofJson v).resolves c = true := by
  rw [exists_bind_iff]
  constructor
  · intro hall name _ v hv
    exact hall _ (mem_inputs_of_find? hv hnames)
  · rintro hown ⟨name, e⟩ hi
    by_cases hname : name ∈ own
    · obtain ⟨v, hv, rfl⟩ := exists_find?_of_mem_inputs hi hnames
      exact hown name hname v hv
    · exact hothers _ hi hname

/-- When all other fields have a value, one of these fields is the one that is refused. -/
theorem refused_own {err : BindingError} (hnames : s.input.keys.Nodup)
    (hothers : ∀ i ∈ s.inputs, i.1 ∉ own → i.2.resolves c = true) (h : (s.bind c around).1 = .error err) :
    ∃ name ∈ own, ∃ v, s.input.find? name = some v ∧ (InputExpr.ofJson v).resolves c = false ∧
      ∃ around', Binding.value name c around' (.ofJson v) = .error err := by
  obtain ⟨front, name, e, back, hinputs, -, hrefused, -, herr⟩ := refused_of_bind h
  have hmem : (name, e) ∈ s.inputs := hinputs ▸ List.mem_append_right _ List.mem_cons_self
  obtain ⟨v, hv, rfl⟩ := exists_find?_of_mem_inputs hmem hnames
  have hname : name ∈ own := by
    by_contra hother
    rw [show (InputExpr.ofJson v).resolves c = true from hothers _ hmem hother] at hrefused
    cases hrefused
  exact ⟨name, hname, v, hv, hrefused, _, herr⟩

/-- What becomes of a value that is put into a field of a step as a literal. -/
structure TakesLiteral (s : Step) (field : String) (v : Json) (c : Context) (around : Surroundings) : Prop where
  plain (h : v.isPlain = true) :
    ∃ r, ((s.withInput field (.literal v)).bind c around).1 = .ok r ∧ r.field? field = some v
  script {text : String} (hv : v = .str text) (h : looksLikeScript text = true) :
    ((s.withInput field (.literal v)).bind c around).1 = .error (.unsupportedScript field)
  read {r : Request} (h : ((s.withInput field (.literal v)).bind c around).1 = .ok r) :
    ∃ around' w, Binding.value field c around' (.ofJson v) = .ok w ∧ r.field? field = some w

/-- A literal is read again when the step is bound. -/
theorem takesLiteral (hnames : s.input.keys.Nodup)
    (hothers : ∀ i ∈ (s.withInput field (.literal v)).inputs, i.1 ≠ field → i.2.resolves c = true) :
    s.TakesLiteral field v c around := by
  have hnames' : (s.withInput field (.literal v)).input.keys.Nodup := Keyed.nodup_keys_put hnames field v
  have hfind : (s.withInput field (.literal v)).input.find? field = some v := Keyed.find?_put_self _ field v
  have hothers' : ∀ i ∈ (s.withInput field (.literal v)).inputs, i.1 ∉ [field] → i.2.resolves c = true :=
    fun i hi hname => hothers i hi (by simpa using hname)
  -- All other fields have a value, so it is up to the literal, as it is read, whether there is a request.
  have hsent : (∃ r, ((s.withInput field (.literal v)).bind c around).1 = .ok r) ↔
      (InputExpr.ofJson v).resolves c = true := by
    rw [exists_bind_iff_own hnames' hothers']
    simp [hfind]
  exact {
    plain := by
      intro h
      have hread := InputExpr.ofJson_of_isPlain h
      obtain ⟨r, hr⟩ := hsent.2 (by rw [hread]; rfl)
      obtain ⟨around', w, hvalue, hfield⟩ := field?_bind hr hfind
      rw [hread] at hvalue
      rw [← Except.ok.inj hvalue] at hfield
      exact ⟨r, hr, hfield⟩
    script := by
      rintro text rfl h
      cases hbound : ((s.withInput field (.literal (.str text))).bind c around).1 with
      | ok r =>
        have hresolves := hsent.1 ⟨r, hbound⟩
        rw [InputExpr.resolves_ofJson_str, h] at hresolves
        cases hresolves
      | error err =>
        obtain ⟨name, hname, v, hv, -, around', herr⟩ := refused_own hnames' hothers' hbound
        obtain rfl := List.mem_singleton.1 hname
        rw [hfind] at hv
        obtain rfl := Option.some.inj hv
        rw [(Binding.script_of_value_str herr).1]
    read := fun h => field?_bind h hfind }

end Step

namespace FlagWrite

variable {w : FlagWrite} {c : Context} {around : Surroundings}

/-- The fields that hold the values of a row. -/
def ownFields : List String := ["RoleId", "CommandId", "Invoke", "Approve"]

/-- Only the role and the command of a row may be taken for something else. -/
theorem WellMade.own_resolves_iff (hw : w.WellMade) (c : Context) :
    (∀ name ∈ ownFields, ∀ v, w.step.input.find? name = some v → (InputExpr.ofJson v).resolves c = true) ↔
      looksLikeScript w.row.roleId = false ∧ looksLikeScript w.row.commandId = false := by
  obtain ⟨template, hstep⟩ := hw.step
  have hflag (b : Bool) : (InputExpr.ofJson (OperationRow.flagJson b)).resolves c = true := rfl
  rw [hstep]
  simp [ownFields, PermissionScreen.find?_writeStep, InputExpr.resolves_ofJson_str, hflag]

/-- What becomes of the write of a row. -/
structure CarriesRow (w : FlagWrite) (c : Context) (around : Surroundings) : Prop where
  sent_iff : (∃ r, (w.step.bind c around).1 = .ok r) ↔
    looksLikeScript w.row.roleId = false ∧ looksLikeScript w.row.commandId = false
  sent {r : Request} (h : (w.step.bind c around).1 = .ok r) : w.IsSentAs r
  refused {err : BindingError} (h : (w.step.bind c around).1 = .error err) :
    err = .unsupportedScript "RoleId" ∧ looksLikeScript w.row.roleId = true ∨
      err = .unsupportedScript "CommandId" ∧ looksLikeScript w.row.commandId = true

theorem WellMade.carriesRow (hw : w.WellMade) (hnames : w.step.input.keys.Nodup)
    (hothers : ∀ i ∈ w.step.inputs, i.1 ∉ ownFields → i.2.resolves c = true) : w.CarriesRow c around where
  sent_iff := by rw [Step.exists_bind_iff_own hnames hothers, hw.own_resolves_iff c]
  sent := fun h => hw.isSentAs h
  refused := by
    intro err h
    obtain ⟨name, hname, v, hv, hrefused, around', herr⟩ := Step.refused_own hnames hothers h
    obtain ⟨template, hstep⟩ := hw.step
    rw [hstep, PermissionScreen.find?_writeStep] at hv
    simp only [ownFields, List.mem_cons, List.not_mem_nil, or_false] at hname
    obtain rfl | rfl | rfl | rfl := hname
    · obtain rfl : Json.str w.row.roleId = v := by simpa using hv
      exact .inl (Binding.script_of_value_str herr)
    · obtain rfl : Json.str w.row.commandId = v := by simpa using hv
      exact .inr (Binding.script_of_value_str herr)
    -- A flag is a number, and stands for itself.
    · obtain rfl : OperationRow.flagJson w.row.invoke = v := by simpa using hv
      cases herr
    · obtain rfl : OperationRow.flagJson w.row.approve = v := by simpa using hv
      cases herr

end FlagWrite

/-- When all other fields have a value, a literal is sent as what it is read as, which is the literal itself if it does
not look like a script, a reference or a transform; and the write of a row is sent with the values of the row unless
its role or its command looks like a script. -/
theorem Step.literals_are_sent_as_read (c : Context) (around : Surroundings) :
    (∀ (s : Step) (field : String) (v : Json), s.input.keys.Nodup →
      (∀ i ∈ (s.withInput field (.literal v)).inputs, i.1 ≠ field → i.2.resolves c = true) →
        s.TakesLiteral field v c around) ∧
      ∀ w : FlagWrite, w.WellMade → w.step.input.keys.Nodup →
        (∀ i ∈ w.step.inputs, i.1 ∉ FlagWrite.ownFields → i.2.resolves c = true) → w.CarriesRow c around :=
  ⟨fun _ _ _ hnames hothers => takesLiteral hnames hothers, fun _ hw hnames hothers => hw.carriesRow hnames hothers⟩

/-- The write of a row that comes to be allowed to invoke. -/
def FlagWrite.granting (roleId : String) : FlagWrite :=
  Toggling.written { workflow := "SAVE", input := [("MenuId", .obj [("key", .str "menu")])] } { roleId, commandId := "c" }
    .invoke

/-- A literal that has a key and a label stands for itself, and the write of a row with a plain role is sent. -/
theorem Step.labelled_key_is_sent :
    let c : Context := { values := [("menu", .str "m")] }
    let around : Surroundings := ⟨.epoch, ⟨"id", 0⟩⟩
    let s : Step := { workflow := "SHOW", input := [("Id", .obj [("key", .str "menu")]), ("V", .null)] }
    let v : Json := .obj [("key", .str "menu"), ("label", .str "Menu")]
    let w := FlagWrite.granting "clerk"
    (∃ r, ((s.withInput "V" (.literal v)).bind c around).1 = .ok r ∧ r.field? "V" = some v) ∧
      ∃ r, (w.step.bind c around).1 = .ok r ∧ w.IsSentAs r := by
  intro c around s v w
  obtain ⟨hliterals, hwrites⟩ := literals_are_sent_as_read c around
  have hs := hliterals s "V" v (by decide) (by decide +kernel)
  have hw := hwrites w (Toggling.wellMade_written _ _ _) (by decide) (by decide +kernel)
  obtain ⟨r, hr⟩ := hw.sent_iff.2 (by decide +kernel)
  exact ⟨hs.plain rfl, r, hr, hw.sent hr⟩

/-- A role that looks like a script keeps the write of its row from being sent, although all other fields have a value.
A literal that is a key alone is not sent, but what stands under the key. -/
theorem Step.literals_are_taken_for_expressions :
    let c : Context := { values := [("menu", .str "m")] }
    let around : Surroundings := ⟨.epoch, ⟨"id", 0⟩⟩
    let w := FlagWrite.granting "r => s"
    (∀ i ∈ w.step.inputs, i.1 ≠ "RoleId" → i.2.resolves c = true) ∧
      (w.step.bind c around).1 = .error (.unsupportedScript "RoleId") ∧
      ((Step.withInput { workflow := "SHOW" } "V" (.literal (.obj [("key", .str "menu")]))).bind c around).1 =
        .ok { workflow := "SHOW", input := [("V", .str "m")] } := by
  intro c around w
  have hothers : ∀ i ∈ w.step.inputs, i.1 ≠ "RoleId" → i.2.resolves c = true := by decide +kernel
  have hw : w.CarriesRow c around :=
    (Toggling.wellMade_written _ _ _).carriesRow (by decide) fun i hi hname =>
      hothers i hi fun heq => hname (by rw [heq]; decide)
  have hplain : looksLikeScript w.row.commandId = false := by decide +kernel
  refine ⟨hothers, ?_, rfl⟩
  cases hbound : (w.step.bind c around).1 with
  | ok r =>
    have hrole : looksLikeScript w.row.roleId = true := by decide +kernel
    rw [(hw.sent_iff.1 ⟨r, hbound⟩).1] at hrole
    cases hrole
  | error err =>
    obtain ⟨herr, -⟩ | ⟨-, hcommand⟩ := hw.refused hbound
    · rw [herr]
    · rw [hplain] at hcommand
      cases hcommand

end BackOffice
