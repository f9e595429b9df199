import BackOffice.Proofs.Record.Written
import BackOffice.Screen.Schema
import Mathlib.Data.List.Basic

/-!
The written form of a screen. A screen that was read keeps all of its parts when it is written and read again, but for
one thing: columns and preview that the value did not give are declared an object before, and an array after. What they
resolve to, and so all that a screen shows, stays the same.
-/

namespace BackOffice

/-! ### Configurations -/

theorem lazyConfig?_toJson (shape : ConfigShape) (c : LazyConfig) :
    lazyConfig? shape c.toJson = some (.ofText shape c.raw) := by
  unfold LazyConfig.toJson
  cases c.raw <;> rfl

/-- A configuration that was read is not resolved yet. -/
theorem eq_ofText_of_lazyConfig? {shape : ConfigShape} {v : Json} {c : LazyConfig} (h : lazyConfig? shape v = some c) :
    c = .ofText shape c.raw := by
  obtain rfl := Option.some.inj h
  rfl

/-- A configuration that was read, or was not given. -/
theorem eq_ofText_of_defaulted {shape : ConfigShape} {slot : Option Json} {c : LazyConfig}
    (h : Record.defaulted (lazyConfig? shape) default slot = some c) :
    c = .ofText (if slot.isSome then shape else .object) c.raw ∧ (slot = none → c.raw = none) := by
  cases slot with
  | none =>
    obtain rfl := Option.some.inj h
    exact ⟨rfl, fun _ => rfl⟩
  | some v => exact ⟨eq_ofText_of_lazyConfig? h, nofun⟩

/-! ### Fields -/

namespace FieldOption

theorem toJson_eq (o : FieldOption) :
    o.toJson = .obj (Record.written ["value", "label"] [some o.value, some (.str o.label)]) := rfl

theorem ofJson?_toJson (o : FieldOption) : ofJson? o.toJson = some o := by
  have hslots : Record.slots fields o.toJson = some [some o.value, some (.str o.label)] :=
    o.toJson_eq ▸ Record.slots_written (by decide) rfl
  rw [ofJson?, hslots]
  rfl

end FieldOption

namespace FieldSchema

def names : List String := ["code", "inputtype", "label", "required", "config", "options"]

/-- What is written for a field. -/
def values (f : FieldSchema) : List (Option Json) :=
  [some (.str f.code), some (.str f.inputType), some (.str f.label), some (.bool f.required), some f.config.toJson,
    f.options.map fun options => .arr (options.map FieldOption.toJson)]

theorem toJson_eq (f : FieldSchema) : f.toJson = .obj (Record.written names f.values) := by
  obtain ⟨code, inputType, label, required, config, options⟩ := f
  cases options <;> rfl

/-- A field whose configuration was not asked for reads back as it was written. -/
theorem ofJson?_toJson {f : FieldSchema} (h : f.config = .ofText .object f.config.raw) : ofJson? f.toJson = some f := by
  have hslots : Record.slots fields f.toJson = some f.values :=
    f.toJson_eq ▸ Record.slots_written (by decide) rfl
  have hconfig : Record.defaulted (lazyConfig? .object) default (some f.config.toJson) = some f.config :=
    (lazyConfig?_toJson .object f.config).trans (congrArg some h.symm)
  have hoptions := Record.optional_map (Record.list? FieldOption.ofJson?) (fun options => .arr (options.map FieldOption.toJson))
    (fun _ => Record.list?_map fun o _ => o.ofJson?_toJson) nofun f.options
  simp only [ofJson?, hslots, values, Option.bind_eq_bind, Option.bind_some, hconfig, hoptions]
  rfl

theorem config_of_ofJson? {v : Json} {f : FieldSchema} (h : ofJson? v = some f) :
    f.config = .ofText .object f.config.raw := by
  simp only [ofJson?, Option.bind_eq_bind, Option.bind_eq_some_iff] at h
  obtain ⟨out, -, h⟩ := h
  split at h
  · simp only [Option.bind_eq_some_iff, Option.some.injEq] at h
    obtain ⟨_, -, _, -, _, -, config, hconfig, _, -, rfl⟩ := h
    have hread := (eq_ofText_of_defaulted hconfig).1
    rwa [ite_self] at hread
  · cases h

end FieldSchema

/-! ### Screens -/

namespace ScreenSchema

def memberNames : List String := ["fields", "columns", "list_layout", "previewinfo", "txFo"]

/-- What is written for a screen. -/
def values (s : ScreenSchema) : List (Option Json) :=
  [some (.arr (s.fields.map FieldSchema.toJson)), some s.columns.toJson, some s.listLayout.toJson,
    some s.previewInfo.toJson, some s.workflow.toJson]

theorem toJson_eq (s : ScreenSchema) : s.toJson = .obj (Record.written memberNames s.values) := rfl

/-- A screen comes from the values of its members: every part is unresolved, and has its declared shape if it was
given. -/
theorem exists_slots_of_ofJson? {v : Json} {s : ScreenSchema} (h : ofJson? v = some s) :
    ∃ fields columns listLayout previewInfo workflow,
      Record.slots names v = some [fields, columns, listLayout, previewInfo, workflow] ∧
        (∀ f ∈ s.fields, f.config = .ofText .object f.config.raw) ∧
        Record.defaulted (lazyConfig? .array) default columns = some s.columns ∧
        Record.defaulted (lazyConfig? .object) default listLayout = some s.listLayout ∧
        Record.defaulted (lazyConfig? .array) default previewInfo = some s.previewInfo ∧
        Record.defaulted (lazyConfig? .object) default workflow = some s.workflow := by
  simp only [ofJson?, Option.bind_eq_bind, Option.bind_eq_some_iff] at h
  obtain ⟨out, hslots, h⟩ := h
  split at h
  next fields columns listLayout previewInfo workflow =>
    simp only [Option.bind_eq_some_iff, Option.some.injEq] at h
    obtain ⟨_, hcolumns, _, hlayout, _, hpreview, _, hworkflow, rfl⟩ := h
    refine ⟨fields, columns, listLayout, previewInfo, workflow, hslots, ?_, hcolumns, hlayout, hpreview, hworkflow⟩
    intro f hf
    cases fields with
    | none => cases hf
    | some items =>
      obtain ⟨item, -, hitem⟩ := List.mem_filterMap.1 hf
      exact FieldSchema.config_of_ofJson? hitem
  · cases h

/-- A screen whose parts are unresolved reads back with the shapes that are declared for it. -/
theorem ofJson?_toJson {s : ScreenSchema} (hfields : ∀ f ∈ s.fields, f.config = .ofText .object f.config.raw)
    (hlayout : s.listLayout = .ofText .object s.listLayout.raw) (hworkflow : s.workflow = .ofText .object s.workflow.raw) :
    ofJson? s.toJson =
      some { s with columns := s.columns.withShape .array, previewInfo := s.previewInfo.withShape .array } := by
  have hslots : Record.slots names s.toJson = some s.values :=
    s.toJson_eq ▸ Record.slots_written (by decide) rfl
  have hread : readable FieldSchema.ofJson? (.arr (s.fields.map FieldSchema.toJson)) = s.fields := by
    have heach : ∀ f ∈ s.fields, (FieldSchema.ofJson? ∘ FieldSchema.toJson) f = some f :=
      fun f hf => FieldSchema.ofJson?_toJson (hfields f hf)
    rw [readable, Json.items?, Option.getD_some, List.filterMap_map, List.filterMap_congr heach, List.filterMap_some]
  simp only [ofJson?, hslots, values, Option.bind_eq_bind, Option.bind_some, Record.defaulted, lazyConfig?_toJson,
    Option.map_some, Option.getD_some, hread, ← hlayout, ← hworkflow]
  rfl

/-- A configuration under the shape of an array is what it was exactly when it was given. -/
theorem withShape_eq_iff {slot : Option Json} {c : LazyConfig}
    (h : Record.defaulted (lazyConfig? .array) default slot = some c) : c.withShape .array = c ↔ slot.isSome = true := by
  cases slot with
  | none =>
    obtain rfl := Option.some.inj h
    constructor
    · intro heq
      cases congrArg LazyConfig.shape heq
    · intro hgiven
      cases hgiven
  | some v => exact ⟨fun _ => rfl, fun _ => (eq_ofText_of_lazyConfig? h).symm⟩

/-- It has the items that it had: what was not given is empty under either shape. -/
theorem items?_withShape {slot : Option Json} {c : LazyConfig}
    (h : Record.defaulted (lazyConfig? .array) default slot = some c) :
    (c.withShape .array).value.items?.getD [] = c.value.items?.getD [] := by
  cases slot with
  | none =>
    obtain rfl := Option.some.inj h
    rfl
  | some v => rw [(withShape_eq_iff h).2 rfl]

/-- How a screen compares with what its written form reads back as. Columns and preview come back as they were if
they were given, and show the same in any case. -/
structure Survives (columns previewInfo : Option Json) (s back : ScreenSchema) : Prop where
  fields : back.fields = s.fields
  listLayout : back.listLayout = s.listLayout
  workflow : back.workflow = s.workflow
  columns_raw : back.columns.raw = s.columns.raw
  columns_iff : back.columns = s.columns ↔ columns.isSome = true
  previewInfo_raw : back.previewInfo.raw = s.previewInfo.raw
  previewInfo_iff : back.previewInfo = s.previewInfo ↔ previewInfo.isSome = true
  columnList : back.columnList = s.columnList
  previewPaths : back.previewPaths = s.previewPaths
  graph : back.graph = s.graph

/-- The written form of every screen that can be read can be read again. All parts come back as they were, but for the
declared shape of columns and preview that were not given; and the screen shows the same. -/
theorem written_screen_reads_back (v : Json) (s : ScreenSchema) (h : ofJson? v = some s) :
    ∃ fields columns listLayout previewInfo workflow back,
      Record.slots names v = some [fields, columns, listLayout, previewInfo, workflow] ∧
        ofJson? s.toJson = some back ∧ Survives columns previewInfo s back := by
  obtain ⟨fields, columns, listLayout, previewInfo, workflow, hslots, hfields, hcolumns, hlayout, hpreview, hworkflow⟩ :=
    exists_slots_of_ofJson? h
  have hlayout' := (eq_ofText_of_defaulted hlayout).1
  have hworkflow' := (eq_ofText_of_defaulted hworkflow).1
  rw [ite_self] at hlayout' hworkflow'
  refine ⟨fields, columns, listLayout, previewInfo, workflow, _, hslots, ofJson?_toJson hfields hlayout' hworkflow', ?_⟩
  exact {
    fields := rfl
    listLayout := rfl
    workflow := rfl
    columns_raw := rfl
    columns_iff := withShape_eq_iff hcolumns
    previewInfo_raw := rfl
    previewInfo_iff := withShape_eq_iff hpreview
    columnList := congrArg (List.filterMap ColumnSchema.ofJson?) (items?_withShape hcolumns)
    previewPaths := congrArg (List.filterMap _) (items?_withShape hpreview)
    graph := rfl }

theorem screen_without_preview_reads_back :
    let v := Json.obj [("columns", .arr [.str "a"]), ("fields", .arr [.null, .obj [("code", .str "a"), ("config", .arr [])]])]
    let s : ScreenSchema := {
      fields := [{ code := "a", config := .ofText .object (some (Json.arr []).text) }]
      columns := .ofText .array (some (Json.arr [.str "a"]).text) }
    ofJson? v = some s ∧ ∃ back, ofJson? s.toJson = some back ∧ back.fields = s.fields ∧
      back.columns = s.columns ∧ back.previewInfo ≠ s.previewInfo ∧ back.previewPaths = s.previewPaths := by
  intro v s
  have hread : ofJson? v = some s := rfl
  have hslots : Record.slots names v =
      some [some (.arr [.null, .obj [("code", .str "a"), ("config", .arr [])]]), some (.arr [.str "a"]), none, none, none] := rfl
  obtain ⟨_, _, _, _, _, back, hslots', hback, hsurvives⟩ := written_screen_reads_back v s hread
  cases hslots.symm.trans hslots'
  exact ⟨hread, back, hback, hsurvives.fields, hsurvives.columns_iff.2 rfl,
    fun heq => Bool.noConfusion (hsurvives.previewInfo_iff.1 heq), hsurvives.previewPaths⟩

/-- Not every screen keeps the declared shapes of its parts: columns that are not given are an object, and are written
as null, which is read as an array. -/
theorem missing_columns_change_shape :
    ¬∀ (v : Json) (s : ScreenSchema), ofJson? v = some s → ∃ back, ofJson? s.toJson = some back ∧
      back.fields = s.fields ∧ back.columns.same s.columns = true ∧ back.listLayout.same s.listLayout = true ∧
      back.previewInfo.same s.previewInfo = true ∧ back.workflow.same s.workflow = true := by
  intro h
  obtain ⟨back, hback, -, hcolumns, -⟩ := h (.obj []) {} rfl
  obtain rfl : ({ columns := .ofText .array none, previewInfo := .ofText .array none } : ScreenSchema) = back :=
    Option.some.inj hback
  cases hcolumns

end ScreenSchema

end BackOffice
