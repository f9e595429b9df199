import BackOffice.Field.View
import BackOffice.Source.Form
import BackOffice.Workflow.Graph

/-!
The definition of a screen: its fields, and its layout, columns and workflow as configuration that is
resolved when it is asked for.
-/

namespace BackOffice

/-- A screen as a server describes it. -/
structure ScreenSchema where
  fields : List FieldSchema := []
  columns : LazyConfig := default
  listLayout : LazyConfig := default
  previewInfo : LazyConfig := default
  /-- The workflow of the screen. -/
  workflow : LazyConfig := default

namespace ScreenSchema

def names : List Record.Names :=
  [["fields"], ["columns"], ["list_layout"], ["previewinfo"], ["txFo", "txfo", "tx_fo"]]

def form : Form := .record (names.map (·, .maybe .any))

/-- The entries of an array that can be read; the others are left out. -/
def readable {α : Type} (read? : Json → Option α) (v : Json) : List α :=
  (v.items?.getD []).filterMap read?

/-- Reads a screen. Columns and preview that are given, be it as null, are declared arrays; where they are not
given, the configuration is the one without text, which is declared an object. -/
def ofJson? (v : Json) : Option ScreenSchema := do
  let [fields, columns, listLayout, previewInfo, workflow] ← Record.slots names v | none
  some {
    fields := (fields.map (readable FieldSchema.ofJson?)).getD []
    columns := ← Record.defaulted (lazyConfig? .array) default columns
    listLayout := ← Record.defaulted (lazyConfig? .object) default listLayout
    previewInfo := ← Record.defaulted (lazyConfig? .array) default previewInfo
    workflow := ← Record.defaulted (lazyConfig? .object) default workflow }

def toJson (s : ScreenSchema) : Json :=
  .obj [("fields", .arr (s.fields.map FieldSchema.toJson)), ("columns", s.columns.toJson),
    ("list_layout", s.listLayout.toJson), ("previewinfo", s.previewInfo.toJson),
    ("txFo", s.workflow.toJson)]

/-- The columns that can be read. -/
def columnList (s : ScreenSchema) : List ColumnSchema :=
  readable ColumnSchema.ofJson? s.columns.value

def previewPaths (s : ScreenSchema) : List String := pathsOf s.previewInfo.value

/-- The workflow graph. -/
def graph (s : ScreenSchema) : WorkflowGraph := .ofJson s.workflow.value

/-- The first field with a code. -/
def field? (s : ScreenSchema) (code : String) : Option FieldSchema :=
  s.fields.find? (·.code = code)

end ScreenSchema

end BackOffice
