import BackOffice.Response.Verdict
import BackOffice.Source.Form
import BackOffice.Table.Page

/-!
What may be configured: how runs treat failures and concurrent groups, and how tables are paged. All of
it has defaults, so that a configuration may be empty.
-/

namespace BackOffice

/-- How runs are carried out. -/
structure RunRules where
  /-- The error keys that end a session. -/
  authKeys : List String := Verdict.defaultAuthKeys
  /-- Whether groups that do not depend on each other run side by side. -/
  parallel : Bool := true
  /-- Whether the end of the session ends the run. -/
  haltOnAuth : Bool := true
deriving DecidableEq, Repr, Inhabited

/-- How tables are shown. -/
structure TableRules where
  pageSize : Nat := 10
  style : PageStyle := .camel
  /-- The text of a cell whose value is missing. -/
  missing : String := "N/A"
deriving DecidableEq, Repr, Inhabited

/-- The whole configuration. -/
structure Settings where
  runs : RunRules := {}
  tables : TableRules := {}
deriving DecidableEq, Repr, Inhabited

namespace RunRules

def fields : List Record.Names := [["auth_error_keys"], ["parallel_groups"], ["halt_on_auth"]]

def form : Form := .record (fields.zip [.list .text, .flag, .flag])

def ofJson? (v : Json) : Option RunRules := do
  let [authKeys, parallel, haltOnAuth] ← Record.slots fields v | none
  some {
    authKeys := ← Record.defaulted (Record.list? Json.text?) Verdict.defaultAuthKeys authKeys
    parallel := ← Record.defaulted Record.bool? true parallel
    haltOnAuth := ← Record.defaulted Record.bool? true haltOnAuth }

def toJson (r : RunRules) : Json :=
  .obj [("auth_error_keys", .arr (r.authKeys.map .str)), ("parallel_groups", .bool r.parallel),
    ("halt_on_auth", .bool r.haltOnAuth)]

/-- Whether an error key ends a session. -/
def isAuthKey (r : RunRules) (key : String) : Bool := r.authKeys.contains key

end RunRules

namespace TableRules

def fields : List Record.Names := [["default_page_size"], ["pagination_style"], ["missing_sentinel"]]

def form : Form := .record (fields.zip [.word, .choice "PaginationStyle", .text])

def ofJson? (v : Json) : Option TableRules := do
  let [pageSize, style, missing] ← Record.slots fields v | none
  some {
    pageSize := ← Record.defaulted Json.nat? 10 pageSize
    style := ← Record.defaulted PageStyle.ofJson? .camel style
    missing := ← Record.defaulted Json.text? "N/A" missing }

def toJson (t : TableRules) : Json :=
  .obj [("default_page_size", .ofNat t.pageSize), ("pagination_style", .str t.style.name),
    ("missing_sentinel", .str t.missing)]

end TableRules

namespace Settings

def fields : List Record.Names := [["orchestrator"], ["table"]]

def form : Form := .record (fields.zip [RunRules.form, TableRules.form])

def ofJson? (v : Json) : Option Settings := do
  let [runs, tables] ← Record.slots fields v | none
  some {
    runs := ← Record.defaulted RunRules.ofJson? {} runs
    tables := ← Record.defaulted TableRules.ofJson? {} tables }

def toJson (s : Settings) : Json := .obj [("orchestrator", s.runs.toJson), ("table", s.tables.toJson)]

/-- Whether tables can be paged by the settings. -/
def isValid (s : Settings) : Bool := s.tables.pageSize != 0

end Settings

end BackOffice
