import BackOffice.Run.Graph
import BackOffice.Screen.Schema
import BackOffice.Table.Page

/-!
A table on a screen: the page that was asked for last, the rows that were accepted last, and filters on
what is shown. The rows are there from the start, or a workflow is run for each page.
-/

namespace BackOffice

/-- Where the rows of a table come from. -/
inductive TableSource where
  /-- All rows are there. -/
  | inline (rows : List Json)
  /-- A workflow is run for a page. -/
  | remote (graph : WorkflowGraph)

/-- A table. -/
structure TableScreen where
  columns : List ColumnSchema
  rules : TableRules
  source : TableSource
  /-- The page that was asked for last. -/
  page : Page
  rows : List Json := []
  total : Option Nat := none
  /-- The texts looked for, in lower case, by column. -/
  filters : Keyed String := []

/-- A page with its rows. -/
structure TablePage where
  page : Page
  rows : List Json
  total : Option Nat

namespace TableScreen

/-- Fills the table with a page of rows that are all there. -/
def fill (t : TableScreen) (all : List Json) (page : Page) : TableScreen :=
  { t with rows := page.slice all, total := some all.length }

/-- A table as it is first shown. -/
def of (columns : List ColumnSchema) (source : TableSource) (rules : TableRules) : TableScreen :=
  let t : TableScreen := { columns, rules, source, page := .first rules.pageSize }
  match source with
  | .inline all => t.fill all t.page
  | .remote _ => t

/-- What the table holds. -/
def current (t : TableScreen) : TablePage := ⟨t.page, t.rows, t.total⟩

/-- The page that a value asks for. -/
def pageOf (t : TableScreen) (v : Json) : Page := .ofJson v t.rules.pageSize

/-- Asks for a page. -/
def ask (t : TableScreen) (page : Page) : TableScreen := { t with page }

/-- Binds a page, so that steps can read it. -/
def bindPage (t : TableScreen) (page : Page) (c : Context) : Context := page.writeInto t.rules.style c

/-- Takes up the rows of a page that a workflow loaded. -/
def accept (t : TableScreen) (o : GraphOutcome) : Except ScreenError TableScreen :=
  if o.isSuccess then
    let set := (o.lastData?.map RowSet.ofJson).getD {}
    .ok { t with rows := set.rows, total := set.total }
  else .error o.failure

/-- Looks for a text in a column; a blank text takes the filter away. -/
def setFilter (t : TableScreen) (column text : String) : TableScreen :=
  { t with filters :=
      if isBlankText text then t.filters.erase column
      else t.filters.put column (lowerCase (trim text)) }

def clearFilters (t : TableScreen) : TableScreen := { t with filters := [] }

/-- Whether the cells of a row pass a filter. A filter on a column that is not there lets all pass. -/
def passes (t : TableScreen) (cells : List String) (column needle : String) : Bool :=
  match t.columns.findIdx? (·.code == column) with
  | none => true
  | some i => hasPart needle.toList (lowerCase (cells[i]?.getD "")).toList

/-- The cells of the rows that pass all filters. -/
def visibleRows (t : TableScreen) : List (List String) :=
  (t.rows.map (ColumnSchema.cells t.columns t.rules.missing)).filter fun cells =>
    t.filters.all fun f => t.passes cells f.1 f.2

end TableScreen

end BackOffice
