import BackOffice.Decimal.Reading
import BackOffice.Field.View

/-!
The rows in the data of a response, and the text of their cells.
-/

namespace BackOffice

/-- A count given as a number or as its text. -/
def lenientCount? : Json → Option Nat
  | .str s => Numeral.word? (trim s)
  | v => v.nat?

/-- Rows, with the number of all rows there are, if that is known. -/
structure RowSet where
  rows : List Json := []
  total : Option Nat := none
deriving Inhabited

namespace RowSet

/-- The names under which an object may hold its rows. -/
def rowKeys : List String := ["rows", "list", "items", "data", "records"]

/-- The names under which an object may hold the number of all rows; the first that is there counts. -/
def totalKeys : List String := ["total", "totalCount", "total_count"]

/-- The rows of an array, or those that an object holds. -/
def ofJson : Json → RowSet
  | .arr items => { rows := items }
  | .obj members => {
      rows := (rowKeys.findSome? fun key => (Keyed.find? members key).bind Json.items?).getD []
      total := (totalKeys.findSome? (Keyed.find? members)).bind lenientCount? }
  | _ => {}

end RowSet

namespace ColumnSchema

/-- The text of a column's cell in a row; a missing or null value has a text of its own. -/
def cell (column : ColumnSchema) (missing : String) (row : Json) : String :=
  match (row.path? column.code).filter (!·.isNull) with
  | none => missing
  | some v => (FieldView.ofTag column.inputType column.config.resolved).display v

/-- The texts of a row's cells. -/
def cells (columns : List ColumnSchema) (missing : String) (row : Json) : List String :=
  columns.map (·.cell missing row)

end ColumnSchema

end BackOffice
