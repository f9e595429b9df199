import BackOffice.Proofs.Context.Reads
import BackOffice.Proofs.Field.BlankInput
import BackOffice.Proofs.Text.LowerCase
import BackOffice.Table.Screen

/-!
Filters on the columns of a table. The text that is looked for and the text of a cell are brought into lower case apart
from each other, and then the one is looked for in the other. So a cell in which the text stands as it is passes the
filter, unless the text exposes a capital sigma; and for each text that does, there is a cell that is held back.
-/

namespace BackOffice.TableScreen

/-- The text of a row's cell in the column of a code, if there is such a column. -/
def cell? (t : TableScreen) (column : String) (row : Json) : Option String :=
  (t.columns.find? (·.code == column)).map (·.cell t.rules.missing row)

/-- Whether a row passes the filter of a column after a text has been looked for in it. -/
def admits (t : TableScreen) (column text : String) (row : Json) : Bool :=
  let t := t.setFilter column text
  (t.filters.find? column).all (t.passes (ColumnSchema.cells t.columns t.rules.missing row) column)

/-- A table of one column with one cell. -/
def ofCell (cell : String) : TableScreen :=
  of [{ code := "name" }] (.inline [.obj [("name", .str cell)]]) {}

variable {t : TableScreen} {column text cell : String} {row : Json}

theorem passes_cells (t : TableScreen) (column needle : String) (row : Json) :
    t.passes (ColumnSchema.cells t.columns t.rules.missing row) column needle =
      (t.cell? column row).all fun cell => hasPart needle.toList (lowerCase cell).toList := by
  rw [passes, cell?, List.find?_eq_bind_findIdx?_getElem?]
  cases h : t.columns.findIdx? (·.code == column) with
  | none => rfl
  | some i =>
    obtain ⟨hi, -⟩ := List.findIdx?_eq_some_iff_getElem.1 h
    simp [ColumnSchema.cells, hi]

theorem find?_filters_setFilter (t : TableScreen) (column text : String) :
    (t.setFilter column text).filters.find? column =
      if isBlankText text then none else some (lowerCase (trim text)) := by
  rw [setFilter]
  split
  · exact (Keyed.find?_erase t.filters column column).trans (if_pos rfl)
  · exact Keyed.find?_put_self t.filters column _

/-- A row passes the filter of a column that is there if the one text in lower case is in the other. A blank text is in
every one. -/
theorem admits_iff (hcell : t.cell? column row = some cell) :
    t.admits column text row = true ↔ LowerCase.ofChars [] (trim text).toList <:+: LowerCase.ofChars [] cell.toList := by
  rw [admits, find?_filters_setFilter]
  by_cases h : isBlankText text
  · rw [if_pos h, trim_of_isBlankText h]
    exact iff_of_true rfl List.nil_infix
  · have hpasses : t.passes (ColumnSchema.cells t.columns t.rules.missing row) column (lowerCase (trim text)) =
        hasPart (lowerCase (trim text)).toList (lowerCase cell).toList := by
      rw [passes_cells, hcell, Option.all_some]
    rw [if_neg h, Option.all_some, ← toList_lowerCase, ← toList_lowerCase, ← hasPart_iff, ← hpasses]
    rfl

/-- A filter on its own shows the rows that it admits. -/
theorem visibleRows_setFilter (t : TableScreen) (column text : String) :
    (t.clearFilters.setFilter column text).visibleRows =
      (t.rows.filter (t.admits column text)).map (ColumnSchema.cells t.columns t.rules.missing) := by
  rw [visibleRows, List.filter_map]
  congr 2
  funext row
  rw [admits, find?_filters_setFilter]
  by_cases h : isBlankText text
  · simp [setFilter, clearFilters, Keyed.erase, h]
  · simp [setFilter, clearFilters, Keyed.put, passes, h]

/-- A cell passes the filter if the text stands in it as it is and no letter with case adjoins. -/
theorem admits_of_word {front back : List Char} (hcell : t.cell? column row = some cell)
    (hpart : cell.toList = front ++ (trim text).toList ++ back) (hfront : ¬LowerCase.meetsCased front.reverse)
    (hback : ¬LowerCase.meetsCased back) : t.admits column text row = true := by
  rw [admits_iff hcell, hpart, LowerCase.ofChars_append, LowerCase.lower_of_not_meetsCased hfront hback]
  exact List.infix_append _ _ _

/-- Every cell in which a text stands as it is passes the filter, whatever the table, if and only if the text exposes no
capital sigma. -/
theorem admits_literal_iff (text : String) :
    (∀ (t : TableScreen) (column : String) (row : Json) (cell : String), t.cell? column row = some cell →
      (trim text).toList <:+: cell.toList → t.admits column text row = true) ↔
    ¬LowerCase.ExposesSigma (trim text).toList := by
  rw [← LowerCase.always_found_iff]
  constructor
  · intro hpass front back
    have hcell (cell : String) : (ofCell cell).cell? "name" (.obj [("name", .str cell)]) = some cell := rfl
    have hadmits := hpass _ _ _ _ (hcell (String.ofList (front ++ (trim text).toList ++ back)))
      (by rw [String.toList_ofList]; exact List.infix_append _ _ _)
    rwa [admits_iff (hcell _), String.toList_ofList] at hadmits
  · rintro hfound t column row cell hcell ⟨front, back, hpart⟩
    rw [admits_iff hcell, ← hpart]
    exact hfound front back

/-- The rows that a filter on its own shows are those that it admits. A text that stands in a cell as it is passes, if it
exposes no capital sigma, and only then wherever it stands; any text passes where no letter with case adjoins it. -/
theorem literal_matches_pass_iff (text : String) :
    (∀ (t : TableScreen) (column : String), (t.clearFilters.setFilter column text).visibleRows =
        (t.rows.filter (t.admits column text)).map (ColumnSchema.cells t.columns t.rules.missing)) ∧
      ((∀ (t : TableScreen) (column : String) (row : Json) (cell : String), t.cell? column row = some cell →
          (trim text).toList <:+: cell.toList → t.admits column text row = true) ↔
        ¬LowerCase.ExposesSigma (trim text).toList) ∧
      ∀ (t : TableScreen) (column : String) (row : Json) (cell : String) (front back : List Char),
        t.cell? column row = some cell → cell.toList = front ++ (trim text).toList ++ back →
          ¬LowerCase.meetsCased front.reverse → ¬LowerCase.meetsCased back → t.admits column text row = true := by
  refine ⟨fun t column => t.visibleRows_setFilter column text, admits_literal_iff text, ?_⟩
  intro t column row cell front back hcell hpart hfront hback
  exact admits_of_word hcell hpart hfront hback

theorem capital_sigma_hidden :
    (ofCell "ΟΔΟΣ").cell? "name" (.obj [("name", .str "ΟΔΟΣ")]) = some "ΟΔΟΣ" ∧
      (trim "Σ").toList <:+: "ΟΔΟΣ".toList ∧
      (ofCell "ΟΔΟΣ").admits "name" "Σ" (.obj [("name", .str "ΟΔΟΣ")]) = false ∧
      ((ofCell "ΟΔΟΣ").setFilter "name" "Σ").visibleRows = [] :=
  ⟨rfl, by decide, by decide +kernel, by decide +kernel⟩

end BackOffice.TableScreen
