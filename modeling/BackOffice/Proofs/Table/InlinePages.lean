import BackOffice.Proofs.Table.Requests

/-!
Pages of a table whose rows are all there. A page is cut out of the rows at once, and its place is counted in words of
64 bits, which is as good as counting without a bound, for there are never more rows than that. So after any course
the table shows the rows at the places of its page, and pages that are turned one after another show every row once.
-/

namespace BackOffice

namespace Page

variable {α : Type}

/-- The rows at the places of a page, counted without a bound. -/
def window (p : Page) (rows : List α) : List α := rows.extract ((p.index - 1) * p.size) (p.index * p.size)

theorem window_eq (p : Page) (rows : List α) :
    p.window rows = (rows.drop ((p.index - 1) * p.size)).take p.size := by
  have hwidth : p.index * p.size - (p.index - 1) * p.size = p.size := by
    rw [← Nat.sub_mul, Nat.sub_sub_self p.index_pos, Nat.one_mul]
  rw [window, List.extract_eq_take_drop, hwidth]

/-- Where the offset of a page is held at its bound, there are no rows in either count. -/
theorem slice_eq_window (p : Page) {rows : List α} (hrows : rows.length ≤ maxOffset) :
    p.slice rows = p.window rows := by
  rw [window_eq, slice, offset]
  by_cases h : (p.index - 1) * p.size ≤ maxOffset
  · rw [Nat.min_eq_left h]
  · have hbeyond : maxOffset ≤ (p.index - 1) * p.size := Nat.le_of_not_le h
    rw [Nat.min_eq_right hbeyond, List.drop_eq_nil_of_le hrows, List.drop_eq_nil_of_le (hrows.trans hbeyond)]

/-- The pages in front and the next one are the rows up to its end. -/
theorem take_append_window (rows : List α) (count : Nat) {size : Nat} (hsize : size ≠ 0) :
    rows.take (count * size) ++ (of (count + 1) size).window rows = rows.take ((count + 1) * size) := by
  have hindex : (of (count + 1) size).index = count + 1 := index_of (Nat.succ_ne_zero count) size
  rw [window_eq, hindex, size_of _ hsize, Nat.add_sub_cancel, Nat.succ_mul, List.take_add]

end Page

namespace TableScreen

variable {t : TableScreen} {all : List Json} {rules : TableRules}

/-- Whether a table has its rows from a list and shows those at the places of its page, with the number of all. -/
structure ShowsInline (t : TableScreen) (rules : TableRules) (all : List Json) : Prop where
  rules : t.rules = rules
  source : t.source = .inline all
  current : t.current = ⟨t.page, t.page.window all, some all.length⟩

theorem ShowsInline.fill (h : t.ShowsInline rules all) (hall : all.length ≤ Page.maxOffset) (page : Page) :
    ((t.ask page).fill all page).ShowsInline rules all where
  rules := h.rules
  source := h.source
  current := congrArg (TablePage.mk page · _) (page.slice_eq_window hall)

theorem showsInline_of (columns : List ColumnSchema) (rules : TableRules) (hall : all.length ≤ Page.maxOffset) :
    (of columns (.inline all) rules).ShowsInline rules all where
  rules := rfl
  source := rfl
  current := congrArg (TablePage.mk _ · _) (Page.slice_eq_window _ hall)

end TableScreen

/-- The rows that callers learn of. -/
def Incident.rows : Incident → List Json
  | answered _ (.page shown) => shown.rows
  | _ => []

namespace Rehearsal

variable {s s' : Rehearsal} {t : TableScreen} {place : Nat} {c : Command} {page : Page} {all : List Json}
  {rules : TableRules} {new : List Incident}

/-- A command that asks for a page of rows that are all there is answered with them. -/
theorem command_inline (ht : s.table = some (t, place)) (hinline : t.ShowsInline rules all)
    (hall : all.length ≤ Page.maxOffset) (hpage : t.pageFor? t.page c = some page) :
    s.command c = ({ s with table := some ((t.ask page).fill all page, place) },
      .done (.page ⟨page, page.window all, some all.length⟩)) := by
  have hsource : (t.ask page).source = .inline all := hinline.source
  rw [command_eq_loadPage ht hpage, loadPage, hsource, ← page.slice_eq_window hall]
  rfl

/-! ### Courses -/

/-- Whether there is a table that shows rows from a list, and no request for a page is on its way. -/
structure PagesInline (s : Rehearsal) (place : Nat) (rules : TableRules) (all : List Json) : Prop where
  table : ∃ t, s.table = some (t, place) ∧ t.ShowsInline rules all
  idle : ∀ e ∈ s.machines, e.2.purpose.lane? ≠ some .page

namespace PagesInline

theorem command (h : s.PagesInline place rules all) (hall : all.length ≤ Page.maxOffset) (c : Command) :
    (s.command c).1.PagesInline place rules all := by
  obtain ⟨t, ht, hinline⟩ := h.table
  cases hpage : t.pageFor? t.page c with
  | some page =>
    rw [command_inline ht hinline hall hpage]
    exact ⟨⟨_, rfl, hinline.fill hall page⟩, h.idle⟩
  | none =>
    obtain ⟨⟨filters, ht'⟩, -⟩ := command_of_no_page ht hpage
    refine ⟨⟨_, ht', hinline.rules, hinline.source, hinline.current⟩, fun e he => ?_⟩
    by_cases hlane : c.lane? = some .page
    · -- Of the commands for pages only the one that is refused asks for none.
      cases c with
      | setPageSize size =>
        obtain rfl : size = 0 := by simpa [TableScreen.pageFor?] using hpage
        rw [command_no_size ht] at he
        exact h.idle e he
      | refresh | setPage index | requestPage raw => cases hpage
      | _ => cases hlane
    · obtain hold | hnew := (lane?_of_command s c).1 e he
      · exact h.idle e hold
      · rwa [hnew]

theorem takes (h : s.PagesInline place rules all) (hall : all.length ≤ Page.maxOffset) (hs : Takes s s' new) :
    s'.PagesInline place rules all := by
  cases hs with
  | command c => exact h.command hall c
  | @moved ticket m g hm hg =>
    have hlane : m.purpose.lane? ≠ some .page := h.idle _ hm
    refine ⟨h.table, fun e he => ?_⟩
    obtain rfl | he := mem_setMachine he
    · exact hlane
    · exact h.idle e he
  | @concluded ticket m hm hover =>
    have htable := table_finish_of_others (s := s.without ticket) (h.idle _ hm)
    refine ⟨?_, fun e he => ?_⟩
    · rw [htable]
      exact h.table
    · rw [(settles_finish (s.without ticket) m).machines, mem_without] at he
      exact h.idle e he.1
  | elsewhere b => exact ⟨h.table, h.idle⟩
  | nothing => exact h

theorem after (h : s.PagesInline place rules all) (hall : all.length ≤ Page.maxOffset) (cues : List Cue) :
    (s.after cues).PagesInline place rules all :=
  after_of_takes (P := fun _ s => s.PagesInline place rules all) (fun hs h => h.takes hall hs) h cues

end PagesInline

/-! ### Turning pages -/

/-- The pages up to a count, one after another. -/
def turns (count : Nat) : List Cue := (List.range count).map fun i => .ask (.setPage (i + 1))

/-- The rows that are answered when a page size is set and the pages up to a count are turned. -/
def turned (s : Rehearsal) (size count : Nat) : List Json :=
  ((s.after [.ask (.setPageSize size)]).told (turns count)).flatMap Incident.rows

theorem turns_succ (count : Nat) : turns (count + 1) = turns count ++ [.ask (.setPage (count + 1))] := by
  rw [turns, List.range_succ, List.map_append]
  rfl

/-- The table after a command that asks for a page of rows that are all there. -/
theorem table_after_inline (ht : s.table = some (t, place)) (hinline : t.ShowsInline rules all)
    (hall : all.length ≤ Page.maxOffset) (hpage : t.pageFor? t.page c = some page) :
    (s.after [.ask c]).table = some ((t.ask page).fill all page, place) := by
  have hafter : s.after [.ask c] = (s.command c).1 := rfl
  rw [hafter, command_inline ht hinline hall hpage]

theorem rows_told_inline (ht : s.table = some (t, place)) (hinline : t.ShowsInline rules all)
    (hall : all.length ≤ Page.maxOffset) (hpage : t.pageFor? t.page c = some page) :
    (s.told [.ask c]).flatMap Incident.rows = page.window all := by
  simp [told, tells, tellsOf, newMachines, command_inline ht hinline hall hpage, Incident.rows]

/-- The pages that are turned have the rows up to the end of the last one, and the page size stays. -/
theorem rows_turns (ht : s.table = some (t, place)) (hinline : t.ShowsInline rules all)
    (hall : all.length ≤ Page.maxOffset) (count : Nat) :
    (s.told (turns count)).flatMap Incident.rows = all.take (count * t.page.size) ∧
      ∃ t', (s.after (turns count)).table = some (t', place) ∧ t'.ShowsInline rules all ∧
        t'.page.size = t.page.size := by
  induction count with
  | zero =>
    rw [Nat.zero_mul]
    exact ⟨rfl, t, ht, hinline, rfl⟩
  | succ count ih =>
    obtain ⟨hrows, t', ht', hinline', hsize⟩ := ih
    have hwidth : t'.page.size ≠ 0 := Nat.ne_of_gt t'.page.size_pos
    have hpage : t'.pageFor? t'.page (.setPage (count + 1)) = some (.of (count + 1) t'.page.size) := rfl
    rw [turns_succ, told_append, List.flatMap_append, hrows, rows_told_inline ht' hinline' hall hpage, ← hsize,
      Page.take_append_window all count hwidth, after_append, table_after_inline ht' hinline' hall hpage]
    exact ⟨rfl, _, rfl, hinline'.fill hall _, Page.size_of _ hwidth⟩

theorem turned_inline (ht : s.table = some (t, place)) (hinline : t.ShowsInline rules all)
    (hall : all.length ≤ Page.maxOffset) {size : Nat} (hsize : size ≠ 0) (count : Nat) :
    s.turned size count = all.take (count * size) := by
  have hwidth : (Page.first size).size = size := Page.size_of 1 hsize
  have hsized := table_after_inline ht hinline hall (c := .setPageSize size) (if_neg hsize)
  have hrows := (rows_turns hsized (hinline.fill hall _) hall count).1
  rw [turned, hrows]
  exact congrArg (fun n => all.take (count * n)) hwidth

/-- After any course a table whose rows are all there shows those at the places of its page, counted without a bound,
with their number. Every command that asks for a page is answered with the rows at its places; a page size of zero is
refused, and any other leads back to the first page. The pages of one size that are turned one after another show all
rows, each once and in order. No list has more rows than a word of 64 bits counts. -/
theorem inline_pages_lose_nothing {columns : List ColumnSchema}
    (ht : s.table = some (.of columns (.inline all) rules, place))
    (hidle : ∀ e ∈ s.machines, e.2.purpose.lane? ≠ some .page) (hall : all.length ≤ Page.maxOffset)
    (cues : List Cue) :
    ∃ t, (s.after cues).table = some (t, place) ∧ t.rules = rules ∧ 1 ≤ t.page.index ∧ 1 ≤ t.page.size ∧
      t.current = ⟨t.page, t.page.window all, some all.length⟩ ∧
      (∀ c page, t.pageFor? t.page c = some page →
        ∃ t', (s.after cues).command c = ({ s.after cues with table := some (t', place) },
            .done (.page ⟨page, page.window all, some all.length⟩)) ∧
          t'.current = ⟨page, page.window all, some all.length⟩) ∧
      (s.after cues).command (.setPageSize 0) = (s.after cues, .done (.refused .invalidPageSize)) ∧
      ∀ size, size ≠ 0 →
        (∃ page, t.pageFor? t.page (.setPageSize size) = some page ∧ page.index = 1 ∧ page.size = size) ∧
          ∀ count, (s.after cues).turned size count = all.take (count * size) ∧
            (all.length ≤ count * size → (s.after cues).turned size count = all) := by
  have hstart : s.PagesInline place rules all :=
    ⟨⟨_, ht, TableScreen.showsInline_of columns rules hall⟩, hidle⟩
  obtain ⟨t, ht', hinline⟩ := (hstart.after hall cues).table
  refine ⟨t, ht', hinline.rules, t.page.index_pos, t.page.size_pos, hinline.current, fun c page hpage => ?_,
    command_no_size ht', fun size hsize => ⟨?_, fun count => ?_⟩⟩
  · exact ⟨_, command_inline ht' hinline hall hpage, (hinline.fill hall page).current⟩
  · exact ⟨_, if_neg hsize, rfl, Page.size_of 1 hsize⟩
  · have hturned := turned_inline ht' hinline hall hsize count
    exact ⟨hturned, fun hlength => hturned.trans (List.take_of_length_le hlength)⟩

/-- A table of three rows. -/
def threeRows : Rehearsal where
  surroundings := ⟨.epoch, ⟨"id", 0⟩⟩
  handles := { cells := [{}] }
  table := some (.of [] (.inline [.ofNat 1, .ofNat 2, .ofNat 3]) {}, 0)

/-- Wherever the table stands before, here on a page far behind all rows. -/
theorem three_rows_on_two_pages :
    (threeRows.after [.ask (.setPage (2 ^ 64))]).turned 2 2 = [.ofNat 1, .ofNat 2, .ofNat 3] := by
  have hidle : ∀ e ∈ threeRows.machines, e.2.purpose.lane? ≠ some .page :=
    fun e he => absurd he List.not_mem_nil
  obtain ⟨t, -, -, -, -, -, -, -, hsizes⟩ :=
    inline_pages_lose_nothing (s := threeRows) rfl hidle (by decide) [.ask (.setPage (2 ^ 64))]
  obtain ⟨-, hturned⟩ := hsizes 2 (by decide)
  exact (hturned 2).2 (by decide)

end Rehearsal

end BackOffice
