import BackOffice.Proofs.Rehearsal.Lanes
import Mathlib

/-!
Requests for pages of a table that is loaded from elsewhere. After any course the table shows the page that was
asked for last with the rows that were accepted last. A request that is refused leaves rows and total, but the
page it asked for stays.
-/

namespace BackOffice

/-! ### What is told of a table -/

namespace Incident

/-- The page that a request has been begun for. -/
def page? : Incident → Option Page
  | began _ _ (.page p) => some p
  | _ => none

/-- The number of a request that was accepted, with what was loaded. -/
def shown? : Incident → Option (Nat × TablePage)
  | ended ticket (.page _) (.page loaded) => some (ticket, loaded)
  | _ => none

/-- Whether a request was refused because a newer one took its place. -/
def isSuperseded : Incident → Bool
  | ended _ _ (.refused .stale) => true
  | _ => false

/-- The pages that were asked for. -/
def pages (told : List Incident) : List Page := told.filterMap page?

/-- The requests that were accepted. -/
def shown (told : List Incident) : List (Nat × TablePage) := told.filterMap shown?

theorem pages_append (told new : List Incident) : pages (told ++ new) = pages told ++ pages new :=
  List.filterMap_append

theorem shown_append (told new : List Incident) : shown (told ++ new) = shown told ++ shown new :=
  List.filterMap_append

end Incident

namespace Reply

/-- The index of the page and the rows that a reply shows. -/
def held? : Reply → Option (Nat × List Json)
  | page p => some (p.page.index, p.rows)
  | table t => some (t.page.index, t.rows)
  | _ => none

def isRefused : Reply → Bool
  | refused _ => true
  | _ => false

end Reply

namespace TableScreen

variable {t : TableScreen} {told new : List Incident}

/-- The page that a command asks for when another was asked for before. -/
def pageFor? (t : TableScreen) (page : Page) : Command → Option Page
  | .refresh => some page
  | .setPage index => some (.of index page.size)
  | .setPageSize size => if size = 0 then none else some (.first size)
  | .requestPage raw => some (t.pageOf raw)
  | _ => none

/-- The page asked for last. -/
def pageAfter (t : TableScreen) (told : List Incident) : Page := (Incident.pages told).getLast?.getD t.page

/-- What a table holds once some things are told: the page asked for last, with the rows accepted last. -/
def currentAfter (t : TableScreen) (told : List Incident) : TablePage where
  page := t.pageAfter told
  rows := ((Incident.shown told).getLast?.map fun e => e.2.rows).getD t.rows
  total := ((Incident.shown told).getLast?.map fun e => e.2.total).getD t.total

/-- Whether a request that has begun is for the page that its command asks for, and one that was accepted has
loaded the page it was for. -/
structure Agrees (t : TableScreen) (before : List Incident) (i : Incident) : Prop where
  asked {c : Command} {k : Nat} {p : Page} (h : i = .began c k (.page p)) :
    t.pageFor? (t.pageAfter before) c = some p
  loaded {k : Nat} {p : Page} {shown : TablePage} (h : i = .ended k (.page p) (.page shown)) : shown.page = p

/-- The table with what it holds and its filters replaced. -/
def holding (t : TableScreen) (held : TablePage) (filters : Keyed String) : TableScreen :=
  { t with page := held.page, rows := held.rows, total := held.total, filters }

theorem pageAfter_append (h : Incident.pages new = []) : t.pageAfter (told ++ new) = t.pageAfter told := by
  rw [pageAfter, Incident.pages_append, h, List.append_nil, pageAfter]

theorem currentAfter_append (hpages : Incident.pages new = []) (hshown : Incident.shown new = []) :
    t.currentAfter (told ++ new) = t.currentAfter told := by
  rw [currentAfter, pageAfter_append hpages, Incident.shown_append, hshown, List.append_nil, currentAfter]

theorem currentAfter_append_page {p : Page} (hpages : Incident.pages new = [p])
    (hshown : Incident.shown new = []) :
    t.currentAfter (told ++ new) = { t.currentAfter told with page := p } := by
  rw [currentAfter, pageAfter, Incident.pages_append, hpages, List.getLast?_concat, Incident.shown_append,
    hshown, List.append_nil, Option.getD_some, currentAfter]

theorem currentAfter_append_shown {k : Nat} {loaded : TablePage} (hpages : Incident.pages new = [])
    (hshown : Incident.shown new = [(k, loaded)]) :
    t.currentAfter (told ++ new) =
      { t.currentAfter told with rows := loaded.rows, total := loaded.total } := by
  rw [currentAfter, pageAfter_append hpages, Incident.shown_append, hshown, List.getLast?_concat,
    Option.map_some, Option.map_some, Option.getD_some, Option.getD_some, currentAfter]

theorem currentAfter_of_shown_nil (h : Incident.shown told = []) :
    t.currentAfter told = { t.current with page := t.pageAfter told } := by
  simp [currentAfter, h, current]

end TableScreen

namespace Rehearsal

variable {s s' : Rehearsal} {t : TableScreen} {place : Nat} {c : Command} {m : Machine} {graph : WorkflowGraph}
  {page : Page} {told new : List Incident}

/-! ### What one command or one ending does to the table -/

/-- Only its own commands touch a table. -/
theorem table_command_of_others (hpage : c.lane? ≠ some .page) (ht : s.table = some (t, place)) :
    ∃ filters, (s.command c).1.table = some ({ t with filters }, place) := by
  by_cases hsets : c.setsTable = true
  · cases c with
    | refresh | setPage index | setPageSize size | requestPage raw => exact absurd rfl hpage
    | setFilter column text | clearFilters =>
      simp only [command, withTable, ht]
      exact ⟨_, rfl⟩
    | _ => cases hsets
  · have hview : Overlooks table :=
      ⟨fun _ _ _ => rfl, fun _ _ _ => rfl, fun _ _ => rfl, fun _ _ => rfl, fun _ => rfl, fun _ _ _ => rfl⟩
    have hsame : (s.command c).1.table = s.table :=
      hview.command (fun _ _ _ _ _ => rfl) (fun _ _ _ => rfl) fun h => absurd h hsets
    exact ⟨t.filters, hsame.trans ht⟩

/-- A command that asks for a page sets it at once and loads it. -/
theorem command_eq_loadPage (ht : s.table = some (t, place)) (hpage : t.pageFor? t.page c = some page) :
    s.command c = s.loadPage (t.ask page) place page := by
  cases c with
  | refresh =>
    obtain rfl : t.page = page := Option.some.inj hpage
    rw [command, withTable, ht]
    rfl
  | setPage index =>
    obtain rfl : Page.of index t.page.size = page := Option.some.inj hpage
    rw [command, withTable, ht]
  | setPageSize size =>
    rw [TableScreen.pageFor?] at hpage
    split at hpage
    · cases hpage
    next hsize =>
      obtain rfl : Page.first size = page := Option.some.inj hpage
      rw [command, withTable, ht]
      exact if_neg hsize
  | requestPage raw =>
    obtain rfl : t.pageOf raw = page := Option.some.inj hpage
    rw [command, withTable, ht]
  | _ => cases hpage

/-- A command that asks for a page works on the handle of the table. -/
theorem usedBy_of_page (ht : s.table = some (t, place)) (hpage : t.pageFor? t.page c = some page) :
    s.usedBy c = some place := by
  cases c <;> first | (simp [usedBy, ht]; done) | cases hpage

/-- A page of a table that is loaded from elsewhere begins to be loaded. -/
theorem command_page (ht : s.table = some (t, place)) (hremote : t.source = .remote graph)
    (hpage : t.pageFor? t.page c = some page) :
    (s.command c).1.table = some (t.ask page, place) ∧
      s.tellsOf c = [.asked c (some place), .began c s.tickets (.page page)] := by
  have hsource : (t.ask page).source = .remote graph := hremote
  have hc := command_eq_loadPage ht hpage
  rw [loadPage, hsource] at hc
  refine ⟨by rw [hc]; rfl, ?_⟩
  simp [tellsOf, newMachines, usedBy_of_page ht hpage, hc, launchNew, launch, setHandle]

/-- A page size of zero is refused, and nothing changes. -/
theorem command_no_size (ht : s.table = some (t, place)) :
    s.command (.setPageSize 0) = (s, .done (.refused .invalidPageSize)) := by
  rw [command, withTable, ht]
  exact if_pos rfl

/-- A command that asks for no page leaves the table as it is, but for its filters, and begins no request. -/
theorem command_of_no_page (ht : s.table = some (t, place)) (hpage : t.pageFor? t.page c = none) :
    (∃ filters, (s.command c).1.table = some ({ t with filters }, place)) ∧
      Incident.pages (s.tellsOf c) = [] := by
  by_cases hlane : c.lane? = some .page
  · cases c with
    | setPageSize size =>
      obtain rfl : size = 0 := by simpa [TableScreen.pageFor?] using hpage
      rw [tellsOf, newMachines, command_no_size ht, List.drop_length]
      exact ⟨⟨t.filters, ht⟩, rfl⟩
    | refresh | setPage index | requestPage raw => cases hpage
    | _ => cases hlane
  · refine ⟨table_command_of_others hlane ht, ?_⟩
    rw [Incident.pages, List.filterMap_eq_nil_iff]
    intro i hi
    have hbegan := hi
    obtain rfl | ⟨r, rfl⟩ | ⟨k, purpose, rfl⟩ := mem_tellsOf hi
    · rfl
    · rfl
    · -- A machine that loads a page would be of the lane of pages, as its command.
      have hpurpose := (lane?_of_command s c).2 c k purpose hbegan
      cases purpose with
      | page page => exact absurd hpurpose.symm hlane
      | _ => rfl

theorem shown_tellsOf (s : Rehearsal) (c : Command) : Incident.shown (s.tellsOf c) = [] := by
  rw [Incident.shown, List.filterMap_eq_nil_iff]
  intro i hi
  obtain rfl | ⟨r, rfl⟩ | ⟨k, purpose, rfl⟩ := mem_tellsOf hi <;> rfl

theorem table_finish_of_others (h : m.purpose.lane? ≠ some .page) : (s.finish m).1.table = s.table := by
  apply apply_finish table (fun _ => rfl) (fun _ _ => rfl) (fun _ _ _ => rfl) fun _ _ _ => rfl
  intro hsets
  cases hp : m.purpose with
  | page page => exact absurd (by rw [hp]; rfl) h
  | _ =>
    rw [hp] at hsets
    cases hsets

/-- A request for a page is accepted with its rows, or it is refused and the table stays. -/
theorem finish_page (hp : m.purpose = .page page) (ht : s.table = some (t, place)) :
    (∃ rows total, (s.finish m).1.table = some ({ t with rows, total }, place) ∧
        (s.finish m).2 = .page ⟨page, rows, total⟩) ∨
      (s.finish m).1.table = s.table ∧ ∃ e, (s.finish m).2 = .refused e := by
  cases hstale : m.graph.run.isStale (s.counterAt m.handle) with
  | true =>
    rw [finish_of_isStale (ℓ := .page) (by rw [hp]; rfl) (by simp) hstale]
    exact .inr ⟨rfl, _, rfl⟩
  | false =>
    have hkept (h : Handle) : (s.setHandle m.handle h).table = some (t, place) := ht
    simp only [finish, hp, committing_of_current hstale, hkept, TableScreen.accept]
    split
    next e he => exact .inr ⟨rfl, e, rfl⟩
    next t' ht' =>
      split at ht'
      · cases ht'
        exact .inl ⟨_, _, rfl, rfl⟩
      · cases ht'

/-! ### Courses -/

/-- Whether the table is as what was told says. -/
def Shows (t : TableScreen) (place : Nat) (told : List Incident) (s : Rehearsal) : Prop :=
  ∃ filters, s.table = some (t.holding (t.currentAfter told) filters, place)

theorem Shows.quiet (h : Shows t place told s) (htable : s'.table = s.table)
    (hpages : Incident.pages new = []) (hshown : Incident.shown new = []) : Shows t place (told ++ new) s' := by
  obtain ⟨filters, ht⟩ := h
  refine ⟨filters, ?_⟩
  rw [TableScreen.currentAfter_append hpages hshown, htable, ht]

theorem shows_command (hremote : t.source = .remote graph) (h : Shows t place told s) (c : Command) :
    Shows t place (told ++ s.tellsOf c) (s.command c).1 := by
  obtain ⟨filters, ht⟩ := h
  cases hpage : t.pageFor? (t.pageAfter told) c with
  | none =>
    obtain ⟨⟨filters', ht'⟩, hpages⟩ := command_of_no_page ht hpage
    refine ⟨filters', ?_⟩
    rw [TableScreen.currentAfter_append hpages (shown_tellsOf s c), ht']
    rfl
  | some page =>
    obtain ⟨ht', htells⟩ := command_page ht hremote hpage
    have hpages : Incident.pages (s.tellsOf c) = [page] := by rw [htells]; rfl
    refine ⟨filters, ?_⟩
    rw [TableScreen.currentAfter_append_page hpages (shown_tellsOf s c), ht']
    rfl

theorem agrees_command (hremote : t.source = .remote graph) (h : Shows t place told s) {c : Command}
    {before rest : List Incident} {i : Incident} (hi : s.tellsOf c = before ++ i :: rest) :
    t.Agrees (told ++ before) i := by
  obtain ⟨filters, ht⟩ := h
  have hmem : i ∈ s.tellsOf c := by simp [hi]
  refine ⟨fun {c' k p} hbegan => ?_, fun {k p shown} hended => ?_⟩
  · subst hbegan
    cases hpage : t.pageFor? (t.pageAfter told) c with
    | none =>
      obtain ⟨-, hpages⟩ := command_of_no_page ht hpage
      rw [Incident.pages, List.filterMap_eq_nil_iff] at hpages
      cases hpages _ hmem
    | some page =>
      obtain ⟨-, htells⟩ := command_page ht hremote hpage
      rw [htells] at hi
      -- The request begins right after its command was asked for, and nothing was told in between.
      cases before with
      | nil => cases (List.cons.inj hi).1
      | cons j before =>
        cases before with
        | nil =>
          obtain ⟨rfl, rfl, hp⟩ := Incident.began.inj (List.cons.inj (List.cons.inj hi).2).1
          obtain rfl := Purpose.page.inj hp
          obtain ⟨rfl, -⟩ := List.cons.inj hi
          rw [TableScreen.pageAfter_append rfl, hpage]
        | cons j' before => simp at hi
  · subst hended
    have hshown := shown_tellsOf s c
    rw [Incident.shown, List.filterMap_eq_nil_iff] at hshown
    cases hshown _ hmem

theorem shows_finish {k : Nat} (h : Shows t place told s) (hm : ∃ page, m.purpose = .page page) :
    Shows t place (told ++ [.ended k m.purpose (s.finish m).2]) (s.finish m).1 ∧
      ∀ p shown, m.purpose = .page p → (s.finish m).2 = .page shown → shown.page = p := by
  obtain ⟨page, hp⟩ := hm
  obtain ⟨filters, ht⟩ := h
  obtain ⟨rows, total, ht', hr⟩ | ⟨ht', e, hr⟩ := finish_page hp ht
  · rw [hp, hr]
    refine ⟨⟨filters, ?_⟩, fun p shown hpage hshown => ?_⟩
    · rw [TableScreen.currentAfter_append_shown rfl rfl, ht']
      rfl
    cases hpage
    cases hshown
    rfl
  · rw [hp, hr]
    refine ⟨Shows.quiet ⟨filters, ht⟩ ht' rfl rfl, fun p shown hpage hshown => ?_⟩
    cases hshown

theorem shows_takes (hremote : t.source = .remote graph) (h : Shows t place told s) (hs : Takes s s' new) :
    Shows t place (told ++ new) s' ∧
      ∀ before i rest, new = before ++ i :: rest → t.Agrees (told ++ before) i := by
  cases hs with
  | command c => exact ⟨shows_command hremote h c, fun before i rest hi => agrees_command hremote h hi⟩
  | moved hm hg => exact ⟨h.quiet rfl rfl rfl, fun before i rest hi => by simp at hi⟩
  | concluded hm hover =>
    rename_i ticket m
    have hwithout : Shows t place told (s.without ticket) := h
    have hone {before : List Incident} {i : Incident} {rest : List Incident}
        (hi : [.ended ticket m.purpose ((s.without ticket).finish m).2] = before ++ i :: rest) :
        .ended ticket m.purpose ((s.without ticket).finish m).2 = i := by
      cases before with
      | nil => exact (List.cons.inj hi).1
      | cons j before => simp at hi
    -- Requests are accepted or refused at their ends, and other endings leave the table alone.
    by_cases hpage : ∃ page, m.purpose = .page page
    · obtain ⟨hshows, hloaded⟩ := shows_finish hwithout hpage
      refine ⟨hshows, fun before i rest hi => ?_⟩
      obtain rfl := hone hi
      refine ⟨fun {c k p} hbegan => (by cases hbegan), fun {k p shown} hended => ?_⟩
      obtain ⟨-, hp, hr⟩ := Incident.ended.inj hended
      exact hloaded p shown hp hr
    · have hlane : m.purpose.lane? ≠ some .page := by
        cases hp : m.purpose <;> simp [Purpose.lane?, hp] at hpage ⊢
      have hshown : Incident.shown [.ended ticket m.purpose ((s.without ticket).finish m).2] = [] := by
        cases hp : m.purpose <;> first | rfl | exact absurd ⟨_, hp⟩ hpage
      refine ⟨hwithout.quiet (table_finish_of_others hlane) rfl hshown, fun before i rest hi => ?_⟩
      obtain rfl := hone hi
      refine ⟨fun {c k p} hbegan => (by cases hbegan), fun {k p shown} hended => ?_⟩
      obtain ⟨-, hp, -⟩ := Incident.ended.inj hended
      exact absurd ⟨p, hp⟩ hpage
  | elsewhere b => exact ⟨h.quiet rfl rfl rfl, fun before i rest hi => by simp at hi⟩
  | nothing => exact ⟨h.quiet rfl rfl rfl, fun before i rest hi => by simp at hi⟩

theorem shows_after (ht : s.table = some (t, place)) (hremote : t.source = .remote graph) (cues : List Cue) :
    Shows t place (s.told cues) (s.after cues) ∧ Incident.InTurn t.Agrees (s.told cues) := by
  refine after_of_takes (P := fun told s => Shows t place told s ∧
    Incident.InTurn t.Agrees told) ?_ ⟨⟨t.filters, ht⟩, Incident.inTurn_nil⟩ cues
  intro told s s' new hs h
  obtain ⟨hshows, hagrees⟩ := shows_takes hremote h.1 hs
  exact ⟨hshows, h.2.append hagrees⟩

theorem exists_ended_of_mem_shown {e : Nat × TablePage} (he : e ∈ Incident.shown told) :
    ∃ p, Incident.ended e.1 (.page p) (.page e.2) ∈ told := by
  obtain ⟨i, hi, hshown⟩ := List.mem_filterMap.1 he
  unfold Incident.shown? at hshown
  split at hshown
  next ticket p loaded =>
    cases hshown
    exact ⟨p, hi⟩
  next => cases hshown

/-- Whatever the order of answers, when a table is alone on its handle: a request is refused as superseded exactly
when a later one has begun, and then it changes nothing; requests are accepted in the order in which they began;
and the table shows the page that was asked for last with the rows that were accepted last. -/
theorem latest_request_wins (hmachines : s.machines = []) (ht : s.table = some (t, place))
    (hremote : t.source = .remote graph) (hvalid : place < s.handles.cells.length) (cues : List Cue)
    (howns : Lane.page.Owns place (s.told cues)) :
    (∃ t', (s.after cues).table = some (t', place) ∧ t'.current = t.currentAfter (s.told cues)) ∧
      Incident.InTurn t.Agrees (s.told cues) ∧
      ((s.told cues).filterMap Incident.begun?).Pairwise (· < ·) ∧
      (∀ before ticket p r rest, s.told cues = before ++ .ended ticket (.page p) r :: rest →
        (r = .refused .stale ↔ Lane.page.Later before ticket) ∧
          ∀ loaded, r = .page loaded → ∀ e ∈ Incident.shown before, e.1 < ticket) ∧
      ∀ ticket p, (s.after cues).tells (.conclude ticket) = [.ended ticket (.page p) (.refused .stale)] →
        (s.after cues).take (.conclude ticket) = (s.after cues).without ticket := by
  have hlane : s.laneAt .page = some place := by simp [laneAt, ht]
  obtain ⟨haccounts, hlanes⟩ := Lane.holds_after hmachines hlane hvalid cues
  obtain ⟨hholds, hjudged⟩ := hlanes howns
  obtain ⟨⟨filters, htable⟩, hagrees⟩ := shows_after ht hremote cues
  refine ⟨⟨_, htable, rfl⟩, hagrees, haccounts.order, fun before ticket p r rest htold => ?_,
    fun ticket p htells => hholds.take_conclude htells rfl⟩
  obtain ⟨hstale, horder⟩ := hjudged before _ rest htold ticket _ r rfl rfl
  refine ⟨hstale, fun loaded hr e he => ?_⟩
  obtain ⟨p', hended⟩ := exists_ended_of_mem_shown he
  apply horder _ hended rfl
  simp [hr]

/-- A table whose pages are loaded by one step. -/
def pagedTable : TableScreen := .of [] (.remote ⟨[("page", ⟨[{ workflow := "PAGE" }]⟩)]⟩) {}

/-- Rows as a backend answers with them. -/
def rowsPayload (rows : List Json) : Json :=
  dataPayload (.obj [("rows", .arr rows), ("total", .ofNat 2)])

/-- The table before anything is loaded, and a backend that answers one call with a row and fails another. -/
def tableShown : Rehearsal where
  surroundings := ⟨.epoch, ⟨"id", 0⟩⟩
  backend := .ofJson (.obj [("PAGE", .arr [rowsPayload [.ofNat 1], failurePayload])])
  handles := { cells := [{}] }
  table := some (pagedTable, 0)

/-- The second page is asked for before the first has come, and comes before it. -/
def overtaken : List Cue :=
  [.ask .refresh, .ask (.setPage 2)] ++ roundTrip 1 (rowsPayload [.ofNat 2]) ++
    roundTrip 0 (rowsPayload [.ofNat 1])

theorem second_page_wins :
    Lane.page.Owns 0 (tableShown.told overtaken) ∧
      ((tableShown.told overtaken).getLast?.map Incident.isSuperseded) = some true ∧
      ∃ t', (tableShown.after overtaken).table = some (t', 0) ∧ t'.page.index = 2 ∧ t'.rows = [.ofNat 2] := by
  have howns : Lane.page.Owns 0 (tableShown.told overtaken) := Lane.owns_iff.2 (by cbv)
  have hvalid : 0 < tableShown.handles.cells.length := by decide
  obtain ⟨⟨t', ht', hcurrent⟩, -⟩ :=
    latest_request_wins (s := tableShown) rfl rfl rfl hvalid overtaken howns
  have hpage : (pagedTable.currentAfter (tableShown.told overtaken)).page.index = 2 := by cbv
  have hrows : (pagedTable.currentAfter (tableShown.told overtaken)).rows = [.ofNat 2] := by cbv
  refine ⟨howns, by cbv, t', ht', ?_, ?_⟩
  · rw [← hcurrent] at hpage
    exact hpage
  · rw [← hcurrent] at hrows
    exact hrows

/-- Requests that are refused leave the rows that were accepted last and their total, while the page is the one
that was asked for last. So the rows are those of the page that is named exactly when no other page has been asked
for since. -/
theorem refused_requests_keep_rows (ht : s.table = some (t, place)) (hremote : t.source = .remote graph)
    (cues : List Cue) :
    ∃ t', (s.after cues).table = some (t', place) ∧
      (Incident.shown (s.told cues) = [] →
        t'.current = { t.current with page := t.pageAfter (s.told cues) }) ∧
      ∀ before ticket p loaded rest,
        s.told cues = before ++ .ended ticket (.page p) (.page loaded) :: rest → Incident.shown rest = [] →
          t'.current = { loaded with page := t.pageAfter (s.told cues) } ∧
            (t'.current = loaded ↔ t.pageAfter (s.told cues) = p) := by
  obtain ⟨⟨filters, htable⟩, hagrees⟩ := shows_after ht hremote cues
  refine ⟨_, htable, fun hnone => TableScreen.currentAfter_of_shown_nil hnone,
    fun before ticket p loaded rest htold hrest => ?_⟩
  have hpage : loaded.page = p := (hagrees before _ rest htold).loaded rfl
  have hlast : (Incident.shown (s.told cues)).getLast? = some (ticket, loaded) := by
    rw [htold, List.append_cons, Incident.shown_append, hrest, List.append_nil,
      Incident.shown_append]
    exact List.getLast?_concat
  have hcurrent : t.currentAfter (s.told cues) = { loaded with page := t.pageAfter (s.told cues) } := by
    rw [TableScreen.currentAfter, hlast]
    rfl
  refine ⟨hcurrent, ?_⟩
  have hheld : (t.holding (t.currentAfter (s.told cues)) filters).current = t.currentAfter (s.told cues) := rfl
  rw [hheld, hcurrent, ← hpage]
  constructor
  · intro h
    exact congrArg TablePage.page h
  · intro h
    rw [h]

/-- The first page is loaded, and then the second is refused. -/
def firstThenRefused : List Cue :=
  [.ask .refresh] ++ roundTrip 0 (rowsPayload [.ofNat 1]) ++
    [.ask (.setPage 2)] ++ roundTrip 1 failurePayload

theorem refused_second_page_keeps_rows :
    ∃ t' p loaded, (tableShown.after firstThenRefused).table = some (t', 0) ∧ p.index = 1 ∧
      Incident.ended 0 (.page p) (.page loaded) ∈ tableShown.told firstThenRefused ∧
      t'.current = { loaded with page := t'.page } ∧ t'.current ≠ loaded := by
  obtain ⟨t', ht', -, hlast⟩ :=
    refused_requests_keep_rows (s := tableShown) (t := pagedTable) rfl rfl firstThenRefused
  have hfirst : pagedTable.page.index = 1 := by cbv
  have htold : tableShown.told firstThenRefused =
      (tableShown.told firstThenRefused).take 2 ++
        .ended 0 (.page pagedTable.page) (.page ⟨pagedTable.page, [.ofNat 1], some 2⟩) ::
          (tableShown.told firstThenRefused).drop 3 := by cbv
  have hrest : Incident.shown ((tableShown.told firstThenRefused).drop 3) = [] := by cbv
  have hpage : (pagedTable.pageAfter (tableShown.told firstThenRefused)).index = 2 := by cbv
  obtain ⟨hcurrent, hiff⟩ := hlast _ _ _ _ _ htold hrest
  refine ⟨t', pagedTable.page, ⟨pagedTable.page, [.ofNat 1], some 2⟩, ht', hfirst, ?_, ?_, fun heq => ?_⟩
  · rw [htold]
    simp
  · rw [hcurrent]
    exact congrArg (TablePage.mk · _ _) (congrArg TablePage.page hcurrent).symm
  · rw [hiff.1 heq, hfirst] at hpage
    cases hpage

/-- The first page is loaded and shown, the second is refused, and what is there is shown again. -/
def firstThenRefusedPlay : List Scene :=
  tableShown.play [.refresh, .showTable, .setPage 2, .showTable]

/-- A request for the second page is refused, and yet the table names the second page, with the row of the
first. -/
theorem refused_page_is_named :
    firstThenRefusedPlay.map (fun scene => scene.reply.any Reply.isRefused) = [false, false, true, false] ∧
      firstThenRefusedPlay.map (fun scene => scene.reply.bind Reply.held?) =
        [some (1, [.ofNat 1]), some (1, [.ofNat 1]), none, some (2, [.ofNat 1])] := by
  constructor
  · cbv
  · cbv

end Rehearsal

end BackOffice
