import BackOffice.Proofs.Context.Reads
import BackOffice.Proofs.Rehearsal.Course

/-!
What commands and endings leave alone, told once for all views of a rehearsal. A view that sees nothing of the
runs that begin stays as it is under every command, if it stays so when a run is handed in and when a screen is
set by the commands that do so. The same goes for machines that come to their end.
-/

namespace BackOffice

namespace Command

/-- Whether a command may set the permission screen before anything is answered. -/
def setsPermission : Command → Bool
  | toggle .. => true
  | _ => false

/-- Whether a command may set the table. -/
def setsTable : Command → Bool
  | refresh | setPage _ | setPageSize _ | requestPage _ | setFilter .. | clearFilters => true
  | _ => false

end Command

namespace Purpose

/-- Whether an outcome is for the permission screen. -/
def setsPermission : Purpose → Bool
  | menu | node _ | write _ => true
  | _ => false

/-- Whether an outcome is for the table. -/
def setsTable : Purpose → Bool
  | page _ => true
  | _ => false

end Purpose

namespace Rehearsal

variable {α : Type} {view : Rehearsal → α} {s : Rehearsal} {c : Command} {m : Machine} {place q : Nat}

/-! ### Handles -/

theorem handleAt_setHandle_of_ne {h : Handle} (hne : q ≠ place) :
    (s.setHandle place h).handleAt q = s.handleAt q := by
  rw [handleAt, setHandle, Shared.cell?_set_of_ne _ _ hne, ← handleAt]

theorem handleAt_setHandle {h : Handle} (hlt : place < s.handles.cells.length) :
    (s.setHandle place h).handleAt place = h := by
  simp [handleAt, setHandle, Shared.set, Shared.cell?, hlt]

theorem length_setHandle (s : Rehearsal) (place : Nat) (h : Handle) :
    (s.setHandle place h).handles.cells.length = s.handles.cells.length := by
  simp [setHandle, Shared.set]

/-- What a handle that is put in a place has in common with the one before, the handles keep. -/
theorem apply_handleAt_setHandle (f : Handle → α) {h : Handle} (hf : f h = f (s.handleAt place)) (q : Nat) :
    f ((s.setHandle place h).handleAt q) = f (s.handleAt q) := by
  by_cases hq : q = place
  · subst hq
    by_cases hlt : q < s.handles.cells.length
    · rw [handleAt_setHandle hlt, hf]
    -- A place that holds no handle holds none afterwards.
    · have hset : s.handles.set q h = s.handles := by
        rw [Shared.set, List.set_eq_of_length_le (Nat.le_of_not_lt hlt)]
      rw [handleAt, setHandle, hset]
      rfl
  · rw [handleAt_setHandle_of_ne hq]

theorem handleAt_allocHandle (s : Rehearsal) (q : Nat) : s.allocHandle.2.handleAt q = s.handleAt q := by
  simp only [allocHandle, Shared.alloc, handleAt, Shared.cell?]
  by_cases hlt : q < s.handles.cells.length
  · rw [List.getElem?_append_left hlt]
  -- The new handle is as a place that holds none is taken to be.
  · have hle := Nat.le_of_not_lt hlt
    rw [List.getElem?_append_right hle, List.getElem?_eq_none hle]
    cases q - s.handles.cells.length <;> rfl

/-! ### Commands -/

/-- Whether a view sees nothing of runs that begin, of contexts under names, and of new names and handles. -/
structure Overlooks (view : Rehearsal → α) : Prop where
  launched (s : Rehearsal) (machines : List (Nat × Machine)) (tickets : Nat) :
    view { s with machines, tickets } = view s
  begun (s : Rehearsal) (place : Nat) (c : Context) :
    view (s.setHandle place ((s.handleAt place).beginWith c).1) = view s
  runs (s : Rehearsal) (runs : Keyed (Nat × Run)) : view { s with runs } = view s
  contexts (s : Rehearsal) (contexts : Keyed Context) : view { s with contexts } = view s
  forked (s : Rehearsal) : view s.allocHandle.2 = view s
  named (s : Rehearsal) (name : String) (place : Nat) :
    view { s with handles := s.handles.bind name place } = view s

theorem apply_withHandle {name : String} {f : Nat → Handle → Rehearsal × Progress}
    (hf : ∀ place, view (f place (s.handleAt place)).1 = view s) : view (s.withHandle name f).1 = view s := by
  rw [withHandle]
  split
  · rfl
  · exact hf _

theorem apply_withRun {name : String} {f : Nat → Run → Rehearsal × Progress}
    (hf : ∀ place run, s.runs.find? name = some (place, run) → view (f place run).1 = view s) :
    view (s.withRun name f).1 = view s := by
  rw [withRun]
  split
  · rfl
  next place run hrun => exact hf place run hrun

theorem apply_withTable {f : TableScreen → Nat → Rehearsal × Progress}
    (hf : ∀ t place, view (f t place).1 = view s) : view (s.withTable f).1 = view s := by
  rw [withTable]
  split
  · rfl
  · exact hf _ _

theorem apply_withPermission {f : PermissionScreen → Nat → Nat → Rehearsal × Progress}
    (hf : ∀ p menu operations, view (f p menu operations).1 = view s) :
    view (s.withPermission f).1 = view s := by
  rw [withPermission]
  split
  · rfl
  · exact hf _ _ _

namespace Overlooks

variable (hview : Overlooks view)

include hview

theorem launch (s : Rehearsal) (place : Nat) (run : Run) (graph : WorkflowGraph) (purpose : Purpose) :
    view (s.launch place run graph purpose).1 = view s := hview.launched s _ _

theorem launchNew (s : Rehearsal) (place : Nat) (from? : Option Context) (change : Context → Context)
    (graph : WorkflowGraph) (purpose : Purpose) :
    view (s.launchNew place from? change graph purpose).1 = view s :=
  (hview.launch _ _ _ _ _).trans (hview.begun s place (from?.getD (s.handleAt place).committed))

theorem loadPage (htable : ∀ (s : Rehearsal) table, view { s with table } = view s) (s : Rehearsal)
    (t : TableScreen) (place : Nat) (page : Page) : view (s.loadPage t place page).1 = view s := by
  rw [Rehearsal.loadPage]
  split
  · exact htable s _
  · exact (hview.launchNew _ _ _ _ _ _).trans (htable s _)

/-- No command changes a view that overlooks runs, unless the command hands in a run or sets a screen. -/
theorem command
    (hcommit : ∀ name, c = .commit name → ∀ place run, s.runs.find? name = some (place, run) →
      view (s.setHandle place ((s.handleAt place).commit run).1) = view s)
    (hpermission : c.setsPermission = true → ∀ (s : Rehearsal) permission, view { s with permission } = view s)
    (htable : c.setsTable = true → ∀ (s : Rehearsal) table, view { s with table } = view s) :
    view (s.command c).1 = view s := by
  cases c with
  | unknown | together commands => rfl
  | setContext name v => exact hview.contexts s _
  | run handle context work =>
    rw [Rehearsal.command]
    apply apply_withHandle
    intro place
    cases work with
    | none => rfl
    | some work => exact hview.launchNew s _ _ _ _ _
  | begin handle name value =>
    rw [Rehearsal.command]
    apply apply_withHandle
    intro place
    exact (hview.runs _ _).trans (hview.begun s place _)
  | goOn name work =>
    rw [Rehearsal.command]
    apply apply_withRun
    intro place run hrun
    cases work with
    | none => rfl
    | some work => exact (hview.launch _ _ _ _ _).trans (hview.runs s _)
  | setValue name key v | removeValue name key =>
    rw [Rehearsal.command]
    apply apply_withRun
    intro place run hrun
    exact hview.runs s _
  | showRun name =>
    rw [Rehearsal.command]
    exact apply_withRun fun place run hrun => rfl
  | commit name =>
    rw [Rehearsal.command]
    apply apply_withRun
    intro place run hrun
    exact (hview.runs _ _).trans (hcommit name rfl place run hrun)
  | fork handle name =>
    rw [Rehearsal.command]
    apply apply_withHandle
    intro place
    exact (hview.named _ _ _).trans (hview.forked s)
  | share handle name =>
    rw [Rehearsal.command]
    apply apply_withHandle
    intro place
    exact hview.named s name place
  | showHandle handle epoch keys =>
    rw [Rehearsal.command]
    exact apply_withHandle fun place => rfl
  | loadMenu =>
    rw [Rehearsal.command]
    apply apply_withPermission
    intro p menu operations
    cases p.group? PermissionScreen.loadMenu with
    | error e => rfl
    | ok group => exact hview.launchNew s _ _ _ _ _
  | selectNode node =>
    rw [Rehearsal.command]
    apply apply_withPermission
    intro p menu operations
    cases node with
    | none => rfl
    | some node =>
      cases p.group? PermissionScreen.loadOperation with
      | error e => rfl
      | ok group => exact hview.launchNew s _ _ _ _ _
  | toggle roleId commandId flag =>
    rw [Rehearsal.command]
    apply apply_withPermission
    intro p menu operations
    cases p.flip roleId commandId flag with
    | error e => rfl
    | ok flipped =>
      exact (hview.launchNew _ _ _ _ _ _).trans ((hpermission rfl _ _).trans (hview.forked s))
  | showPermission =>
    rw [Rehearsal.command]
    exact apply_withPermission fun p menu operations => rfl
  | refresh | setPage index | requestPage raw =>
    rw [Rehearsal.command]
    apply apply_withTable
    intro t place
    exact hview.loadPage (htable rfl) s _ _ _
  | setPageSize size =>
    rw [Rehearsal.command]
    apply apply_withTable
    intro t place
    split
    · rfl
    · exact hview.loadPage (htable rfl) s _ _ _
  | setFilter column text | clearFilters =>
    rw [Rehearsal.command]
    apply apply_withTable
    intro t place
    exact htable rfl s _
  | showTable =>
    rw [Rehearsal.command]
    exact apply_withTable fun t place => rfl

end Overlooks

/-! ### Endings -/

theorem apply_committing (view : Rehearsal → α) {f : Rehearsal → Rehearsal × Reply}
    (hset : ∀ h, view (s.setHandle m.handle h) = view s) (hf : ∀ s, view (f s).1 = view s) :
    view (s.committing m f).1 = view s := by
  rw [committing]
  split
  · rfl
  next h c hc => exact (hf _).trans (hset h)

theorem apply_takePermission (view : Rehearsal → α)
    {change : PermissionScreen → Except ScreenError PermissionScreen} {reply : PermissionScreen → Reply}
    (hpermission : ∀ permission, view { s with permission } = view s) :
    view (s.takePermission change reply).1 = view s := by
  rw [takePermission]
  split
  · rfl
  · split
    · rfl
    · exact hpermission _

/-- A machine that ends changes no view that sees neither its handle nor what its outcome is for. -/
theorem apply_finish (view : Rehearsal → α) (hset : ∀ h, view (s.setHandle m.handle h) = view s)
    (hcontexts : ∀ (s : Rehearsal) contexts, view { s with contexts } = view s)
    (hruns : (∃ name work, m.purpose = .run name work) →
      ∀ (s : Rehearsal) runs, view { s with runs } = view s)
    (hpermission : m.purpose.setsPermission = true →
      ∀ (s : Rehearsal) permission, view { s with permission } = view s)
    (htable : m.purpose.setsTable = true → ∀ (s : Rehearsal) table, view { s with table } = view s) :
    view (s.finish m).1 = view s := by
  cases hp : m.purpose with
  | caller name copy work =>
    simp only [finish, hp]
    exact (hcontexts _ _).trans (hset _)
  | run name work =>
    simp only [finish, hp]
    exact hruns ⟨name, work, hp⟩ s _
  | menu | node n =>
    rw [hp] at hpermission
    simp only [finish, hp]
    apply apply_committing view hset
    intro s
    exact apply_takePermission view (hpermission rfl s)
  | write w =>
    rw [hp] at hpermission
    simp only [finish, hp]
    split
    · rfl
    · exact hpermission rfl s _
  | page page =>
    rw [hp] at htable
    simp only [finish, hp]
    apply apply_committing view hset
    intro s
    split
    · rfl
    · split
      · rfl
      · exact htable rfl s _

end Rehearsal

end BackOffice
