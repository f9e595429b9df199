import BackOffice.Rehearsal.Command
import BackOffice.Shared

/-!
The state of a rehearsal, and what each command does to it up to the point where something is awaited.
-/

namespace BackOffice

/-- What the outcome of a run is for. -/
inductive Purpose where
  /-- It goes to a caller, whose context was this one. -/
  | caller (context : String) (copy : Context) (work : Work)
  /-- It goes to a run under a name. -/
  | run (name : String) (work : Work)
  | menu
  | node (n : MenuNode)
  | write (w : FlagWrite)
  | page (p : Page)

/-- A graph on its way, with the place of its handle. -/
structure Machine where
  handle : Nat
  purpose : Purpose
  graph : GraphRun

/-- A call that is not awaited and has not yet been made. -/
structure QueuedCall where
  /-- The number of the machine that sends it. -/
  ticket : Nat
  /-- The place of the group that sends it. -/
  group : Nat
  call : Call

/-- A rehearsal: handles, runs, contexts and screens before a replayed backend. -/
structure Rehearsal where
  rules : RunRules := {}
  /-- Whether somebody listens to events. -/
  listening : Bool := true
  surroundings : Surroundings
  backend : Replay := {}
  /-- What happens while calls of a workflow are out, call by call. -/
  hooks : Keyed (List Hook) := []
  handles : Shared Handle := {}
  contexts : Keyed Context := []
  /-- Runs that have begun, with the places of their handles. -/
  runs : Keyed (Nat × Run) := []
  /-- The permission screen with the places of the handles for its menu and its operations. -/
  permission : Option (PermissionScreen × Nat × Nat) := none
  /-- The table with the place of its handle. -/
  table : Option (TableScreen × Nat) := none
  events : List Event := []
  /-- The replies to commands of hooks, in the order in which they were done. -/
  asides : List Reply := []
  machines : List (Nat × Machine) := []
  tickets : Nat := 0
  queue : List QueuedCall := []

/-- What a command has come to. -/
inductive Progress where
  | done (r : Reply)
  /-- The machine with this number has to be run. -/
  | launched (ticket : Nat)
  /-- These commands have to be carried out side by side. -/
  | together (commands : List Command)

namespace Rehearsal

/-- The handle at a place. -/
def handleAt (s : Rehearsal) (place : Nat) : Handle := (s.handles.cell? place).getD {}

def setHandle (s : Rehearsal) (place : Nat) (h : Handle) : Rehearsal :=
  { s with handles := s.handles.set place h }

def counterAt (s : Rehearsal) (place : Nat) : EpochCounter := (s.handleAt place).counter

/-- A new handle. -/
def allocHandle (s : Rehearsal) : Nat × Rehearsal :=
  let (place, handles) := s.handles.alloc {}
  (place, { s with handles })

/-- The context under a name; a name that is new stands for an empty one. -/
def contextAt (s : Rehearsal) (name : String) : Context := (s.contexts.find? name).getD {}

def machine? (s : Rehearsal) (ticket : Nat) : Option Machine := s.machines.lookup ticket

def setMachine (s : Rehearsal) (ticket : Nat) (m : Machine) : Rehearsal :=
  { s with machines := s.machines.map fun e => if e.1 = ticket then (ticket, m) else e }

/-- Sets a graph to work in a run. -/
def launch (s : Rehearsal) (place : Nat) (run : Run) (graph : WorkflowGraph) (purpose : Purpose) :
    Rehearsal × Progress :=
  let graph := GraphRun.start s.rules (s.counterAt place) graph run
  ({ s with
      machines := s.machines ++ [(s.tickets, ⟨place, purpose, graph⟩)]
      tickets := s.tickets + 1 },
    .launched s.tickets)

/-- Begins a run on a handle and sets a graph to work in it, with a change of its context before. -/
def launchNew (s : Rehearsal) (place : Nat) (from? : Option Context) (change : Context → Context)
    (graph : WorkflowGraph) (purpose : Purpose) : Rehearsal × Progress :=
  let handle := s.handleAt place
  let (handle, run) := handle.beginWith (from?.getD handle.committed)
  (s.setHandle place handle).launch place { run with context := change run.context } graph purpose

/-- Loads a page: at once if all rows are there. -/
def loadPage (s : Rehearsal) (t : TableScreen) (place : Nat) (page : Page) : Rehearsal × Progress :=
  match t.source with
  | .inline all =>
    let t := t.fill all page
    ({ s with table := some (t, place) }, .done (.page ⟨page, t.rows, t.total⟩))
  | .remote graph =>
    ({ s with table := some (t, place) }).launchNew place none (t.bindPage page) graph (.page page)

/-- Does something with the table, if there is one. -/
def withTable (s : Rehearsal) (f : TableScreen → Nat → Rehearsal × Progress) : Rehearsal × Progress :=
  match s.table with
  | none => (s, .done .unknown)
  | some (t, place) => f t place

/-- Does something with the permission screen, if there is one. -/
def withPermission (s : Rehearsal) (f : PermissionScreen → Nat → Nat → Rehearsal × Progress) :
    Rehearsal × Progress :=
  match s.permission with
  | none => (s, .done .unknown)
  | some (p, menu, operations) => f p menu operations

/-- Does something with a handle, if there is one under the name. -/
def withHandle (s : Rehearsal) (name : String) (f : Nat → Handle → Rehearsal × Progress) :
    Rehearsal × Progress :=
  match s.handles.place? name with
  | none => (s, .done .unknown)
  | some place => f place (s.handleAt place)

/-- Does something with a run, if there is one under the name. -/
def withRun (s : Rehearsal) (name : String) (f : Nat → Run → Rehearsal × Progress) :
    Rehearsal × Progress :=
  match s.runs.find? name with
  | none => (s, .done .unknown)
  | some (place, run) => f place run

/-- Shows the cells that pass all filters. -/
def showFiltered (s : Rehearsal) (t : TableScreen) (place : Nat) : Rehearsal × Progress :=
  ({ s with table := some (t, place) }, .done (.visible t.visibleRows))

/-- Carries a command out up to the point where something is awaited. -/
def command (s : Rehearsal) : Command → Rehearsal × Progress
  | .unknown => (s, .done .unknown)
  | .together commands => (s, .together commands)
  | .setContext name v => ({ s with contexts := s.contexts.put name (.ofJson v) }, .done .nothing)
  | .run handle context work => s.withHandle handle fun place _ =>
    match work with
    | none => (s, .done .unreadable)
    | some work =>
      let copy := s.contextAt context
      s.launchNew place (some copy) id work.toGraph (.caller context copy work)
  | .begin handle name value => s.withHandle handle fun place h =>
    let c := match value with
      | none => h.committed
      | some v => (Context.ofJson v).set "seed" (.bool true)
    let (h, run) := h.beginWith c
    ({ s.setHandle place h with runs := s.runs.put name (place, run) }, .done (.begun run))
  | .goOn name work => s.withRun name fun place run =>
    match work with
    | none => (s, .done .unreadable)
    | some work => ({ s with runs := s.runs.erase name }).launch place run work.toGraph (.run name work)
  | .setValue name key v => s.withRun name fun place run =>
    ({ s with runs := s.runs.put name (place, { run with context := run.context.set key v }) },
      .done .nothing)
  | .removeValue name key => s.withRun name fun place run =>
    ({ s with runs := s.runs.put name (place, { run with context := run.context.remove key }) },
      .done (.removed (run.context.values.find? key)))
  | .showRun name => s.withRun name fun place run =>
    (s, .done (.run run (run.isStale (s.counterAt place))))
  | .commit name => s.withRun name fun place run =>
    let (h, c) := (s.handleAt place).commit run
    ({ s.setHandle place h with runs := s.runs.erase name }, .done (.committed c))
  | .fork handle name => s.withHandle handle fun _ _ =>
    let (place, s) := s.allocHandle
    ({ s with handles := s.handles.bind name place }, .done (.epoch (s.counterAt place).current))
  | .share handle name => s.withHandle handle fun place h =>
    ({ s with handles := s.handles.bind name place }, .done (.epoch h.counter.current))
  | .showHandle handle epoch keys => s.withHandle handle fun _ h =>
    (s, .done (.handle h (epoch.map h.counter.isCurrent) s.rules (keys.map s.rules.isAuthKey)))
  | .loadMenu => s.withPermission fun p menu _ =>
    match p.group? PermissionScreen.loadMenu with
    | .error e => (s, .done (.refused e))
    | .ok group => s.launchNew menu none id (.ofGroup PermissionScreen.loadMenu group) .menu
  | .selectNode node => s.withPermission fun p _ operations =>
    match node with
    | none => (s, .done .unreadable)
    | some node =>
      match p.group? PermissionScreen.loadOperation with
      | .error e => (s, .done (.refused e))
      | .ok group => s.launchNew operations none (PermissionScreen.bindSelection node)
          (.ofGroup PermissionScreen.loadOperation group) (.node node)
  | .toggle roleId commandId flag => s.withPermission fun p menu operations =>
    match p.flip roleId commandId flag with
    | .error e => (s, .done (.refused e))
    | .ok (w, p) =>
      let (place, s) := s.allocHandle
      ({ s with permission := some (p, menu, operations) }).launchNew place
        (some (s.handleAt operations).committed) id (.ofStep w.step) (.write w)
  | .showPermission => s.withPermission fun p _ _ => (s, .done (.permission p))
  | .refresh => s.withTable fun t place => s.loadPage t place t.page
  | .setPage index => s.withTable fun t place =>
    let page := Page.of index t.page.size
    s.loadPage (t.ask page) place page
  | .setPageSize size => s.withTable fun t place =>
    if size = 0 then (s, .done (.refused .invalidPageSize))
    else s.loadPage (t.ask (.first size)) place (.first size)
  | .requestPage raw => s.withTable fun t place =>
    let page := t.pageOf raw
    s.loadPage (t.ask page) place page
  | .setFilter column text => s.withTable fun t place => s.showFiltered (t.setFilter column text) place
  | .clearFilters => s.withTable fun t place => s.showFiltered t.clearFilters place
  | .showTable => s.withTable fun t _ => (s, .done (.table t))

/-- Keeps the context of a run and goes on, or refuses because a newer run has begun. -/
def committing (s : Rehearsal) (m : Machine) (f : Rehearsal → Rehearsal × Reply) : Rehearsal × Reply :=
  match (s.handleAt m.handle).commit m.graph.run with
  | (_, none) => (s, .refused .stale)
  | (h, some _) => f (s.setHandle m.handle h)

/-- Takes up a change of the permission screen. -/
def takePermission (s : Rehearsal) (change : PermissionScreen → Except ScreenError PermissionScreen)
    (reply : PermissionScreen → Reply) : Rehearsal × Reply :=
  match s.permission with
  | none => (s, .unknown)
  | some (p, places) => match change p with
    | .error e => (s, .refused e)
    | .ok p => ({ s with permission := some (p, places) }, reply p)

/-- Takes up the outcome of a machine that has finished. -/
def finish (s : Rehearsal) (m : Machine) : Rehearsal × Reply :=
  let o := m.graph.outcome (s.counterAt m.handle)
  match m.purpose with
  | .caller name copy work =>
    let (h, c) := (s.handleAt m.handle).commit m.graph.run
    let c := c.getD copy
    ({ s.setHandle m.handle h with contexts := s.contexts.put name c }, work.reply o (some c))
  | .run name work => ({ s with runs := s.runs.put name (m.handle, m.graph.run) }, work.reply o none)
  | .menu => s.committing m fun s =>
    s.takePermission (·.acceptMenu (o.only PermissionScreen.loadMenu)) fun p => .menu p.tree
  | .node n => s.committing m fun s =>
    s.takePermission (·.acceptNode n (o.only PermissionScreen.loadOperation)) fun p => .matrix p.matrix
  | .write w => match s.permission with
    | none => (s, .unknown)
    | some (p, places) =>
      let (row, p) := p.acceptWrite w (o.onlyStep w.step)
      ({ s with permission := some (p, places) }, match row with
        | .ok row => .row row
        | .error e => .refused e)
  | .page page => s.committing m fun s => match s.table with
    | none => (s, .unknown)
    | some (t, place) => match t.accept o with
      | .error e => (s, .refused e)
      | .ok t => ({ s with table := some (t, place) }, .page ⟨page, t.rows, t.total⟩)

end Rehearsal

end BackOffice
