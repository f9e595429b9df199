import BackOffice.Permission.Screen
import BackOffice.Table.Screen

/-!
What may be asked for in a rehearsal, and what is answered. Handles, runs and contexts go by names.
-/

namespace BackOffice

/-- What a run carries out: one step, one group, or a graph. -/
inductive Work where
  | step (s : Step)
  | group (name : String) (g : StepGroup)
  | graph (g : WorkflowGraph)

/-- Something to do in a rehearsal. What could not be read in it is absent. -/
inductive Command where
  /-- Runs work on a caller's context, which takes up the context of the run at the end. -/
  | run (handle context : String) (work : Option Work)
  | setContext (context : String) (value : Json)
  /-- Begins a run under a name, from a value if there is one. -/
  | begin (handle run : String) (value : Option Json)
  /-- Carries out work in a run that has begun. -/
  | goOn (run : String) (work : Option Work)
  | setValue (run key : String) (value : Json)
  | removeValue (run key : String)
  | showRun (run : String)
  | commit (run : String)
  /-- A new handle under a name. -/
  | fork (handle name : String)
  /-- A further name for a handle. -/
  | share (handle name : String)
  /-- Shows a handle, and whether an epoch is the current one and which error keys end a session. -/
  | showHandle (handle : String) (epoch : Option Nat) (keys : List String)
  /-- Carries out commands side by side. -/
  | together (commands : List Command)
  | loadMenu
  | selectNode (node : Option MenuNode)
  | toggle (roleId commandId : String) (flag : OperationFlag)
  | showPermission
  | refresh
  | setPage (index : Nat)
  | setPageSize (size : Nat)
  | requestPage (raw : Json)
  | setFilter (column text : String)
  | clearFilters
  | showTable
  /-- A command that nobody knows. -/
  | unknown
deriving Inhabited

/-- What is answered to a command. -/
inductive Reply where
  /-- The command, or something that it names, is not there. -/
  | unknown
  /-- The command holds something that could not be read. -/
  | unreadable
  | nothing
  /-- The outcome of a step, with the caller's context if there is a caller. -/
  | step (o : StepOutcome) (caller : Option Context)
  | group (o : GroupOutcome) (caller : Option Context)
  | graph (o : GraphOutcome) (caller : Option Context)
  | begun (run : Run)
  | removed (value : Option Json)
  | run (run : Run) (stale : Bool)
  | committed (context : Option Context)
  | epoch (n : Nat)
  | handle (h : Handle) (isCurrent : Option Bool) (rules : RunRules) (auth : List Bool)
  | all (replies : List Reply)
  | menu (tree : List MenuNode)
  | matrix (m : OperationMatrix)
  | row (r : OperationRow)
  | permission (s : PermissionScreen)
  | page (p : TablePage)
  | visible (rows : List (List String))
  | table (t : TableScreen)
  | refused (e : ScreenError)
deriving Inhabited

/-- What happens while a call is out: commands are carried out, then some rounds pass, and then the
answer comes, or a failure in its place. -/
structure Hook where
  during : List Command := []
  delay : Nat := 0
  failure : Option TransportError := none

namespace Work

/-- The graph that the work amounts to. -/
def toGraph : Work → WorkflowGraph
  | step s => .ofStep s
  | group name g => .ofGroup name g
  | graph g => g

/-- The reply for the work, given what became of its graph. -/
def reply (o : GraphOutcome) (caller : Option Context) : Work → Reply
  | step s => .step (o.onlyStep s) caller
  | group name _ => .group (o.only name) caller
  | graph _ => .graph o caller

end Work

namespace WorkflowGraph

/-- The number of groups and steps. -/
def weight (g : WorkflowGraph) : Nat := g.groups.foldl (fun n e => n + 1 + e.2.steps.length) 0

end WorkflowGraph

namespace Command

mutual

/-- The number of commands, groups and steps. -/
def weight : Command → Nat
  | run _ _ (some work) | goOn _ (some work) => 1 + work.toGraph.weight
  | together commands => 1 + weights commands
  | _ => 1

def weights : List Command → Nat
  | [] => 0
  | c :: rest => weight c + weights rest

end

end Command

end BackOffice
