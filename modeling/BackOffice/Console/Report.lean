import BackOffice.Console.Arguments
import BackOffice.Rehearsal.Play
import BackOffice.Source.Contents

/-!
Replaying a graph against recorded responses: everything is read from files, the graph is run once on the
starting context, and what became of it is reported.
-/

namespace BackOffice

/-- What became of a graph that was replayed. -/
structure ReplayReport where
  outcome : GraphOutcome
  context : Context
  events : List Event

namespace ReplayReport

def toJson (r : ReplayReport) : Json :=
  .obj [("outcome", r.outcome.toJson),
    ("user_error", (r.outcome.userError?.map UserError.toJson).getD .null),
    ("context", r.context.toJson), ("events", .arr (r.events.map Event.toJson))]

end ReplayReport

/-- What files hold. -/
abbrev Files := String → Except FileFault String

namespace Files

/-- Reads a file in the format that its name tells. -/
def read {α : Type} (files : Files) (decode : SourceFormat → String → Except SourceError α)
    (path : String) : Except SourceError α :=
  match files path with
  | .error fault => .error (.file fault)
  | .ok text => decode (.ofPath path) text

/-- Reads a file if there is one to read. -/
def readOr {α : Type} (files : Files) (decode : SourceFormat → String → Except SourceError α)
    (default : α) : Option String → Except SourceError α
  | none => .ok default
  | some path => files.read decode path

end Files

namespace WorkflowGraph

/-- Runs the graph once against recorded responses. -/
def replay (g : WorkflowGraph) (rules : RunRules) (responses : Replay) (c : Context) (s : Surroundings) :
    Option ReplayReport :=
  let rehearsal : Rehearsal := {
    rules, surroundings := s, backend := responses
    handles := Shared.insert {} "main" {}
    contexts := [("main", c)] }
  match rehearsal.play [.run "main" "main" (some (.graph g))] with
  | [{ reply := some (.graph outcome (some context)), events, .. }] => some { outcome, context, events }
  | _ => none

end WorkflowGraph

namespace ReplayFiles

/-- Reads the files, settings first, and replays the graph. -/
def report (paths : ReplayFiles) (files : Files) (s : Surroundings) :
    Except SourceError (Option ReplayReport) := do
  let settings ← files.readOr SourceFormat.settings {} paths.settings
  let graph ← files.read SourceFormat.graph paths.graph
  let responses ← files.read SourceFormat.value paths.responses
  let context ← files.readOr SourceFormat.value (.obj []) paths.context
  .ok (graph.replay settings.runs (.ofJson responses) (.ofJson context) s)

end ReplayFiles

/-- What the command line answers. -/
inductive ConsoleAnswer where
  | report (r : ReplayReport)
  | failure (e : SourceError)
  /-- The run came to no end. -/
  | unfinished
  | help
  | version
  | misuse

namespace ConsoleAnswer

def exitCode : ConsoleAnswer → UInt32
  | report _ | help | version => 0
  | failure _ | unfinished => 1
  | misuse => 2

/-- The message of a failure. -/
def message? : ConsoleAnswer → Option String
  | failure e => some e.message
  | unfinished => some "Internal error: the run came to no end"
  | _ => none

end ConsoleAnswer

namespace Invocation

def answer (files : Files) (s : Surroundings) : Invocation → ConsoleAnswer
  | replay paths =>
    match paths.report files s with
    | .ok (some r) => .report r
    | .ok none => .unfinished
    | .error e => .failure e
  | help => .help
  | version => .version
  | misuse => .misuse

end Invocation

end BackOffice
