import BackOffice.Run.Group
import BackOffice.Run.Handle
import BackOffice.Workflow.Plan

/-!
One run of a graph, wave by wave. The groups of a wave run side by side, each on a snapshot of the
context, and their writes are made again in the order of declaration once all have finished; or they run
one by one on the context itself. A group is given up when one that it depends on did not succeed, when
the run has halted, or when a newer run has begun.
-/

namespace BackOffice

/-- Where a graph is between two stretches. Groups go by their places. -/
inductive GraphStage where
  /-- These groups run side by side. -/
  | together (groups : List (Nat × GroupRun)) (waves : List (List Nat))
  /-- This group runs; the rest of its wave comes after it. -/
  | alone (place : Nat) (group : GroupRun) (rest : List Nat) (waves : List (List Nat))
  | finished

/-- A graph on its way. -/
structure GraphRun where
  groups : Keyed StepGroup
  plan : Plan
  run : Run
  stage : GraphStage
  /-- What became of groups, by place. -/
  results : List (Nat × GroupOutcome) := []

namespace Run

/-- Takes up what became of a group. -/
def absorb (rules : RunRules) (current : Bool) (r : Run) (o : GroupOutcome) : Run :=
  { r with
    stale := r.stale || o.status == .stale || !current
    halted := r.halted || (o.forceLogout && rules.haltOnAuth) }

end Run

namespace GraphRun

/-- The name and the steps of the group at a place. -/
def groupAt (g : GraphRun) (place : Nat) : String × StepGroup := g.groups[place]?.getD ("", ⟨[]⟩)

def record (g : GraphRun) (place : Nat) (o : GroupOutcome) : GraphRun :=
  { g with results := g.results ++ [(place, o)] }

/-- Gives up a group before it begins. -/
def giveUp (g : GraphRun) (place : Nat) (status : GroupStatus) : GraphRun :=
  g.record place (.notStarted (g.groupAt place).1 status)

/-- Whether some group that a group depends on did not succeed. -/
def isBlocked (g : GraphRun) (place : Nat) : Bool :=
  (g.plan.dependencies[place]?.getD []).any fun d =>
    !(g.results.lookup d).any fun o => o.status.satisfiesDependents

/-- The status under which a group has to be given up now. -/
def refusal? (counter : EpochCounter) (g : GraphRun) (place : Nat) : Option GroupStatus :=
  if g.run.isStale counter then some .stale
  else if g.run.halted || g.isBlocked place then some .skipped
  else none

/-- Gives up the groups of a wave that cannot run, and leaves the others. -/
def openWave (counter : EpochCounter) : List Nat → GraphRun → List Nat × GraphRun
  | [], g => ([], g)
  | place :: rest, g =>
    match g.refusal? counter place with
    | some status => openWave counter rest (g.giveUp place status)
    | none =>
      let (runnable, g) := openWave counter rest g
      (place :: runnable, g)

/-- A group about to run on a context. -/
def groupRun (g : GraphRun) (place : Nat) (context : Context) : GroupRun :=
  let (name, group) := g.groupAt place
  .of name g.run.epoch group context

/-- Goes on to the next groups: the rest of a wave that runs one by one, and then the next waves. -/
def goOn (rules : RunRules) (counter : EpochCounter) :
    List Nat → List (List Nat) → GraphRun → GraphRun
  | place :: rest, waves, g =>
    if g.run.isStale counter then goOn rules counter rest waves (g.giveUp place .stale)
    else if g.run.halted then goOn rules counter rest waves (g.giveUp place .skipped)
    else { g with stage := .alone place (g.groupRun place g.run.context) rest waves }
  | [], [], g => { g with stage := .finished }
  | [], wave :: waves, g =>
    let (runnable, g) := openWave counter wave g
    if 1 < runnable.length && rules.parallel then
      { g with
        stage := .together (runnable.map fun i => (i, g.groupRun i g.run.context.snapshot)) waves }
    else goOn rules counter runnable waves g
termination_by rest waves => (waves.length, rest.length)

/-- Begins the run of a graph. -/
def start (rules : RunRules) (counter : EpochCounter) (graph : WorkflowGraph) (run : Run) : GraphRun :=
  let plan := Plan.of graph
  goOn rules counter [] plan.waves { groups := graph.groups, plan, run, stage := .finished }

/-- The places of the groups that are running. -/
def active (g : GraphRun) : List Nat :=
  match g.stage with
  | .together groups _ => (groups.filter fun e => !e.2.isFinished).map Prod.fst
  | .alone place group _ _ => if group.isFinished then [] else [place]
  | .finished => []

/-- The running group at a place. -/
def running? (g : GraphRun) (place : Nat) : Option GroupRun :=
  match g.stage with
  | .together groups _ => groups.lookup place
  | .alone i group _ _ => if i = place then some group else none
  | .finished => none

/-- Replaces the running group at a place. -/
def put (g : GraphRun) (place : Nat) (group : GroupRun) : GraphRun :=
  { g with stage := match g.stage with
      | .together groups waves =>
        .together (groups.map fun e => if e.1 = place then (place, group) else e) waves
      | .alone i old rest waves => if i = place then .alone i group rest waves else .alone i old rest waves
      | .finished => .finished }

/-- Lets the group at a place go on. -/
def poll (rules : RunRules) (counter : EpochCounter) (place : Nat) (g : GraphRun) (t : Trace) :
    GraphRun × Trace :=
  match g.running? place with
  | none => (g, t)
  | some group =>
    let (group, t) := group.poll rules (counter.isCurrent g.run.epoch) t
    (g.put place group, t)

/-- Puts in an answer for a step of the group at a place. -/
def deliver (g : GraphRun) (place index : Nat) (answer : Answer) : GraphRun :=
  match g.running? place with
  | none => g
  | some group => g.put place (group.deliver index answer)

/-- Takes up what became of a group that ran side by side with others. The writes on its snapshot are
made again, unless a newer run has begun. -/
def merge (rules : RunRules) (current : Bool) (g : GraphRun) (place : Nat) (group : GroupRun) : GraphRun :=
  let context := if current then g.run.context.apply (group.context.writesSince 0) else g.run.context
  { g with run := { g.run with context }.absorb rules current group.outcome }.record place group.outcome

/-- Closes a stage whose groups have all finished, and goes on. -/
def close (rules : RunRules) (counter : EpochCounter) (g : GraphRun) : GraphRun :=
  let current := counter.isCurrent g.run.epoch
  match g.stage with
  | .together groups waves =>
    if groups.all fun e => e.2.isFinished then
      goOn rules counter [] waves (groups.foldl (fun g e => g.merge rules current e.1 e.2) g)
    else g
  | .alone place group rest waves =>
    if group.isFinished then
      let run := { g.run with context := group.context }.absorb rules current group.outcome
      goOn rules counter rest waves ({ g with run }.record place group.outcome)
    else g
  | .finished => g

def isFinished (g : GraphRun) : Bool :=
  match g.stage with
  | .finished => true
  | _ => false

/-- What became of the graph. A superseded run does not ask for the session to be ended. -/
def outcome (counter : EpochCounter) (g : GraphRun) : GraphOutcome :=
  let groups := g.groups.zipIdx.map fun e =>
    (g.results.lookup e.2).getD (.notStarted e.1.1 .skipped)
  let stale := g.run.isStale counter
  { epoch := g.run.epoch, stale, forceLogout := !stale && groups.any (·.forceLogout), groups }

end GraphRun

namespace WorkflowGraph

/-- The name of the group that a single step makes. -/
def singleName : String := "single"

/-- The graph of one group. -/
def ofGroup (name : String) (group : StepGroup) : WorkflowGraph := ⟨[(name, group)]⟩

/-- The graph of one step. -/
def ofStep (s : Step) : WorkflowGraph := ofGroup singleName ⟨[s]⟩

end WorkflowGraph

namespace GraphOutcome

/-- The outcome of a graph's only group. -/
def only (o : GraphOutcome) (name : String) : GroupOutcome := o.groups.head?.getD (.notStarted name .skipped)

/-- The outcome of a step that ran on its own. -/
def onlyStep (o : GraphOutcome) (s : Step) : StepOutcome :=
  let group := o.only WorkflowGraph.singleName
  group.steps.getLast?.getD
    (.unanswered WorkflowGraph.singleName 0 s (if group.status = .stale then .stale else .skipped))

end GraphOutcome

end BackOffice
