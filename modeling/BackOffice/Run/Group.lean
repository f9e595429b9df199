import BackOffice.Run.Binding
import BackOffice.Run.Event
import BackOffice.Run.Outcome
import BackOffice.Settings
import BackOffice.Workflow.Graph

/-!
One run of a group. The group goes on whenever answers have come: it starts its steps one after another,
waits where a step is awaited, and at its end takes up the answers of the other steps in step order.
Between two of these stretches anything may happen, a newer run among it; what is answered then is
dropped.
-/

namespace BackOffice

/-- What comes back for a request. -/
abbrev Answer := Except TransportError Json

/-- A request that a group sends for the step with an index. -/
structure Call where
  index : Nat
  request : Request
  /-- Whether the group waits for the answer before it goes on. -/
  awaited : Bool

/-- What comes out of a stretch of a run, with what is left of its surroundings. -/
structure Trace where
  surroundings : Surroundings
  events : List Event := []
  calls : List Call := []

/-- Where a group is between two stretches. -/
inductive GroupStage where
  /-- These steps are to be started next. -/
  | starting (rest : List (Nat × Step))
  /-- A step is awaited; the others come after it. -/
  | awaiting (index : Nat) (step : Step) (rest : List (Nat × Step))
  /-- All steps are started; these are still to be taken up, in this order. -/
  | joining (rest : List (Nat × Step))
  | finished

/-- A group on its way. -/
structure GroupRun where
  name : String
  epoch : Nat
  steps : List Step
  context : Context
  stage : GroupStage
  /-- The steps that were started and not awaited. -/
  detached : List (Nat × Step) := []
  /-- What became of steps, by index. -/
  outcomes : List (Nat × StepOutcome) := []
  /-- The answers that have come, by step index. -/
  answers : List (Nat × Answer) := []
  /-- Whether no further step is started. -/
  halted : Bool := false
  stale : Bool := false
  forceLogout : Bool := false

/-- The envelope of an answer; a failure to get one becomes an envelope of its own. -/
def Envelope.ofResult : Answer → Envelope
  | .ok v => ofAnswer v
  | .error e => failure 0 { key := some ErrorEntry.transportKey, info := e.message }

/-- The writes of a step that completed with some data: all of it in the step's slot, then what is found
at the paths of its write-backs. -/
def Step.writesOf (s : Step) (data : Option Json) : List Write :=
  (s.slot.map fun key => (key, data.getD .null)).toList
    ++ s.writeBacks.filterMap fun w => (data.bind (·.path? w.source)).map fun v => (w.target, v)

/-- What is told of a failure: the end of a session right after the failure that brought it. -/
def EventKind.ofFailure (group workflow : String) (e : StepError) : List EventKind :=
  failed group workflow e :: match e with
    | .auth entry => [forceLogout entry]
    | _ => []

/-- The outcome of a step that got no answer. -/
def StepOutcome.unanswered (group : String) (index : Nat) (s : Step) (status : StepStatus) : StepOutcome :=
  { group, index, workflow := s.workflow, status }

namespace Trace

/-- Tells of events, unless the run is superseded. -/
def tell (t : Trace) (current : Bool) (epoch : Nat) (kinds : List EventKind) : Trace :=
  if current then
    { t with events := t.events ++ kinds.map fun kind => ⟨epoch, kind, t.surroundings.now⟩ }
  else t

def send (t : Trace) (call : Call) : Trace := { t with calls := t.calls ++ [call] }

end Trace

namespace GroupRun

/-- A group that has not begun. -/
def of (name : String) (epoch : Nat) (group : StepGroup) (context : Context) : GroupRun :=
  { name, epoch, steps := group.steps, context,
    stage := .starting (group.steps.zipIdx.map fun s => (s.2, s.1)) }

def record (g : GroupRun) (index : Nat) (o : StepOutcome) : GroupRun :=
  { g with outcomes := g.outcomes ++ [(index, o)] }

/-- Notes that a step got no answer that counts. -/
def giveUp (g : GroupRun) (index : Nat) (s : Step) (status : StepStatus) : GroupRun :=
  g.record index (.unanswered g.name index s status)

/-- Takes up the failure of a step. A critical step and, if so configured, the end of the session halt
the group. -/
def fail (rules : RunRules) (g : GroupRun) (index : Nat) (s : Step) (envelope : Option Envelope)
    (e : StepError) (t : Trace) (current : Bool) : GroupRun × Trace :=
  let o := { StepOutcome.unanswered g.name index s .failed with envelope, error := some e }
  ({ g.record index o with
      halted := g.halted || s.critical || (e.isAuth && rules.haltOnAuth)
      forceLogout := g.forceLogout || e.isAuth },
    t.tell current g.epoch (EventKind.ofFailure g.name s.workflow e))

/-- Takes up the answer of a step. Only a step that completed writes into the context. -/
def settle (rules : RunRules) (g : GroupRun) (index : Nat) (s : Step) (answer : Answer) (t : Trace) :
    GroupRun × Trace :=
  let e := Envelope.ofResult answer
  match StepError.ofVerdict? (Verdict.of rules.authKeys e) with
  | none =>
    let o := { StepOutcome.unanswered g.name index s .completed with envelope := some e }
    ({ g.record index o with context := g.context.apply (s.writesOf e.data) },
      t.tell true g.epoch [.completed g.name s.workflow])
  | some err => g.fail rules index s (some e) err t true

/-- Takes up the answers of detached steps, in order, as far as they have come. -/
def join (rules : RunRules) (current : Bool) : List (Nat × Step) → GroupRun → Trace → GroupRun × Trace
  | [], g, t => ({ g with stage := .finished }, t)
  | (i, s) :: rest, g, t =>
    match g.answers.lookup i with
    | none => ({ g with stage := .joining ((i, s) :: rest) }, t)
    | some answer =>
      if current then
        let (g, t) := g.settle rules i s answer t
        join rules current rest g t
      else join rules current rest { g.giveUp i s .stale with stale := true } t

/-- Starts steps up to the first that is awaited. -/
def start (rules : RunRules) (current : Bool) : List (Nat × Step) → GroupRun → Trace → GroupRun × Trace
  | [], g, t => join rules current g.detached g t
  | (i, s) :: rest, g, t =>
    if g.halted then start rules current rest (g.giveUp i s .skipped) t
    else match s.bind g.context t.surroundings with
      | (.error e, surroundings) =>
        let (g, t) := g.fail rules i s none (.binding e) { t with surroundings } current
        start rules current rest g t
      | (.ok request, surroundings) =>
        let t := ({ t with surroundings }.tell current g.epoch [.dispatched g.name s.workflow]).send
          ⟨i, request, s.awaited⟩
        if s.awaited then ({ g with stage := .awaiting i s rest }, t)
        else start rules current rest { g with detached := g.detached ++ [(i, s)] } t

/-- Goes on as far as answers have come. An awaited answer that comes too late ends the group, and with
it all detached steps. -/
def poll (rules : RunRules) (current : Bool) (g : GroupRun) (t : Trace) : GroupRun × Trace :=
  match g.stage with
  | .starting rest => start rules current rest g t
  | .awaiting i s rest =>
    match g.answers.lookup i with
    | none => (g, t)
    | some answer =>
      if current then
        let (g, t) := g.settle rules i s answer t
        start rules current rest g t
      else ({ g.giveUp i s .stale with stale := true, stage := .finished }, t)
  | .joining rest => join rules current rest g t
  | .finished => (g, t)

/-- Puts in an answer. -/
def deliver (g : GroupRun) (index : Nat) (answer : Answer) : GroupRun :=
  { g with answers := g.answers ++ [(index, answer)] }

def isFinished (g : GroupRun) : Bool :=
  match g.stage with
  | .finished => true
  | _ => false

/-- What became of each step; a step of which nothing is known was never started or came too late. -/
def stepOutcomes (g : GroupRun) : List StepOutcome :=
  g.steps.zipIdx.map fun s =>
    (g.outcomes.lookup s.2).getD (.unanswered g.name s.2 s.1 (if g.stale then .stale else .skipped))

def status (g : GroupRun) : GroupStatus :=
  if g.stale then .stale
  else if g.halted then .failed
  else if g.stepOutcomes.all StepOutcome.isSuccess then .completed
  else .incomplete

def outcome (g : GroupRun) : GroupOutcome :=
  { name := g.name, status := g.status, steps := g.stepOutcomes, forceLogout := g.forceLogout && !g.stale }

end GroupRun

end BackOffice
