import BackOffice.Proofs.Run.Stretch

/-!
Runs that take turns on handles. A turn lasts from one await to the next at the most: somebody begins a
run, changes its context, sets it to work, hands it in or makes a new handle; an answer arrives; or one
group goes on. Every list of turns is a possible course of events.
-/

namespace BackOffice

namespace GraphRun

/-- Begins with the first group of a stage that has just been opened. -/
def enter (rules : RunRules) (counter : EpochCounter) (g : GraphRun) (t : Trace) : GraphRun × Trace :=
  match g.active with
  | [] => (g, t)
  | place :: _ => g.poll rules counter place t

/-- Lets the group at a place go on. When the last group of a stage has finished, the next stage is opened
in the same turn. -/
def resume (rules : RunRules) (counter : EpochCounter) (place : Nat) (g : GraphRun) (t : Trace) :
    GraphRun × Trace :=
  let (g, t) := g.poll rules counter place t
  if g.active.isEmpty then (g.close rules counter).enter rules counter t else (g, t)

end GraphRun

/-- What has become of a run that was begun. -/
inductive RunState where
  | idle (run : Run)
  | working (graph : GraphRun)
  /-- The run was handed in, and this was kept of it. -/
  | closed (kept : Option Context)

/-- A run with the place of its handle. -/
structure BegunRun where
  handle : Nat
  state : RunState

/-- Handles by place, and runs in the order in which they were begun. -/
structure Interplay where
  rules : RunRules
  surroundings : Surroundings
  handles : List Handle
  runs : List BegunRun := []
  events : List Event := []
  /-- The requests that were sent. -/
  calls : List Call := []

/-- What one party does between two awaits. Runs go by their numbers, handles and groups by places. -/
inductive Turn where
  | begin (handle : Nat)
  | beginWith (handle : Nat) (context : Context)
  /-- Whoever began a run changes its context. -/
  | edit (run : Nat) (context : Context)
  /-- A step, a group or a graph is carried out in a run. -/
  | work (run : Nat) (graph : WorkflowGraph)
  | answer (run place index : Nat) (answer : Answer)
  | resume (run place : Nat)
  | commit (run : Nat)
  | fork (handle : Nat)
  | tick (now : Moment)

namespace Turn

/-- The run that takes the turn. -/
def run? : Turn → Option Nat
  | edit run _ | work run _ | answer run .. | resume run _ | commit run => some run
  | _ => none

end Turn

namespace RunState

/-- The state of a run after a stretch of its graph. -/
def of (g : GraphRun) : RunState := if g.isFinished then idle g.run else working g

/-- The contexts that a run may still hand in or write to. -/
def contexts : RunState → List Context
  | idle run => [run.context]
  | working g => g.contexts
  | closed _ => []

end RunState

namespace Interplay

/-- One handle on which nothing was begun. -/
def opening (rules : RunRules) (surroundings : Surroundings) : Interplay :=
  { rules, surroundings, handles := [{}] }

def counterAt (s : Interplay) (handle : Nat) : EpochCounter := (s.handles[handle]?.getD {}).counter

/-- Takes up a run that was begun on a handle. -/
def enrol (s : Interplay) (handle : Nat) (begun : Handle × Run) : Interplay :=
  { s with
    handles := s.handles.set handle begun.1
    runs := s.runs ++ [⟨handle, .idle begun.2⟩] }

/-- Takes up what came out of a stretch of a run. -/
def carry (s : Interplay) (run handle : Nat) (stretch : GraphRun × Trace) : Interplay :=
  { s with
    runs := s.runs.set run ⟨handle, .of stretch.1⟩
    surroundings := stretch.2.surroundings
    events := s.events ++ stretch.2.events
    calls := s.calls ++ stretch.2.calls }

/-- One turn. A turn that cannot be taken changes nothing. -/
def take (s : Interplay) : Turn → Interplay
  | .begin handle => match s.handles[handle]? with
    | some h => s.enrol handle h.begin
    | none => s
  | .beginWith handle c => match s.handles[handle]? with
    | some h => s.enrol handle (h.beginWith c)
    | none => s
  | .edit run c => match s.runs[run]? with
    | some ⟨handle, .idle r⟩ => { s with runs := s.runs.set run ⟨handle, .idle { r with context := c }⟩ }
    | _ => s
  | .work run graph => match s.runs[run]? with
    | some ⟨handle, .idle r⟩ => s.carry run handle
        ((GraphRun.start s.rules (s.counterAt handle) graph r).enter s.rules (s.counterAt handle)
          { surroundings := s.surroundings })
    | _ => s
  | .answer run place index answer => match s.runs[run]? with
    | some ⟨handle, .working g⟩ =>
      { s with runs := s.runs.set run ⟨handle, .working (g.deliver place index answer)⟩ }
    | _ => s
  | .resume run place => match s.runs[run]? with
    | some ⟨handle, .working g⟩ => s.carry run handle
        (g.resume s.rules (s.counterAt handle) place { surroundings := s.surroundings })
    | _ => s
  | .commit run => match s.runs[run]? with
    | some ⟨handle, .idle r⟩ =>
      let (h, kept) := (s.handles[handle]?.getD {}).commit r
      { s with handles := s.handles.set handle h, runs := s.runs.set run ⟨handle, .closed kept⟩ }
    | _ => s
  | .fork handle => if handle < s.handles.length then { s with handles := s.handles ++ [{}] } else s
  | .tick now => { s with surroundings := { s.surroundings with now } }

/-- Turns, one after another. -/
def after (s : Interplay) (turns : List Turn) : Interplay := turns.foldl take s

/-- The handles of the runs, in the order in which the runs were begun. -/
def places (s : Interplay) : List Nat := s.runs.map BegunRun.handle

/-- How many runs were begun on a handle after a run. -/
def later (s : Interplay) (run handle : Nat) : Nat := (s.places.drop (run + 1)).count handle

/-- Whether another run was begun later on the same handle. -/
def Superseded (s : Interplay) (run : Nat) : Prop :=
  ∃ handle newer, run < newer ∧ s.places[run]? = some handle ∧ s.places[newer]? = some handle

/-- The context kept at a handle. -/
def committedAt (s : Interplay) (handle : Nat) : Option Context :=
  s.handles[handle]?.map Handle.committed

/-- The contexts that a run may still hand in or write to. -/
def contextsOf (s : Interplay) (run : Nat) : List Context :=
  (s.runs[run]?.map fun b => b.state.contexts).getD []

/-- The handle that a turn is about. -/
def handleOf (s : Interplay) : Turn → Option Nat
  | .begin handle | .beginWith handle _ => some handle
  | turn => turn.run?.bind (s.places[·]?)

/-- Whether none of some turns is about a handle. -/
def Avoids (handle : Nat) : Interplay → List Turn → Prop
  | _, [] => True
  | s, turn :: rest => s.handleOf turn ≠ some handle ∧ Avoids handle (s.take turn) rest

/-- The requests that a turn sends even in a run that is superseded: the first ones of a group that runs
side by side with others and has not begun. -/
def lateCalls (s : Interplay) : Turn → List Call
  | .resume run place => match s.runs[run]? with
    | some ⟨_, .working g⟩ => match g.stage with
      | .together groups _ => match (groups.lookup place).filter GroupRun.isUnbegun with
        | some group => (group.poll s.rules true { surroundings := s.surroundings }).2.calls
        | none => []
      | _ => []
    | _ => []
  | _ => []

end Interplay

end BackOffice
