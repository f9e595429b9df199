import BackOffice.Response.StepError

/-!
What becomes of steps, groups and graphs, and what of it is shown to the user. What a newer run has
superseded shows nothing.
-/

namespace BackOffice

/-- What became of a step. -/
inductive StepStatus where
  | completed
  | failed
  /-- Never started, since its group had ended. -/
  | skipped
  /-- Answered after a newer run had begun, and dropped. -/
  | stale
deriving DecidableEq, Repr

/-- What became of a group. -/
inductive GroupStatus where
  /-- Every step completed. -/
  | completed
  /-- It ran to its end, but some step failed. -/
  | incomplete
  /-- A failure ended it. -/
  | failed
  /-- Never started, since a group that it depends on failed or the run had ended. -/
  | skipped
  /-- A newer run had begun. -/
  | stale
deriving DecidableEq, Repr

/-- What became of one step. -/
structure StepOutcome where
  group : String
  index : Nat
  workflow : String
  status : StepStatus
  envelope : Option Envelope := none
  error : Option StepError := none

/-- What became of one group. -/
structure GroupOutcome where
  name : String
  status : GroupStatus
  steps : List StepOutcome := []
  forceLogout : Bool := false

/-- What became of the groups of a graph. -/
structure GraphOutcome where
  epoch : Nat
  stale : Bool
  forceLogout : Bool
  groups : List GroupOutcome

namespace StepStatus

def name : StepStatus → String
  | completed => "completed"
  | failed => "failed"
  | skipped => "skipped"
  | stale => "stale"

end StepStatus

namespace GroupStatus

def name : GroupStatus → String
  | completed => "completed"
  | incomplete => "partial"
  | failed => "failed"
  | skipped => "skipped"
  | stale => "stale"

/-- Whether groups that depend on the group may run. -/
def satisfiesDependents : GroupStatus → Bool
  | completed | incomplete => true
  | _ => false

end GroupStatus

/-- The error shown on a screen for a failure. -/
def ScreenError.ofFailure (forceLogout : Bool) (e : UserError) : ScreenError :=
  if forceLogout then .forceLogout e else .backend e

namespace StepOutcome

def isSuccess (o : StepOutcome) : Bool := o.status == .completed

def isAuthFailure (o : StepOutcome) : Bool := o.error.any StepError.isAuth

/-- The data of a step that completed. -/
def data? (o : StepOutcome) : Option Json := if o.isSuccess then o.envelope.bind Envelope.data else none

def userError? (o : StepOutcome) : Option UserError :=
  if o.status = .stale then none else o.error.map StepError.userError

def toJson (o : StepOutcome) : Json :=
  .obj ([("group", .str o.group), ("index", .ofNat o.index), ("workflow_id", .str o.workflow),
      ("status", .str o.status.name)]
    ++ (match o.envelope with
      | some e => [("envelope", e.toJson)]
      | none => [])
    ++ match o.error with
      | some e => [("error", e.report.toJson)]
      | none => [])

end StepOutcome

namespace GroupOutcome

/-- The outcome of a group that was not started. -/
def notStarted (name : String) (status : GroupStatus) : GroupOutcome := { name, status }

def isSuccess (o : GroupOutcome) : Bool := o.status == .completed

/-- The envelopes that were received, in step order. -/
def envelopes (o : GroupOutcome) : List Envelope := o.steps.filterMap StepOutcome.envelope

/-- The data of the last step that has any. -/
def lastData? (o : GroupOutcome) : Option Json := o.steps.reverse.findSome? StepOutcome.data?

/-- The error of the first step that has one. -/
def userError? (o : GroupOutcome) : Option UserError :=
  if o.status = .stale then none else o.steps.findSome? StepOutcome.userError?

/-- The error for a group that did not complete. -/
def failure (o : GroupOutcome) : ScreenError :=
  if o.status = .stale then .stale
  else .ofFailure o.forceLogout
    (o.userError?.getD { info := s!"Workflow group '{o.name}' did not complete" })

def toJson (o : GroupOutcome) : Json :=
  .obj [("name", .str o.name), ("status", .str o.status.name),
    ("steps", .arr (o.steps.map StepOutcome.toJson)), ("force_logout", .bool o.forceLogout)]

end GroupOutcome

namespace GraphOutcome

/-- The outcome of the group with a name. -/
def group? (o : GraphOutcome) (name : String) : Option GroupOutcome :=
  o.groups.find? (·.name = name)

def isSuccess (o : GraphOutcome) : Bool := !o.stale && o.groups.all GroupOutcome.isSuccess

/-- The data of the last group that has any. -/
def lastData? (o : GraphOutcome) : Option Json := o.groups.reverse.findSome? GroupOutcome.lastData?

/-- The error of the first group that has one. -/
def userError? (o : GraphOutcome) : Option UserError :=
  if o.stale then none else o.groups.findSome? GroupOutcome.userError?

/-- The error for a graph that did not complete. -/
def failure (o : GraphOutcome) : ScreenError :=
  if o.stale then .stale
  else .ofFailure o.forceLogout (o.userError?.getD { info := "Workflow did not complete" })

def toJson (o : GraphOutcome) : Json :=
  .obj [("epoch", .ofNat o.epoch), ("stale", .bool o.stale), ("force_logout", .bool o.forceLogout),
    ("groups", .arr (o.groups.map GroupOutcome.toJson))]

end GraphOutcome

end BackOffice
