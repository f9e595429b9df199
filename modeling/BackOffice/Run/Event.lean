import BackOffice.Calendar.Moment
import BackOffice.Response.StepError

/-!
What a run tells its listener while it goes on.
-/

namespace BackOffice

/-- What happened to a step, or to the session. -/
inductive EventKind where
  | dispatched (group workflow : String)
  | completed (group workflow : String)
  | failed (group workflow : String) (error : StepError)
  /-- The session has to be ended, for the reason in an entry. -/
  | forceLogout (entry : ErrorEntry)
deriving DecidableEq, Repr

/-- What happened in which run, and when. -/
structure Event where
  epoch : Nat
  kind : EventKind
  time : Moment
deriving DecidableEq, Repr

namespace EventKind

/-- The execution that an error tells of, or null. -/
def executeIdJson (entry : Option ErrorEntry) : Json := .ofText? (entry.bind ErrorEntry.executeId)

def name : EventKind → String
  | dispatched .. => "step_dispatched"
  | completed .. => "step_completed"
  | failed .. => "step_failed"
  | forceLogout _ => "force_logout"

/-- The members that describe what happened. -/
def members : EventKind → Keyed Json
  | dispatched group workflow | completed group workflow =>
    [("group", .str group), ("workflow_id", .str workflow)]
  | failed group workflow error =>
    [("group", .str group), ("workflow_id", .str workflow), ("error", .str error.message),
      ("execute_id", executeIdJson error.entry?)]
  | forceLogout entry => [("reason", .str entry.info), ("execute_id", executeIdJson entry)]

end EventKind

namespace Event

def toJson (e : Event) : Json :=
  .obj ([("type", .str e.kind.name), ("epoch", .ofNat e.epoch)] ++ e.kind.members
    ++ [("timestamp", .str (e.time.text false))])

end Event

end BackOffice
