import BackOffice.Workflow.Step
import BackOffice.Response.StepError

/-!
Requests with all their fields filled in, and a backend that answers them from recorded responses.
-/

namespace BackOffice

/-- One call of a workflow, with the values of its fields. -/
structure Request where
  workflow : String
  learnApi : Option String := none
  useMicroservice : Bool := false
  input : Keyed Json := []

namespace Request

def fields : List Record.Names := [["workflowId"], ["learnApi"], ["useMicroservice"], ["input"]]

def ofJson? (v : Json) : Option Request := do
  let [workflow, learnApi, useMicroservice, input] ← Record.slots fields v | none
  some {
    workflow := ← Record.required Json.text? workflow
    learnApi := ← Record.optional Json.text? learnApi
    useMicroservice := ← Record.defaulted Record.bool? false useMicroservice
    input := ← Record.defaulted Json.members? [] input }

def toJson (r : Request) : Json :=
  .obj ([("workflowId", .str r.workflow)] ++ Step.optionalMember "learnApi" (r.learnApi.map .str)
    ++ [("useMicroservice", .bool r.useMicroservice), ("input", .obj r.input)])

def field? (r : Request) (name : String) : Option Json := r.input.find? name

end Request

/-- Recorded responses by workflow, each list served in order; the last one of a list is served again
and again. Requests are kept. -/
structure Replay where
  queues : Keyed (List Json) := []
  calls : List Request := []

namespace Replay

/-- Adds a response behind those of a workflow. -/
def push (r : Replay) (workflow : String) (response : Json) : Replay :=
  { r with queues := r.queues.put workflow ((r.queues.find? workflow).getD [] ++ [response]) }

/-- The responses of an object; an array stands for one after another. -/
def ofJson (v : Json) : Replay :=
  (v.members?.getD []).foldl
    (fun r m => match m.2 with
      | .arr responses => responses.foldl (fun r response => r.push m.1 response) r
      | response => r.push m.1 response)
    {}

/-- Keeps a request and answers it. -/
def invoke (r : Replay) (request : Request) : Except TransportError Json × Replay :=
  let r := { r with calls := r.calls ++ [request] }
  match r.queues.find? request.workflow with
  | some (response :: rest) =>
    if rest.isEmpty then (.ok response, r)
    else (.ok response, { r with queues := r.queues.put request.workflow rest })
  | _ => (.error (.noResponse request.workflow), r)

/-- The requests of a workflow. -/
def callsFor (r : Replay) (workflow : String) : List Request :=
  r.calls.filter (·.workflow = workflow)

end Replay

end BackOffice
