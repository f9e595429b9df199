import BackOffice.Source.Form
import BackOffice.Workflow.InputExpr

/-!
The steps of a workflow: templates of requests, with what is kept of the answers.
-/

namespace BackOffice

/-- Copies a value out of a response's data into the context. -/
structure WriteBack where
  /-- Dot path into the data; the empty path takes all of it. -/
  source : String
  /-- Key in the context. -/
  target : String
deriving DecidableEq

/-- One call of a workflow. -/
structure Step where
  /-- The key under which the whole data of a successful response is kept. -/
  slot : Option String := none
  /-- The workflow that is called. -/
  workflow : String
  learnApi : Option String := none
  useMicroservice : Option Bool := none
  /-- Whether the next step waits for the response. -/
  awaited : Bool := true
  /-- Whether a failure ends the group. -/
  critical : Bool := false
  /-- The fields of the request, as written. -/
  input : Keyed Json := []
  writeBacks : List WriteBack := []

namespace WriteBack

def fields : List Record.Names := [["from"], ["to"]]

def form : Form := .record (fields.zip [.text, .text])

def ofJson? (v : Json) : Option WriteBack := do
  let [source, target] ← Record.slots fields v | none
  some {
    source := ← Record.defaulted Json.text? "" source
    target := ← Record.required Json.text? target }

def toJson (w : WriteBack) : Json := .obj [("from", .str w.source), ("to", .str w.target)]

end WriteBack

namespace Step

def fields : List Record.Names :=
  [["id"], ["workflowId", "workflowid", "workflow_id"], ["learnApi", "learnapi", "learn_api"],
    ["useMicroservice", "usemicroservice", "use_microservice"],
    ["shouldAwait", "shouldawait", "should_await"], ["critical"], ["input"],
    ["writeBack", "write_back"]]

def form : Form :=
  .record (fields.zip [.maybe .text, .text, .maybe .text, .maybe .flag, .flag, .flag, .keyed .any,
    .list WriteBack.form])

def ofJson? (v : Json) : Option Step := do
  let [slot, workflow, learnApi, useMicroservice, awaited, critical, input, writeBacks] ←
    Record.slots fields v | none
  some {
    slot := ← Record.optional Json.text? slot
    workflow := ← Record.required Json.text? workflow
    learnApi := ← Record.optional Json.text? learnApi
    useMicroservice := ← Record.optional Record.bool? useMicroservice
    awaited := ← Record.defaulted Record.bool? true awaited
    critical := ← Record.defaulted Record.bool? false critical
    input := ← Record.defaulted Json.members? [] input
    writeBacks := ← Record.defaulted (Record.list? WriteBack.ofJson?) [] writeBacks }

/-- A member that is left out when there is no value. -/
def optionalMember (name : String) : Option Json → Keyed Json
  | some v => [(name, v)]
  | none => []

def toJson (s : Step) : Json :=
  .obj (optionalMember "id" (s.slot.map .str)
    ++ [("workflowId", .str s.workflow)]
    ++ optionalMember "learnApi" (s.learnApi.map .str)
    ++ optionalMember "useMicroservice" (s.useMicroservice.map .bool)
    ++ [("shouldAwait", .bool s.awaited), ("critical", .bool s.critical), ("input", .obj s.input)]
    ++ if s.writeBacks.isEmpty then [] else [("writeBack", .arr (s.writeBacks.map WriteBack.toJson))])

/-- The step with a field set to an expression. -/
def withInput (s : Step) (field : String) (e : InputExpr) : Step :=
  { s with input := s.input.put field e.toJson }

def withWriteBack (s : Step) (source target : String) : Step :=
  { s with writeBacks := s.writeBacks ++ [⟨source, target⟩] }

/-- The expressions of the fields, in declaration order. -/
def inputs (s : Step) : List (String × InputExpr) := s.input.mapValues InputExpr.ofJson

/-- The keys of the context that the step reads. -/
def reads (s : Step) : List String := s.inputs.filterMap fun i => i.2.contextKey?

/-- The keys of the context that the step writes when it succeeds. -/
def writes (s : Step) : List String := s.slot.toList ++ s.writeBacks.map WriteBack.target

end Step

/-- The keys without repetitions, by code points. -/
def sortedKeys (keys : List String) : List String := keys.eraseDups.mergeSort fun a b => decide (a ≤ b)

end BackOffice
