import BackOffice.Calendar.Moment
import BackOffice.Run.Context
import BackOffice.Workflow.Request

/-!
Binding a step to a context: every field of the request gets its value, or nothing is sent at all.
-/

namespace BackOffice

/-- Where fresh identifiers come from: a stem and a count. -/
structure IdSource where
  stem : String
  next : Nat := 0
deriving DecidableEq, Repr

namespace IdSource

/-- The next identifier. -/
def fresh (s : IdSource) : String := s!"{s.stem}-{s.next}"

def advance (s : IdSource) : IdSource := { s with next := s.next + 1 }

end IdSource

/-- What a binding may ask for besides the context. -/
structure Surroundings where
  now : Moment
  ids : IdSource

namespace Surroundings

def advance (s : Surroundings) : Surroundings := { s with ids := s.ids.advance }

end Surroundings

namespace Binding

/-- The value of a key; its default if the key is missing or null. -/
def lookup (field key : String) (default : Option Json) (c : Context) : Except BindingError Json :=
  match (c.get? key).filter (!·.isNull) with
  | some v => .ok v
  | none => match default with
    | some v => .ok v
    | none => .error (.missingKey field key)

/-- The value of an expression. -/
def value (field : String) (c : Context) (s : Surroundings) : InputExpr → Except BindingError Json
  | .literal v => .ok v
  | .contextRef key default => lookup field key default c
  | .transform (.fromContext key default) => lookup field key default c
  | .transform .uuid => .ok (.str s.ids.fresh)
  | .transform .now => .ok (.str (s.now.text true))
  | .transform .timestamp => .ok (.whole s.now.toMillis)
  | .transform .today => .ok (.str s.now.date.text)
  | .transform (.unknown name) => .error (.unknownTransform field name)
  | .script _ => .error (.unsupportedScript field)

/-- What is left of the surroundings once an expression has its value: an identifier is used up. -/
def after (s : Surroundings) : InputExpr → Surroundings
  | .transform .uuid => s.advance
  | _ => s

/-- The values of fields, in order; the first that has none ends the binding. -/
def fields (c : Context) (s : Surroundings) :
    List (String × InputExpr) → Except BindingError (Keyed Json) × Surroundings
  | [] => (.ok [], s)
  | (field, e) :: rest =>
    match value field c s e with
    | .error err => (.error err, after s e)
    | .ok v =>
      match fields c (after s e) rest with
      | (.ok more, s) => (.ok ((field, v) :: more), s)
      | (.error err, s) => (.error err, s)

end Binding

/-- The request of a step in a context. -/
def Step.bind (step : Step) (c : Context) (s : Surroundings) : Except BindingError Request × Surroundings :=
  match Binding.fields c s step.inputs with
  | (.error err, s) => (.error err, s)
  | (.ok input, s) =>
    (.ok {
        workflow := step.workflow
        learnApi := step.learnApi
        useMicroservice := step.useMicroservice.getD false
        input },
      s)

end BackOffice
