import BackOffice.Response.Verdict

/-!
Why a step fails, and how that is reported: to the user, to a screen, and with a code.
-/

namespace BackOffice

/-- Why a field of a request cannot be bound. -/
inductive BindingError where
  | missingKey (field key : String)
  | unsupportedScript (field : String)
  | unknownTransform (field name : String)
deriving DecidableEq, Repr

namespace BindingError

def message : BindingError → String
  | missingKey field key => s!"Context key not found: {key} (input field '{field}')"
  | unsupportedScript field => s!"Script expressions are not executed (input field '{field}')"
  | unknownTransform field name => s!"Unknown transform '{name}' (input field '{field}')"

def field : BindingError → String
  | missingKey field _ | unsupportedScript field | unknownTransform field _ => field

end BindingError

/-- Why a request has no answer. -/
inductive TransportError where
  | network (text : String)
  | decode (text : String)
  | noResponse (workflow : String)
deriving DecidableEq, Repr

namespace TransportError

def message : TransportError → String
  | network text => s!"Network error: {text}"
  | decode text => s!"Response decode error: {text}"
  | noResponse workflow => s!"No response registered for workflow: {workflow}"

end TransportError

/-- An error under a code. -/
structure ErrorReport where
  code : String
  retryable : Bool
  severity : String
  message : String
  executeId : Option String := none
  httpStatus : Option Nat := none
deriving DecidableEq, Repr

namespace ErrorReport

def toJson (r : ErrorReport) : Json :=
  .obj ([("code", .str r.code),
      ("retryability", .str (if r.retryable then "retryable" else "non_retryable")),
      ("severity", .str r.severity), ("message", .str r.message)]
    ++ ErrorEntry.textMember "execute_id" r.executeId
    ++ match r.httpStatus with
      | some status => [("http_status", .ofNat status)]
      | none => [])

end ErrorReport

/-- Why a step failed. -/
inductive StepError where
  | binding (e : BindingError)
  | execution (entry : ErrorEntry)
  | auth (entry : ErrorEntry)
deriving DecidableEq, Repr

namespace StepError

def message : StepError → String
  | binding e => s!"Resolution error: {e.message}"
  | execution entry => s!"Execution error: {entry.info}"
  | auth entry => s!"Authentication error: {entry.info}"

def isAuth : StepError → Bool
  | auth _ => true
  | _ => false

/-- The entry of the envelope behind the error, if one was received. -/
def entry? : StepError → Option ErrorEntry
  | execution entry | auth entry => some entry
  | binding _ => none

/-- The failure that a verdict tells of. -/
def ofVerdict? : Verdict → Option StepError
  | .success => none
  | .execution entry => some (execution entry)
  | .auth entry => some (auth entry)

/-- The code of a failure that an entry tells of. -/
def codeOf (entry : ErrorEntry) : String :=
  if entry.key = some ErrorEntry.transportKey then "network_error"
  else if entry.key = some ErrorEntry.decodeKey then "decode_error"
  else "execution_error"

/-- The error under its code. Only a transport failure may be worth another try. -/
def report : StepError → ErrorReport
  | binding (.missingKey field key) =>
    { code := "variable_not_found", retryable := false, severity := "error",
      message := (binding (.missingKey field key)).message }
  | binding e =>
    { code := "unsupported_script", retryable := false, severity := "error",
      message := (binding e).message }
  | execution entry =>
    { code := codeOf entry, retryable := codeOf entry == "network_error", severity := "error",
      message := entry.info, executeId := entry.executeId }
  | auth entry =>
    { code := "authentication_error", retryable := false, severity := "fatal", message := entry.info,
      executeId := entry.executeId, httpStatus := some 401 }

/-- The error as it is shown to the user. -/
def userError (e : StepError) : UserError :=
  match e.entry? with
  | some entry => .ofEntry entry
  | none => { info := e.message }

end StepError

/-- Why an operation of a screen fails. -/
inductive ScreenError where
  | missingGroup (name : String)
  | backend (e : UserError)
  /-- The session has to be ended. -/
  | forceLogout (e : UserError)
  /-- A newer request took the place of this one. -/
  | stale
  | unknownCell (roleId commandId : String)
  | invalidPageSize
deriving DecidableEq, Repr

namespace ScreenError

def message : ScreenError → String
  | missingGroup name => s!"Workflow group not configured: {name}"
  | backend e => e.info
  | forceLogout e => s!"Session ended: {e.info}"
  | stale => "Superseded by a newer request"
  | unknownCell roleId commandId => s!"No operation row for role {roleId} and command {commandId}"
  | invalidPageSize => "Page size must be greater than zero"

def userError? : ScreenError → Option UserError
  | backend e | forceLogout e => some e
  | _ => none

def isForceLogout : ScreenError → Bool
  | forceLogout _ => true
  | _ => false

end ScreenError

end BackOffice
