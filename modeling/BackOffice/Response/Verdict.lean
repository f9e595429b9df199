import BackOffice.Response.Envelope

/-!
What an envelope says about its call: success, a failure, or that the session has ended.
-/

namespace BackOffice

/-- The class of an envelope, with the error to report. -/
inductive Verdict where
  | success
  | execution (entry : ErrorEntry)
  | auth (entry : ErrorEntry)
deriving DecidableEq, Repr

namespace Verdict

/-- The error keys that end a session unless others are configured. -/
def defaultAuthKeys : List String := ["401", "400"]

/-- The error of an ended session that no entry tells of. -/
def unauthorized : ErrorEntry := { key := some "401", info := "unauthorized" }

/-- The error of a failure that no entry tells of. -/
def failedWith (status : Nat) : ErrorEntry := { info := s!"request failed with status {status}" }

/-- Whether an envelope ends the session: by its status, or by the key of an error at any level. -/
def isAuth (authKeys : List String) (e : Envelope) : Bool :=
  e.status == 401 || e.allErrors.any fun entry => entry.key.any authKeys.contains

/-- The class of an envelope. The end of a session comes before all else; the error to report is the
first there is. -/
def of (authKeys : List String) (e : Envelope) : Verdict :=
  if isAuth authKeys e then auth (e.firstError?.getD unauthorized)
  else if e.isSuccess then success
  else execution (e.firstError?.getD (failedWith e.status))

/-- The error to report. -/
def entry? : Verdict → Option ErrorEntry
  | success => none
  | execution entry | auth entry => some entry

end Verdict

/-- An error as it is shown to the user. -/
structure UserError where
  info : String
  executeId : Option String := none
  key : Option String := none
deriving DecidableEq, Repr

namespace UserError

def ofEntry (e : ErrorEntry) : UserError := ⟨e.info, e.executeId, e.key⟩

def toJson (e : UserError) : Json :=
  .obj (("info", .str e.info) :: ErrorEntry.textMember "execute_id" e.executeId
    ++ ErrorEntry.textMember "key" e.key)

end UserError

end BackOffice
