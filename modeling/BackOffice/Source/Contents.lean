import BackOffice.Screen.Schema
import BackOffice.Settings
import BackOffice.Source.Format

/-!
What is read from texts: settings, graphs, screens and steps, each in the form of its own. Graphs take a
value as it is and leave out the groups that they cannot read.
-/

namespace BackOffice

/-- Why a file cannot be read. -/
inductive FileFault where
  | missing
  | denied
  | directory
  /-- Its bytes are no text. -/
  | notText
  | other (reason : String)
deriving DecidableEq, Repr, Inhabited

/-- Why nothing could be read from a source. -/
inductive SourceError where
  | file (fault : FileFault)
  /-- The text is not of its format or not of the form that is wanted. -/
  | unreadable
  /-- Tables cannot be paged by the settings. -/
  | invalidSettings
deriving DecidableEq, Repr, Inhabited

namespace FileFault

def message : FileFault → String
  | missing => "No such file or directory (os error 2)"
  | denied => "Permission denied (os error 13)"
  | directory => "Is a directory (os error 21)"
  | notText => "stream did not contain valid UTF-8"
  | other reason => reason

end FileFault

namespace SourceError

def message : SourceError → String
  | file fault => "IO error: " ++ fault.message
  | unreadable => "Config parse error"
  | invalidSettings => "Invalid configuration: table.default_page_size must be greater than zero"

end SourceError

namespace SourceFormat

/-- Reads a value of a form, and then what it stands for. -/
def decode {α : Type} (format : SourceFormat) (form : Form) (ofJson? : Json → Option α) (text : String) :
    Except SourceError α :=
  match (format.read? form text).bind ofJson? with
  | some a => .ok a
  | none => .error .unreadable

def value : SourceFormat → String → Except SourceError Json := (decode · .any some)

def step : SourceFormat → String → Except SourceError Step := (decode · Step.form Step.ofJson?)

def screen : SourceFormat → String → Except SourceError ScreenSchema :=
  (decode · ScreenSchema.form ScreenSchema.ofJson?)

def graph : SourceFormat → String → Except SourceError WorkflowGraph :=
  (decode · .any fun v => some (.ofJson v))

/-- Settings by which tables can be paged. -/
def settings (format : SourceFormat) (text : String) : Except SourceError Settings := do
  let s ← format.decode Settings.form Settings.ofJson? text
  if s.isValid then .ok s else .error .invalidSettings

end SourceFormat

end BackOffice
