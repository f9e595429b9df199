import BackOffice.Permission.Matrix
import BackOffice.Run.Graph
import BackOffice.Table.Rows

/-!
The screen on which permissions are given: a menu, the entry that is selected, and the matrix of that
entry. Each is loaded by a group of the screen's workflow, and each flag that is flipped is written by a
step of it. A failed load changes nothing, and a failed write puts the flag back.
-/

namespace BackOffice

/-- The permission screen. -/
structure PermissionScreen where
  /-- The groups that load and save. -/
  graph : WorkflowGraph
  tree : List MenuNode := []
  selected : Option MenuNode := none
  matrix : OperationMatrix := {}

/-- A flag that was flipped and is being written. -/
structure FlagWrite where
  flag : OperationFlag
  /-- The flag before. -/
  previous : Bool
  /-- The row with the flag flipped. -/
  row : OperationRow
  /-- The step that writes the row. -/
  step : Step

namespace PermissionScreen

def loadMenu : String := "load_menu"

def loadOperation : String := "load_operation"

def saveOperation : String := "save_operation"

/-- A group of the workflow. -/
def group? (s : PermissionScreen) (name : String) : Except ScreenError StepGroup :=
  match s.graph.get? name with
  | some group => .ok group
  | none => .error (.missingGroup name)

/-- The rows that a group loaded. -/
def rowsOf (o : GroupOutcome) : Except ScreenError (List Json) :=
  if o.status.satisfiesDependents then .ok ((o.lastData?.map RowSet.ofJson).getD {}).rows
  else .error o.failure

/-- Takes up a menu that was loaded. -/
def acceptMenu (s : PermissionScreen) (o : GroupOutcome) : Except ScreenError PermissionScreen :=
  (rowsOf o).map fun rows => { s with tree := MenuNode.forest (MenuNode.ofItems rows) }

/-- Binds a selection, so that steps can read it. -/
def bindSelection (node : MenuNode) (c : Context) : Context :=
  (c.set "selectedMenuId" (.str node.id)).set "selectedServiceId" (.str node.serviceId)

/-- Takes up a matrix that was loaded for an entry. -/
def acceptNode (s : PermissionScreen) (node : MenuNode) (o : GroupOutcome) :
    Except ScreenError PermissionScreen :=
  (rowsOf o).map fun rows => { s with selected := some node, matrix := .ofItems rows }

/-- The step that writes a row: the first step of the saving group with the row's values filled in. -/
def writeStep (template : Step) (row : OperationRow) : Step :=
  (((template.withInput "RoleId" (.literal (.str row.roleId))).withInput "CommandId"
    (.literal (.str row.commandId))).withInput "Invoke" (.literal (OperationRow.flagJson row.invoke))).withInput
    "Approve" (.literal (OperationRow.flagJson row.approve))

/-- Flips a flag at once, and says what has to be written. -/
def flip (s : PermissionScreen) (roleId commandId : String) (flag : OperationFlag) :
    Except ScreenError (FlagWrite × PermissionScreen) :=
  match (s.graph.get? saveOperation).bind (·.steps.head?) with
  | none => .error (.missingGroup saveOperation)
  | some template =>
    match s.matrix.cell? roleId commandId with
    | none => .error (.unknownCell roleId commandId)
    | some cell =>
      let row := cell.toggle flag
      .ok ({ flag, previous := cell.flag flag, row, step := writeStep template row },
        { s with matrix := s.matrix.update roleId commandId (·.toggle flag) })

/-- Puts a flag back, unless it has been flipped again. -/
def restore (s : PermissionScreen) (w : FlagWrite) : PermissionScreen :=
  { s with matrix := s.matrix.update w.row.roleId w.row.commandId fun r =>
      if r.flag w.flag = w.row.flag w.flag then r.setFlag w.flag w.previous else r }

/-- Takes up what became of a write. -/
def acceptWrite (s : PermissionScreen) (w : FlagWrite) (o : StepOutcome) :
    Except ScreenError OperationRow × PermissionScreen :=
  if o.isSuccess then (.ok w.row, s)
  else
    let group : GroupOutcome :=
      { name := saveOperation, status := .failed, steps := [o], forceLogout := o.isAuthFailure }
    (.error group.failure, s.restore w)

end PermissionScreen

end BackOffice
