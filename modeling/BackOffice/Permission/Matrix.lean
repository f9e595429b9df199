import BackOffice.Permission.Menu
import BackOffice.Text.Blank

/-!
Which role may do what: rows of roles and commands with two flags, grouped by the name of the role.
-/

namespace BackOffice

/-- The two permissions of a cell. -/
inductive OperationFlag where
  | invoke
  | approve
deriving DecidableEq, Repr

/-- What a role may do with a command. -/
structure OperationRow where
  roleId : String
  roleName : String := ""
  commandId : String
  kind : CommandKind := .menu
  invoke : Bool := false
  approve : Bool := false
deriving DecidableEq, Repr

namespace OperationRow

def fields : List Record.Names :=
  [["role_id"], ["role_name"], ["command_id"], ["command_type"], ["invoke"], ["approve"]]

/-- A flag in any of its spellings: a truth value, a number other than zero, or a word for yes; all else
is no. -/
def lenientFlag : Json → Bool
  | .bool b => b
  | .num n => n.toFloat != 0
  | .str s => ["1", "true", "Y", "y"].contains (trim s)
  | _ => false

def ofJson? (v : Json) : Option OperationRow := do
  let [roleId, roleName, commandId, kind, invoke, approve] ← Record.slots fields v | none
  some {
    roleId := lenientId (← roleId)
    roleName := ← Record.defaulted Json.text? "" roleName
    commandId := lenientId (← commandId)
    kind := ← Record.defaulted CommandKind.ofJson? .menu kind
    invoke := (invoke.map lenientFlag).getD false
    approve := (approve.map lenientFlag).getD false }

/-- A flag as zero or one. -/
def flagJson (b : Bool) : Json := .ofNat b.toNat

def toJson (r : OperationRow) : Json :=
  .obj [("role_id", .str r.roleId), ("role_name", .str r.roleName), ("command_id", .str r.commandId),
    ("command_type", r.kind.toJson), ("invoke", flagJson r.invoke), ("approve", flagJson r.approve)]

def flag (r : OperationRow) : OperationFlag → Bool
  | .invoke => r.invoke
  | .approve => r.approve

def setFlag (r : OperationRow) (flag : OperationFlag) (b : Bool) : OperationRow :=
  match flag with
  | .invoke => { r with invoke := b }
  | .approve => { r with approve := b }

def toggle (r : OperationRow) (flag : OperationFlag) : OperationRow := r.setFlag flag (!r.flag flag)

end OperationRow

/-- The rows of one role by command. -/
structure RoleGroup where
  roleId : String
  roleName : String
  operations : Keyed OperationRow := []
deriving DecidableEq, Repr

namespace RoleGroup

/-- Adds a row in the place of an earlier one for the same command. -/
def insert (g : RoleGroup) (r : OperationRow) : RoleGroup :=
  { g with operations := g.operations.put r.commandId r }

/-- The operations are written in the order of their commands. -/
def toJson (g : RoleGroup) : Json :=
  .obj [("role_id", .str g.roleId), ("role_name", .str g.roleName),
    ("operations", .obj (g.operations.sorted.mapValues OperationRow.toJson))]

/-- The row of a command, if it belongs to the role. -/
def cell? (g : RoleGroup) (roleId commandId : String) : Option OperationRow :=
  (g.operations.find? commandId).filter (·.roleId = roleId)

end RoleGroup

/-- The rows of all roles, and the commands in the order in which they first came. -/
structure OperationMatrix where
  groups : List RoleGroup := []
  columns : List String := []
deriving DecidableEq, Repr, Inhabited

namespace OperationMatrix

/-- Adds a row to the group of its role name; a new group takes the role of its first row. -/
def insertInto (r : OperationRow) : List RoleGroup → List RoleGroup
  | [] => [RoleGroup.insert { roleId := r.roleId, roleName := r.roleName } r]
  | g :: rest => if g.roleName = r.roleName then g.insert r :: rest else g :: insertInto r rest

def insert (m : OperationMatrix) (r : OperationRow) : OperationMatrix where
  groups := insertInto r m.groups
  columns := if m.columns.contains r.commandId then m.columns else m.columns ++ [r.commandId]

def ofRows (rows : List OperationRow) : OperationMatrix := rows.foldl insert {}

/-- The matrix of the items that can be read. -/
def ofItems (items : List Json) : OperationMatrix := ofRows (items.filterMap OperationRow.ofJson?)

def toJson (m : OperationMatrix) : Json :=
  .obj [("groups", .arr (m.groups.map RoleGroup.toJson)), ("columns", .arr (m.columns.map .str))]

def isEmpty (m : OperationMatrix) : Bool := m.groups.isEmpty

/-- The first group with a role name. -/
def group? (m : OperationMatrix) (roleName : String) : Option RoleGroup :=
  m.groups.find? (·.roleName = roleName)

/-- The cell of a role and a command, in the first group that has it. -/
def cell? (m : OperationMatrix) (roleId commandId : String) : Option OperationRow :=
  m.groups.findSome? (·.cell? roleId commandId)

/-- Changes the row in the first group that has the cell. -/
def updateIn (roleId commandId : String) (f : OperationRow → OperationRow) :
    List RoleGroup → List RoleGroup
  | [] => []
  | g :: rest => match g.cell? roleId commandId with
    | some r => { g with operations := g.operations.put commandId (f r) } :: rest
    | none => g :: updateIn roleId commandId f rest

/-- Changes a cell, if there is one. -/
def update (m : OperationMatrix) (roleId commandId : String) (f : OperationRow → OperationRow) :
    OperationMatrix :=
  { m with groups := updateIn roleId commandId f m.groups }

theorem cell?_updateIn (roleId commandId : String) (f : OperationRow → OperationRow)
    (h : ∀ r, (f r).roleId = r.roleId) (groups : List RoleGroup) :
    (updateIn roleId commandId f groups).findSome? (·.cell? roleId commandId)
      = (groups.findSome? (·.cell? roleId commandId)).map f := by
  induction groups with
  | nil => rfl
  | cons g rest ih =>
    simp only [updateIn, List.findSome?_cons]
    cases hc : g.cell? roleId commandId with
    | none => simp [hc, ih]
    | some r =>
      obtain ⟨_, hr⟩ := Option.filter_eq_some_iff.1 hc
      have hr : r.roleId = roleId := by simpa using hr
      simp [RoleGroup.cell?, Keyed.find?_put_self, h, hr]

/-- A changed cell is the change of the cell. -/
theorem cell?_update (m : OperationMatrix) (roleId commandId : String)
    (f : OperationRow → OperationRow) (h : ∀ r, (f r).roleId = r.roleId) :
    (m.update roleId commandId f).cell? roleId commandId = (m.cell? roleId commandId).map f :=
  cell?_updateIn roleId commandId f h m.groups

end OperationMatrix

end BackOffice
