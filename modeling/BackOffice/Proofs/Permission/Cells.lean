import BackOffice.Permission.Matrix
import BackOffice.Proofs.Context.Reads

/-!
The cells of a matrix. A matrix keeps each row under the row's own command, so that a cell can be changed
through the row that was found in it, and changing one cell leaves all others alone.
-/

namespace BackOffice

namespace OperationRow

variable {r : OperationRow} {flag : OperationFlag} {b : Bool}

theorem flag_setFlag (r : OperationRow) (flag : OperationFlag) (b : Bool) :
    (r.setFlag flag b).flag flag = b := by
  cases flag <;> rfl

theorem setFlag_flag (r : OperationRow) (flag : OperationFlag) : r.setFlag flag (r.flag flag) = r := by
  cases flag <;> rfl

theorem setFlag_setFlag (r : OperationRow) (flag : OperationFlag) (a b : Bool) :
    (r.setFlag flag a).setFlag flag b = r.setFlag flag b := by
  cases flag <;> rfl

@[simp]
theorem roleId_setFlag (r : OperationRow) (flag : OperationFlag) (b : Bool) :
    (r.setFlag flag b).roleId = r.roleId := by
  cases flag <;> rfl

@[simp]
theorem commandId_setFlag (r : OperationRow) (flag : OperationFlag) (b : Bool) :
    (r.setFlag flag b).commandId = r.commandId := by
  cases flag <;> rfl

@[simp]
theorem roleId_toggle (r : OperationRow) (flag : OperationFlag) : (r.toggle flag).roleId = r.roleId :=
  roleId_setFlag _ _ _

@[simp]
theorem commandId_toggle (r : OperationRow) (flag : OperationFlag) :
    (r.toggle flag).commandId = r.commandId :=
  commandId_setFlag _ _ _

/-- Whether a row stands in the cell of a role and a command. -/
def IsAt (r : OperationRow) (roleId commandId : String) : Prop :=
  r.roleId = roleId ∧ r.commandId = commandId

instance (r : OperationRow) (roleId commandId : String) : Decidable (r.IsAt roleId commandId) :=
  inferInstanceAs (Decidable (_ ∧ _))

end OperationRow

/-- Whether a role keeps each row under the row's own command. -/
def RoleGroup.WellKeyed (g : RoleGroup) : Prop :=
  ∀ key r, g.operations.find? key = some r → r.commandId = key

theorem RoleGroup.wellKeyed_put {g : RoleGroup} (h : g.WellKeyed) {key : String} {r : OperationRow}
    (hr : r.commandId = key) : RoleGroup.WellKeyed { g with operations := g.operations.put key r } := by
  intro other r' hfind
  rw [Keyed.find?_put] at hfind
  split at hfind
  next heq =>
    rw [heq, ← Option.some.inj hfind, hr]
  next => exact h other r' hfind

namespace OperationMatrix

variable {m : OperationMatrix} {roleId commandId : String} {f : OperationRow → OperationRow}
  {r : OperationRow}

/-- Whether all roles keep each row under the row's own command. -/
def WellKeyed (m : OperationMatrix) : Prop := ∀ g ∈ m.groups, g.WellKeyed

theorem wellKeyed_insert (h : m.WellKeyed) (r : OperationRow) : (m.insert r).WellKeyed := by
  have hgroups (groups : List RoleGroup) (h : ∀ g ∈ groups, g.WellKeyed) :
      ∀ g ∈ insertInto r groups, g.WellKeyed := by
    induction groups with
    | nil =>
      intro g hg
      obtain rfl := List.mem_singleton.1 hg
      exact RoleGroup.wellKeyed_put (fun _ _ h => by cases h) rfl
    | cons first rest ih =>
      rw [List.forall_mem_cons] at h
      simp only [insertInto]
      split
      · exact List.forall_mem_cons.2 ⟨RoleGroup.wellKeyed_put h.1 rfl, h.2⟩
      · exact List.forall_mem_cons.2 ⟨h.1, ih h.2⟩
  exact hgroups m.groups h

/-- Every matrix that is loaded keeps its rows under their own commands. -/
theorem wellKeyed_ofRows (rows : List OperationRow) : (ofRows rows).WellKeyed := by
  have hfold (m : OperationMatrix) (h : m.WellKeyed) : (rows.foldl insert m).WellKeyed := by
    induction rows generalizing m with
    | nil => exact h
    | cons r rest ih => exact ih _ (wellKeyed_insert h r)
  exact hfold {} fun _ h => absurd h List.not_mem_nil

/-- What stands in a cell is the row of that cell. -/
theorem isAt_of_cell? (h : m.WellKeyed) (hcell : m.cell? roleId commandId = some r) :
    r.IsAt roleId commandId := by
  obtain ⟨g, hg, hr⟩ := List.exists_of_findSome?_eq_some hcell
  obtain ⟨hfind, hrole⟩ := Option.filter_eq_some_iff.1 hr
  exact ⟨by simpa using hrole, h g hg commandId r hfind⟩

theorem wellKeyed_update (h : m.WellKeyed) (hf : ∀ r, (f r).commandId = r.commandId) :
    (m.update roleId commandId f).WellKeyed := by
  have hgroups (groups : List RoleGroup) (h : ∀ g ∈ groups, g.WellKeyed) :
      ∀ g ∈ updateIn roleId commandId f groups, g.WellKeyed := by
    induction groups with
    | nil => exact h
    | cons first rest ih =>
      rw [List.forall_mem_cons] at h
      simp only [updateIn]
      split
      next r hr =>
        have hfind := (Option.filter_eq_some_iff.1 hr).1
        exact List.forall_mem_cons.2
          ⟨RoleGroup.wellKeyed_put h.1 ((hf r).trans (h.1 commandId r hfind)), h.2⟩
      next => exact List.forall_mem_cons.2 ⟨h.1, ih h.2⟩
  exact hgroups m.groups h

/-- Changing one cell leaves the others alone. -/
theorem cell?_update_of_ne {role command : String} (hne : ¬ (role = roleId ∧ command = commandId))
    (hf : ∀ r, (f r).roleId = r.roleId) :
    (m.update roleId commandId f).cell? role command = m.cell? role command := by
  have hgroups (groups : List RoleGroup) :
      (updateIn roleId commandId f groups).findSome? (·.cell? role command) =
        groups.findSome? (·.cell? role command) := by
    induction groups with
    | nil => rfl
    | cons first rest ih =>
      simp only [updateIn]
      split
      next r hr =>
        obtain ⟨hfind, hrole⟩ := Option.filter_eq_some_iff.1 hr
        have hcell : RoleGroup.cell? { first with operations := first.operations.put commandId (f r) } role
            command = first.cell? role command := by
          simp only [RoleGroup.cell?, Keyed.find?_put]
          split
          next heq =>
            -- The row that is replaced belongs to another role.
            have hother : r.roleId ≠ role := fun h => hne ⟨by rw [← h]; simpa using hrole, heq⟩
            rw [heq, hfind, Option.filter_some, Option.filter_some, hf]
            simp [hother]
          next => rfl
        rw [List.findSome?_cons, List.findSome?_cons, hcell]
      next => rw [List.findSome?_cons, List.findSome?_cons, ih]
  exact hgroups m.groups

/-- A changed cell is the change of the cell, and the others are as they were. -/
theorem cell?_update_eq (hf : ∀ r, (f r).roleId = r.roleId) (role command : String) :
    (m.update roleId commandId f).cell? role command =
      if role = roleId ∧ command = commandId then (m.cell? role command).map f
      else m.cell? role command := by
  split
  next h =>
    rw [h.1, h.2]
    exact cell?_update m roleId commandId f hf
  next h => exact cell?_update_of_ne h hf

end OperationMatrix

end BackOffice
