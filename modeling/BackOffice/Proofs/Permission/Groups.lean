import BackOffice.Proofs.Permission.Cells
import BackOffice.Proofs.Record.Keyed
import Mathlib.Data.List.TakeWhile

/-!
What a matrix of rows holds: one group for each role name, with the last row of each command. A cell is asked for by the
role, not by its name. So it shows the last row of its role and command just when that row is not replaced by one of
another role with the same name, and no other name of the role comes first. Where names and roles fit, it always does.
-/

namespace BackOffice.OperationMatrix

variable {rows : List OperationRow} {r : OperationRow} {name roleId commandId : String}

/-- The names of roles, in the order in which they first come. -/
def roleNames (rows : List OperationRow) : List String := (rows.map (·.roleName)).eraseDups

/-- The group of a role name: it takes the role of the first row with the name, and the rows with the name in turn. -/
def groupOf (rows : List OperationRow) (name : String) : RoleGroup where
  roleId := ((rows.find? (·.roleName = name)).map (·.roleId)).getD ""
  roleName := name
  operations := Keyed.putAll [] ((rows.filter (·.roleName = name)).map fun r => (r.commandId, r))

/-- The last row of a role name and a command. -/
def lastNamed? (rows : List OperationRow) (name commandId : String) : Option OperationRow :=
  rows.reverse.find? fun r => r.roleName = name ∧ r.commandId = commandId

/-- The last row of a role and a command. -/
def lastAt? (rows : List OperationRow) (roleId commandId : String) : Option OperationRow :=
  rows.reverse.find? fun r => r.IsAt roleId commandId

/-! ### Groups -/

theorem mem_roleNames : name ∈ roleNames rows ↔ ∃ r ∈ rows, r.roleName = name := by
  rw [roleNames, List.mem_eraseDups, List.mem_map]

theorem roleNames_concat_of_mem (h : r.roleName ∈ roleNames rows) : roleNames (rows ++ [r]) = roleNames rows := by
  rw [roleNames, List.map_append]
  exact Keyed.eraseDups_concat_of_mem (List.mem_eraseDups.1 h)

theorem roleNames_concat_of_notMem (h : r.roleName ∉ roleNames rows) :
    roleNames (rows ++ [r]) = roleNames rows ++ [r.roleName] := by
  rw [roleNames, List.map_append]
  exact Keyed.eraseDups_concat_of_notMem (mt List.mem_eraseDups.2 h)

theorem nodup_roleNames (rows : List OperationRow) : (roleNames rows).Nodup := Keyed.nodup_eraseDups _

theorem groupOf_concat_of_ne (h : r.roleName ≠ name) : groupOf (rows ++ [r]) name = groupOf rows name := by
  simp [groupOf, List.find?_append, List.filter_append, h]

/-- A row is added to the group of its role name. -/
theorem groupOf_concat_of_mem (h : r.roleName ∈ roleNames rows) :
    groupOf (rows ++ [r]) r.roleName = (groupOf rows r.roleName).insert r := by
  obtain ⟨first, hfirst⟩ : ∃ first, rows.find? (·.roleName = r.roleName) = some first := by
    rw [← Option.isSome_iff_exists, List.find?_isSome]
    simpa using mem_roleNames.1 h
  simp [groupOf, RoleGroup.insert, List.find?_append, hfirst, List.filter_append,
    Keyed.putAll_concat]

/-- The first row of a role name makes a new group. -/
theorem groupOf_concat_of_notMem (h : r.roleName ∉ roleNames rows) :
    groupOf (rows ++ [r]) r.roleName = RoleGroup.insert { roleId := r.roleId, roleName := r.roleName } r := by
  have hother : ∀ r' ∈ rows, r'.roleName ≠ r.roleName := fun r' hr' heq => h (mem_roleNames.2 ⟨r', hr', heq⟩)
  have hfind : rows.find? (·.roleName = r.roleName) = none := List.find?_eq_none.2 (by simpa using hother)
  have hfilter : rows.filter (·.roleName = r.roleName) = [] := List.filter_eq_nil_iff.2 (by simpa using hother)
  simp [groupOf, RoleGroup.insert, List.find?_append, hfind, List.filter_append, hfilter, Keyed.putAll]

theorem insertInto_map_of_mem {names : List String} (hnodup : names.Nodup) (hmem : r.roleName ∈ names)
    {group : String → RoleGroup} (hgroup : ∀ name, (group name).roleName = name) :
    insertInto r (names.map group) =
      names.map fun name => if name = r.roleName then (group name).insert r else group name := by
  induction names with
  | nil => cases hmem
  | cons name rest ih =>
    rw [List.nodup_cons] at hnodup
    rw [List.map_cons, insertInto, hgroup, List.map_cons]
    by_cases h : name = r.roleName
    · rw [if_pos h, if_pos h]
      -- The name is not there again, so the groups behind stay as they are.
      refine congrArg (_ :: ·) (List.map_congr_left fun other hother => (if_neg ?_).symm)
      rintro rfl
      exact hnodup.1 (h ▸ hother)
    · rw [if_neg h, if_neg h, ih hnodup.2 ((List.mem_cons.1 hmem).resolve_left (Ne.symm h))]

theorem insertInto_of_forall_ne {groups : List RoleGroup} (h : ∀ g ∈ groups, g.roleName ≠ r.roleName) :
    insertInto r groups = groups ++ [RoleGroup.insert { roleId := r.roleId, roleName := r.roleName } r] := by
  induction groups with
  | nil => rfl
  | cons g rest ih =>
    rw [List.forall_mem_cons] at h
    rw [insertInto, if_neg h.1, ih h.2, List.cons_append]

/-- The groups of a matrix are those of the role names, in the order in which the names first come. -/
theorem groups_ofRows (rows : List OperationRow) : (ofRows rows).groups = (roleNames rows).map (groupOf rows) := by
  induction rows using List.reverseRecOn with
  | nil => rfl
  | append_singleton front r ih =>
    have hstep : (ofRows (front ++ [r])).groups = insertInto r (ofRows front).groups := by
      rw [ofRows, List.foldl_concat]
      rfl
    rw [hstep, ih]
    by_cases h : r.roleName ∈ roleNames front
    · rw [roleNames_concat_of_mem h, insertInto_map_of_mem (nodup_roleNames front) h fun _ => rfl]
      refine List.map_congr_left fun name _ => ?_
      split
      next heq => rw [heq, groupOf_concat_of_mem h]
      next hne => rw [groupOf_concat_of_ne (Ne.symm hne)]
    · have hne : ∀ g ∈ (roleNames front).map (groupOf front), g.roleName ≠ r.roleName := by
        rw [List.forall_mem_map]
        rintro name hname rfl
        exact h hname
      rw [roleNames_concat_of_notMem h, insertInto_of_forall_ne hne, List.map_append, List.map_singleton,
        groupOf_concat_of_notMem h]
      refine congrArg (· ++ _) (List.map_congr_left fun name hname => (groupOf_concat_of_ne ?_).symm)
      rintro rfl
      exact h hname

/-- The columns of a matrix are the commands of all rows, in the order in which they first come. -/
theorem columns_ofRows (rows : List OperationRow) : (ofRows rows).columns = (rows.map (·.commandId)).eraseDups := by
  induction rows using List.reverseRecOn with
  | nil => rfl
  | append_singleton front r ih =>
    have hstep : (ofRows (front ++ [r])).columns =
        if (ofRows front).columns.contains r.commandId then (ofRows front).columns
        else (ofRows front).columns ++ [r.commandId] := by
      rw [ofRows, List.foldl_concat]
      rfl
    rw [hstep, ih, List.map_append, List.map_singleton]
    by_cases h : r.commandId ∈ front.map (·.commandId)
    · rw [if_pos (List.contains_iff_mem.2 (List.mem_eraseDups.2 h)), Keyed.eraseDups_concat_of_mem h]
    · rw [if_neg (mt List.contains_iff_mem.1 (mt List.mem_eraseDups.1 h)), Keyed.eraseDups_concat_of_notMem h]

theorem nodup_keys_groupOf (rows : List OperationRow) (name : String) : (groupOf rows name).operations.keys.Nodup := by
  rw [groupOf, Keyed.keys_putAll]
  exact Keyed.nodup_eraseDups _

/-! ### Cells -/

theorem lookup_map_commandId (rows : List OperationRow) (commandId : String) :
    (rows.map fun r => (r.commandId, r)).lookup commandId = rows.find? (·.commandId = commandId) := by
  induction rows with
  | nil => rfl
  | cons r rest ih =>
    rw [List.map_cons, List.lookup_cons, List.find?_cons, ih]
    by_cases h : r.commandId = commandId
    · simp [h]
    · have hbeq : (commandId == r.commandId) = false := by simpa using Ne.symm h
      simp [h, hbeq]

/-- A group holds the last row of its name for each command. -/
theorem find?_groupOf (rows : List OperationRow) (name commandId : String) :
    (groupOf rows name).operations.find? commandId = lastNamed? rows name commandId := by
  have hnil : Keyed.find? ([] : Keyed OperationRow) commandId = none := rfl
  rw [groupOf, Keyed.find?_putAll, hnil, Option.or_none, ← List.map_reverse, lookup_map_commandId, lastNamed?,
    ← List.filter_reverse, List.find?_filter]
  simp

theorem of_lastNamed? (h : lastNamed? rows name commandId = some r) :
    r ∈ rows ∧ r.roleName = name ∧ r.commandId = commandId :=
  ⟨List.mem_reverse.1 (List.mem_of_find?_eq_some h), by simpa using List.find?_some h⟩

theorem of_lastAt? (h : lastAt? rows roleId commandId = some r) : r ∈ rows ∧ r.IsAt roleId commandId :=
  ⟨List.mem_reverse.1 (List.mem_of_find?_eq_some h), by simpa using List.find?_some h⟩

/-- Whether a matrix holds rows by the names of their roles, and nothing else. -/
structure Arranges (m : OperationMatrix) (rows : List OperationRow) : Prop where
  names : Keyed.FirstSeen (rows.map (·.roleName)) (m.groups.map (·.roleName))
  /-- A group takes the role of the first row with its name. -/
  role : ∀ g ∈ m.groups, ∃ first, rows.find? (·.roleName = g.roleName) = some first ∧ g.roleId = first.roleId
  commands : ∀ g ∈ m.groups, g.operations.keys.Nodup
  /-- A group holds the last row with its name for each command. -/
  operations : ∀ g ∈ m.groups, ∀ commandId r,
    (commandId, r) ∈ g.operations ↔ lastNamed? rows g.roleName commandId = some r
  columns : Keyed.FirstSeen (rows.map (·.commandId)) m.columns

theorem arranges_ofRows (rows : List OperationRow) : (ofRows rows).Arranges rows where
  names := by
    have hnames : (ofRows rows).groups.map (·.roleName) = roleNames rows := by
      rw [groups_ofRows, List.map_map]
      exact List.map_id _
    rw [hnames]
    exact Keyed.firstSeen_eraseDups _
  role := by
    rw [groups_ofRows, List.forall_mem_map]
    intro name hname
    obtain ⟨first, hfirst⟩ : ∃ first, rows.find? (·.roleName = name) = some first := by
      rw [← Option.isSome_iff_exists, List.find?_isSome]
      simpa using mem_roleNames.1 hname
    exact ⟨first, hfirst, by simp [groupOf, hfirst]⟩
  commands := by
    rw [groups_ofRows, List.forall_mem_map]
    exact fun name _ => nodup_keys_groupOf rows name
  operations := by
    rw [groups_ofRows, List.forall_mem_map]
    intro name _ commandId r
    rw [← Keyed.find?_eq_some_iff (nodup_keys_groupOf rows name), find?_groupOf]
    rfl
  columns := by
    rw [columns_ofRows]
    exact Keyed.firstSeen_eraseDups _

/-- A matrix has one group for each role name, in the order in which the names first come, with the role of the first
row of the name and the last row of each command; and the commands of all rows are its columns. Of a list of items it
takes those that can be read as rows. -/
theorem grouped_exactly :
    (∀ rows, (ofRows rows).Arranges rows) ∧
      ∀ items, ofItems items = ofRows (items.filterMap OperationRow.ofJson?) ∧
        (ofItems items).Arranges (items.filterMap OperationRow.ofJson?) :=
  ⟨arranges_ofRows, fun _ => ⟨rfl, arranges_ofRows _⟩⟩

/-- A cell shows the last row of the first role name whose last row for the command belongs to the role. -/
theorem cell?_ofRows (rows : List OperationRow) (roleId commandId : String) :
    (ofRows rows).cell? roleId commandId =
      (roleNames rows).findSome? fun name => (lastNamed? rows name commandId).filter (·.roleId = roleId) := by
  rw [cell?, groups_ofRows, List.findSome?_map]
  simp only [Function.comp_def, RoleGroup.cell?, find?_groupOf]

/-- Whether a row stays in its cell: no later row of its role name takes its place, and no role name in front of its own
ends with a row of its role. -/
structure StaysInCell (rows : List OperationRow) (r : OperationRow) : Prop where
  not_replaced : lastNamed? rows r.roleName r.commandId = some r
  not_hidden : ∀ name ∈ (roleNames rows).takeWhile (· ≠ r.roleName), ∀ r', lastNamed? rows name r.commandId = some r' →
    r'.roleId ≠ r.roleId

theorem takeWhile_ne {front back : List String} (h : name ∉ front) :
    (front ++ name :: back).takeWhile (· ≠ name) = front := by
  have hfront : ∀ other ∈ front, decide (other ≠ name) = true := by
    rintro other hother
    exact decide_eq_true (ne_of_mem_of_not_mem hother h)
  rw [List.takeWhile_append_of_pos hfront, List.takeWhile_cons_of_neg (by simp), List.append_nil]

/-- A cell shows a row of its role and command that stays in the cell. -/
theorem cell?_ofRows_eq_some_iff :
    (ofRows rows).cell? roleId commandId = some r ↔ r.IsAt roleId commandId ∧ StaysInCell rows r := by
  rw [cell?_ofRows, List.findSome?_eq_some_iff]
  constructor
  · rintro ⟨front, name, back, hnames, hlast, hfront⟩
    rw [Option.filter_eq_some_iff] at hlast
    obtain ⟨hlast, hrole⟩ := hlast
    obtain ⟨-, rfl, rfl⟩ := of_lastNamed? hlast
    obtain rfl : r.roleId = roleId := by simpa using hrole
    refine ⟨⟨rfl, rfl⟩, hlast, fun name hname r' hr' => ?_⟩
    have hnot : r.roleName ∉ front := by
      have hnodup := nodup_roleNames rows
      rw [hnames, List.nodup_append] at hnodup
      exact fun hmem => hnodup.2.2 _ hmem _ List.mem_cons_self rfl
    rw [hnames, takeWhile_ne hnot] at hname
    simpa using Option.filter_eq_none_iff.1 (hfront name hname) r' hr'
  · rintro ⟨⟨rfl, rfl⟩, hlast, hfront⟩
    obtain ⟨hmem, -⟩ := of_lastNamed? hlast
    obtain ⟨front, back, hnames, hnot⟩ := List.eq_append_cons_of_mem (mem_roleNames.2 ⟨r, hmem, rfl⟩)
    rw [hnames, takeWhile_ne hnot] at hfront
    refine ⟨front, r.roleName, back, hnames, ?_, fun name hname => ?_⟩
    · rw [hlast]
      simp
    · rw [Option.filter_eq_none_iff]
      intro r' hr'
      simpa using hfront name hname r' hr'

/-- A cell without rows of its role and command shows nothing. -/
theorem cell?_ofRows_of_lastAt?_eq_none (h : lastAt? rows roleId commandId = none) :
    (ofRows rows).cell? roleId commandId = none := by
  rw [Option.eq_none_iff_forall_ne_some]
  intro r hr
  obtain ⟨hat, hstays⟩ := cell?_ofRows_eq_some_iff.1 hr
  have hmem : r ∈ rows.reverse := List.mem_reverse.2 (of_lastNamed? hstays.not_replaced).1
  exact List.find?_eq_none.1 h r hmem (decide_eq_true hat)

/-- Whether the names of roles fit the roles: a role has one name, and no two roles have the same. -/
def NamesFit (rows : List OperationRow) : Prop :=
  ∀ r ∈ rows, ∀ r' ∈ rows, r.roleId = r'.roleId ↔ r.roleName = r'.roleName

instance (rows : List OperationRow) : Decidable (NamesFit rows) :=
  inferInstanceAs (Decidable (∀ r ∈ rows, ∀ r' ∈ rows, _))

/-- Where names fit, the last row of a role is the last one of its name. -/
theorem NamesFit.staysInCell (h : NamesFit rows) (hlast : lastAt? rows roleId commandId = some r) :
    StaysInCell rows r := by
  obtain ⟨hmem, rfl, rfl⟩ := of_lastAt? hlast
  refine ⟨?_, fun name hname r' hr' hrole => ?_⟩
  · rw [← hlast, lastNamed?, lastAt?, ← List.head?_filter, ← List.head?_filter]
    refine congrArg List.head? (List.filter_congr fun r' hr' => ?_)
    have hrole := h r' (List.mem_reverse.1 hr') r hmem
    exact decide_eq_decide.2 (and_congr_left fun _ => hrole.symm)
  · obtain ⟨hmem', rfl, -⟩ := of_lastNamed? hr'
    have hne := List.mem_takeWhile_imp hname
    exact of_decide_eq_true hne ((h r' hmem' r hmem).1 hrole)

/-- A cell shows the last row of the first role name whose last row for the command is one of the role. So it shows the
last row of its role and command if and only if that row is also the last one of its name for the command, and no name
in front has a row of the role for its last. When the names of roles fit the roles, no row is lost. -/
theorem cell_shows_last_row_iff (rows : List OperationRow) (roleId commandId : String) :
    (∀ r, (ofRows rows).cell? roleId commandId = some r ↔ r.IsAt roleId commandId ∧ StaysInCell rows r) ∧
      ((ofRows rows).cell? roleId commandId = lastAt? rows roleId commandId ↔
        ∀ r, lastAt? rows roleId commandId = some r → StaysInCell rows r) ∧
      (NamesFit rows → (ofRows rows).cell? roleId commandId = lastAt? rows roleId commandId) := by
  have hiff : (ofRows rows).cell? roleId commandId = lastAt? rows roleId commandId ↔
      ∀ r, lastAt? rows roleId commandId = some r → StaysInCell rows r := by
    cases hlast : lastAt? rows roleId commandId with
    | none => simpa using cell?_ofRows_of_lastAt?_eq_none hlast
    | some r =>
      have hat := (of_lastAt? hlast).2
      rw [cell?_ofRows_eq_some_iff]
      exact ⟨fun h r' hr' => Option.some.inj hr' ▸ h.2, fun h => ⟨hat, h r rfl⟩⟩
  exact ⟨fun r => cell?_ofRows_eq_some_iff, hiff, fun h => hiff.2 fun r hlast => h.staysInCell hlast⟩

/-- Two roles with a name each, and a command that one of them has twice. -/
def fittingRows : List OperationRow :=
  [{ roleId := "1", roleName := "Admin", commandId := "c", invoke := true },
    { roleId := "2", roleName := "", commandId := "c" },
    { roleId := "1", roleName := "Admin", commandId := "c", approve := true }]

theorem fittingRows_show_last_row :
    NamesFit fittingRows ∧ (ofRows fittingRows).cell? "1" "c" =
      some { roleId := "1", roleName := "Admin", commandId := "c", approve := true } := by
  have hfit : NamesFit fittingRows := by decide
  exact ⟨hfit, (cell_shows_last_row_iff fittingRows "1" "c").2.2 hfit⟩

/-- A role that changes its name between two rows of a command. -/
def renamedRole : List OperationRow :=
  [{ roleId := "1", roleName := "Clerk", commandId := "c", invoke := true },
    { roleId := "1", roleName := "Admin", commandId := "c" }]

/-- Two roles of one name. -/
def namesakes : List OperationRow :=
  [{ roleId := "1", roleName := "Clerk", commandId := "c", invoke := true },
    { roleId := "2", roleName := "Clerk", commandId := "c" }]

/-- The last row of a role is lost behind an earlier name of the role, and to another role of the same name. -/
theorem last_row_is_lost :
    (lastAt? renamedRole "1" "c" = renamedRole.getLast? ∧ (ofRows renamedRole).cell? "1" "c" = renamedRole.head? ∧
        renamedRole.head? ≠ renamedRole.getLast?) ∧
      lastAt? namesakes "1" "c" = namesakes.head? ∧ (ofRows namesakes).cell? "1" "c" = none := by
  decide

end BackOffice.OperationMatrix
