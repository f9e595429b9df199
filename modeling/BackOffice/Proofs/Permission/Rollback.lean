import BackOffice.Proofs.Permission.Binding
import BackOffice.Proofs.Permission.Toggles

/-!
A write that fails after another matrix was loaded. The flag is put back in whatever matrix is shown by then, if
that has the cell. So a matrix that was loaded while the write was under way stays as it was loaded exactly when
it does not show the cell with the flag flipped.
-/

namespace BackOffice

theorem Keyed.put_of_find? {α : Type} {entries : Keyed α} {key : String} {value : α}
    (h : entries.find? key = some value) : entries.put key value = entries := by
  induction entries with
  | nil => simp [find?] at h
  | cons entry rest ih =>
    obtain ⟨k, v⟩ := entry
    by_cases hk : k = key
    · subst hk
      obtain rfl : v = value := by simpa [find?] using h
      simp [put]
    · have hbeq : (key == k) = false := by simpa using Ne.symm hk
      rw [find?, List.lookup_cons, hbeq] at h
      rw [put, if_neg hk, ih h]

namespace OperationMatrix

variable {m : OperationMatrix} {roleId commandId : String} {f : OperationRow → OperationRow}

/-- A change that leaves the row of its cell as it is leaves the matrix as it is. -/
theorem update_eq_self (h : ∀ r, m.cell? roleId commandId = some r → f r = r) :
    m.update roleId commandId f = m := by
  have hgroups (groups : List RoleGroup)
      (h : ∀ r, groups.findSome? (·.cell? roleId commandId) = some r → f r = r) :
      updateIn roleId commandId f groups = groups := by
    induction groups with
    | nil => rfl
    | cons first rest ih =>
      simp only [updateIn]
      split
      next r hr =>
        have hfind : first.operations.find? commandId = some r := (Option.filter_eq_some_iff.1 hr).1
        rw [h r (by rw [List.findSome?_cons, hr]), Keyed.put_of_find? hfind]
      next hnone =>
        rw [ih fun r hr => h r (by rw [List.findSome?_cons, hnone]; exact hr)]
  rw [update, hgroups m.groups h]

/-- A flag that is set leaves a matrix as it is exactly when the matrix has no such cell, or shows the flag so. -/
theorem update_setFlag_eq_self_iff {flag : OperationFlag} {b : Bool} :
    m.update roleId commandId (·.setFlag flag b) = m ↔
      ∀ r, m.cell? roleId commandId = some r → r.flag flag = b := by
  constructor
  · intro h r hr
    have hcell := cell?_update m roleId commandId (·.setFlag flag b) fun r => r.roleId_setFlag flag b
    rw [h, hr, Option.map_some, Option.some.injEq] at hcell
    rw [hcell, OperationRow.flag_setFlag]
  · intro h
    refine update_eq_self fun r hr => ?_
    rw [← h r hr, OperationRow.setFlag_flag]

end OperationMatrix

/-- What a flip has written is made as writes are. -/
theorem PermissionScreen.wellMade_of_flip {p q : PermissionScreen} {roleId commandId : String}
    {flag : OperationFlag} {w : FlagWrite} (h : p.flip roleId commandId flag = .ok (w, q)) : w.WellMade := by
  rw [flip] at h
  split at h
  · cases h
  next template _ =>
    split at h
    · cases h
    next cell _ =>
      cases h
      exact Toggling.wellMade_written template cell flag

/-- Whether an incident neither selects an entry nor touches a flag. -/
def Incident.isApart : Incident → Bool
  | began (.toggle ..) _ _ | ended _ (.write _) (.refused _) | ended _ (.node _) (.matrix _) => false
  | _ => true

namespace Incident

variable {i : Incident} {told : List Incident}

theorem selection?_of_isApart (h : i.isApart = true) : i.selection? = none := by
  unfold selection?
  split
  · cases h
  · rfl

theorem onMatrix_of_isApart (h : i.isApart = true) (m : OperationMatrix) : onMatrix m i = m := by
  unfold onMatrix
  split
  · cases h
  · cases h
  · rfl

theorem foldl_onMatrix_of_isApart (h : ∀ i ∈ told, i.isApart = true) (m : OperationMatrix) :
    told.foldl onMatrix m = m := by
  induction told with
  | nil => rfl
  | cons i rest ih =>
    rw [List.forall_mem_cons] at h
    rw [List.foldl_cons, onMatrix_of_isApart h.1, ih h.2]

end Incident

namespace Rehearsal

variable {s : Rehearsal} {p : PermissionScreen} {places : Nat × Nat}

/-- A write that a command sets to work is made as writes are. -/
theorem wellMade_of_command (hp : s.permission = some (p, places)) {c : Command} {e : Nat × Machine}
    (he : e ∈ (s.command c).1.machines) {w : FlagWrite} (hw : e.2.purpose = .write w) :
    e ∈ s.machines ∨ w.WellMade := by
  obtain hold | hlane := (lane?_of_command s c).1 e he
  · exact .inl hold
  rw [hw] at hlane
  cases c with
  | toggle roleId commandId flag =>
    cases hflip : p.flip roleId commandId flag with
    | error refusal =>
      simp only [command, withPermission, hp, hflip] at he
      exact .inl he
    | ok flipped =>
      obtain ⟨w', q⟩ := flipped
      obtain ⟨place, counter, run, hmachines⟩ := machines_command_toggle hp hflip
      rw [hmachines, List.mem_append, List.mem_singleton] at he
      obtain he | rfl := he
      · exact .inl he
      · obtain rfl : w' = w := Purpose.write.inj hw
        exact .inr (PermissionScreen.wellMade_of_flip hflip)
  | _ => cases hlane

/-- Whether every write that is under way is made as writes are. -/
def WellMadeWrites (s : Rehearsal) : Prop := ∀ e ∈ s.machines, ∀ w, e.2.purpose = .write w → w.WellMade

/-- A write that comes to its end is made as writes are. -/
theorem wellMade_of_ended (hmade : s.WellMadeWrites) (hp : s.permission = some (p, places)) (cues : List Cue)
    {k : Nat} {w : FlagWrite} {r : Reply} (h : .ended k (.write w) r ∈ s.told cues) : w.WellMade := by
  have hcourse := after_of_takes (s := s) (P := fun told s' =>
    s'.permission = some (p.after told, places) ∧ s'.WellMadeWrites ∧
      ∀ k w r, Incident.ended k (.write w) r ∈ told → w.WellMade)
    ?_ ⟨hp, hmade, fun _ _ _ h => absurd h List.not_mem_nil⟩ cues
  · exact hcourse.2.2 k w r h
  intro told s₁ s₂ new htakes ⟨hscreen, hmade, hended⟩
  have hold {k : Nat} {w : FlagWrite} {r : Reply} (hnew : Incident.ended k (.write w) r ∈ new → w.WellMade)
      (hmem : Incident.ended k (.write w) r ∈ told ++ new) : w.WellMade :=
    (List.mem_append.1 hmem).elim (hended k w r) hnew
  refine ⟨permission_takes hscreen htakes, ?_⟩
  cases htakes with
  | command c =>
    refine ⟨fun e he w hw => ?_, fun k w r => hold fun hmem => ?_⟩
    · exact (wellMade_of_command hscreen he hw).elim (fun he => hmade e he w hw) id
    · obtain h | ⟨_, h⟩ | ⟨_, _, h⟩ := mem_tellsOf hmem <;> cases h
  | moved hm hg =>
    refine ⟨fun e he w hw => ?_, fun k w r => hold nofun⟩
    obtain rfl | he := mem_setMachine he
    · exact hmade _ hm w hw
    · exact hmade e he w hw
  | concluded hm hover =>
    refine ⟨fun e he w hw => ?_, fun k w r => hold fun hmem => ?_⟩
    · rw [(settles_finish _ _).machines, mem_without] at he
      exact hmade e he.1 w hw
    · obtain ⟨-, hpurpose, -⟩ := Incident.ended.inj (List.mem_singleton.1 hmem)
      exact hmade _ hm w hpurpose.symm
  | elsewhere b => exact ⟨hmade, fun k w r => hold nofun⟩
  | nothing => exact ⟨hmade, fun k w r => hold nofun⟩

/-- When the write of a flag is refused after another matrix was loaded, the flag is put back in that matrix. It
stays as it was loaded exactly when it has no such cell, or shows the flag as it was before the flip. -/
theorem rollback_after_selection (hmade : s.WellMadeWrites) (hp : s.permission = some (p, places))
    (cues : List Cue) {before late rest : List Incident} {k k' : Nat} {w : FlagWrite} {n : MenuNode}
    {loaded : OperationMatrix} {e : ScreenError}
    (htold : s.told cues = before ++ .ended k' (.node n) (.matrix loaded) ::
      (late ++ .ended k (.write w) (.refused e) :: rest))
    (hapart : ∀ i ∈ late ++ rest, i.isApart = true) :
    ∃ q, (s.after cues).permission = some (q, places) ∧ q.selected = some n ∧
      q.matrix = loaded.update w.row.roleId w.row.commandId (·.setFlag w.flag w.previous) ∧
      (q.matrix = loaded ↔ ∀ cell, loaded.cell? w.row.roleId w.row.commandId = some cell →
        cell.flag w.flag = w.previous) := by
  rw [List.forall_mem_append] at hapart
  obtain ⟨hlate, hrest⟩ := hapart
  have hwrite : w.WellMade := wellMade_of_ended hmade hp cues (k := k) (r := .refused e) (by simp [htold])
  have hselections : (late ++ .ended k (.write w) (.refused e) :: rest).filterMap Incident.selection? = [] := by
    rw [List.filterMap_eq_nil_iff]
    intro i hi
    obtain hi | hi := List.mem_append.1 hi
    · exact Incident.selection?_of_isApart (hlate i hi)
    · obtain rfl | hi := List.mem_cons.1 hi
      · rfl
      · exact Incident.selection?_of_isApart (hrest i hi)
  obtain ⟨hselected, hmatrix⟩ := @PermissionScreen.after_of_selection p before _
    (.ended k' (.node n) (.matrix loaded)) n loaded rfl hselections
  -- Of what comes behind the selection only the refusal touches the matrix.
  have hback : (p.after (s.told cues)).matrix =
      loaded.update w.row.roleId w.row.commandId (·.setFlag w.flag w.previous) := by
    rw [htold, hmatrix, List.foldl_append, List.foldl_cons, Incident.foldl_onMatrix_of_isApart hlate,
      Incident.foldl_onMatrix_of_isApart hrest]
    exact congrArg PermissionScreen.matrix (Toggling.restore_eq (p := { p with matrix := loaded }) hwrite)
  refine ⟨p.after (s.told cues), permission_after hp cues, ?_, hback, ?_⟩
  · rw [htold]
    exact hselected
  · rw [hback, OperationMatrix.update_setFlag_eq_self_iff]

/-- The row of a cell with the flag flipped. -/
def invokedRow : OperationRow := { idleRow with invoke := true }

/-- A screen that shows the cell of an entry. -/
def cellScreen : PermissionScreen :=
  { loadingScreen with selected := some firstEntry, matrix := .ofRows [idleRow] }

/-- The screen once the flag of the cell is flipped. -/
def invokedScreen : PermissionScreen := { cellScreen with matrix := .ofRows [invokedRow] }

/-- The write of the flag. -/
def invokedWrite : FlagWrite :=
  Toggling.written { workflow := "SAVE", input := [("MenuId", .obj [("key", .str "selectedMenuId")])] }
    idleRow .invoke

/-- The write of the flag when its request is out. -/
def pendingWrite : Machine where
  handle := 2
  purpose := .write invokedWrite
  graph := { GraphRun.ofGroup "single" ⟨[invokedWrite.step]⟩ { epoch := 1, context := {} } with
    stage := .alone 0
      { GroupRun.of "single" 1 ⟨[invokedWrite.step]⟩ {} with stage := .awaiting 0 invokedWrite.step [] } [] [] }

/-- The flag is flipped, and its write is under way. -/
def writingShown : Rehearsal where
  surroundings := ⟨.epoch, ⟨"id", 0⟩⟩
  handles := { cells := [{}, {}, { counter := ⟨1⟩ }] }
  permission := some (invokedScreen, 0, 1)
  machines := [(0, pendingWrite)]
  tickets := 1

/-- Another selection brings the cell anew, and then the write is refused. -/
def selectedMeanwhile (item : Json) : List Cue :=
  let t : Trace := { surroundings := ⟨.epoch, ⟨"id", 0⟩⟩ }
  [.ask (.selectNode (some secondEntry))] ++ roundTrip 1 (itemsPayload [item]) ++
    [.answer 0 0 0 (.ok failurePayload), .poll 0 0 t, .close 0, .conclude 0]

theorem told_selectedMeanwhile : writingShown.told (selectedMeanwhile cellItem) =
    [.asked (.selectNode (some secondEntry)) (some 1),
        .began (.selectNode (some secondEntry)) 1 (.node secondEntry)] ++
      .ended 1 (.node secondEntry) (.matrix (.ofRows [idleRow])) :: ([] ++
        .ended 0 (.write invokedWrite) (.refused (.backend { info := "request failed with status 500" })) :: []) := by
  cbv

theorem wellMadeWrites_writingShown : writingShown.WellMadeWrites := by
  intro e he w hw
  rw [writingShown, List.mem_singleton] at he
  subst he
  obtain rfl : invokedWrite = w := Purpose.write.inj hw
  exact Toggling.wellMade_written _ _ _

/-- A matrix that is loaded with the flag as it was before the flip stays as it was loaded. -/
theorem unflipped_cell_is_kept :
    ∃ q, (writingShown.after (selectedMeanwhile cellItem)).permission = some (q, 0, 1) ∧
      q.selected = some secondEntry ∧ q.matrix = .ofRows [idleRow] := by
  obtain ⟨q, hq, hselected, -, hmatrix⟩ :=
    rollback_after_selection wellMadeWrites_writingShown rfl (selectedMeanwhile cellItem)
      told_selectedMeanwhile (fun i hi => absurd hi List.not_mem_nil)
  refine ⟨q, hq, hselected, hmatrix.2 fun cell hcell => ?_⟩
  have hloaded : (OperationMatrix.ofRows [idleRow]).cell? "r" "c" = some idleRow := by decide +kernel
  obtain rfl := Option.some.inj (hloaded.symm.trans hcell)
  rfl

/-- The cell with the flag set, as a backend lists it. -/
def invokedItem : Json :=
  .obj [("role_id", .str "r"), ("role_name", .str "Role"), ("command_id", .str "c"), ("invoke", .bool true)]

/-- Another selection brings the cell with the flag set. Its matrix is shown until the write is refused, and then
the flag is shown as not set, although it was not flipped in that matrix. -/
theorem loaded_flag_is_put_back :
    cellScreen.flip "r" "c" .invoke = .ok (invokedWrite, invokedScreen) ∧
      (writingShown.after ((selectedMeanwhile invokedItem).take 9)).permission.map (fun e => e.1.matrix) =
        some (.ofRows [invokedRow]) ∧
      (writingShown.after (selectedMeanwhile invokedItem)).permission.map (fun e => e.1.matrix) =
        some (.ofRows [idleRow]) := by
  refine ⟨?_, ?_, ?_⟩
  · rfl
  · cbv
  · cbv

end Rehearsal

end BackOffice
