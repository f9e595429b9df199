import BackOffice.Proofs.Permission.Rollback
import BackOffice.Proofs.Record.Keyed
import BackOffice.Proofs.Rehearsal.LoneStep

/-!
A flag that is flipped while nothing else is under way. Either its row is sent in one request and the flag stays
inverted, and nothing else in the matrix has changed, or the flip is refused after one request at the most, and the
matrix is as it was. The write runs on a handle of its own, so the handles of the screen learn nothing of it.
-/

namespace BackOffice

namespace OperationMatrix

variable {m : OperationMatrix} {roleId commandId : String} {f g : OperationRow → OperationRow}
  {old : OperationRow}

/-- Whether a matrix was loaded. Flags of it may have been set since. -/
inductive IsShown : OperationMatrix → Prop
  | loaded (rows : List OperationRow) : IsShown (.ofRows rows)
  | set {m : OperationMatrix} (h : m.IsShown) (roleId commandId : String) (flag : OperationFlag) (b : Bool) :
    IsShown (m.update roleId commandId (·.setFlag flag b))

theorem IsShown.wellKeyed (h : m.IsShown) : m.WellKeyed := by
  induction h with
  | loaded rows => exact wellKeyed_ofRows rows
  | set _ roleId commandId flag b ih => exact wellKeyed_update ih fun r => r.commandId_setFlag flag b

/-- Whether matrices differ in one row, which is the cell of a role and a command. -/
structure DiffersAt (m m' : OperationMatrix) (roleId commandId : String) (old new : OperationRow) : Prop where
  columns : m'.columns = m.columns
  groups : ∃ (front back : List RoleGroup) (g : RoleGroup) (before after : Keyed OperationRow),
    m.groups = front ++ { g with operations := before ++ (commandId, old) :: after } :: back ∧
      m'.groups = front ++ { g with operations := before ++ (commandId, new) :: after } :: back
  was : m.cell? roleId commandId = some old
  is : m'.cell? roleId commandId = some new

/-- A cell that is changed is the only row that differs. -/
theorem differsAt_update (hf : ∀ r, (f r).roleId = r.roleId) (h : m.cell? roleId commandId = some old) :
    m.DiffersAt (m.update roleId commandId f) roleId commandId old (f old) where
  columns := rfl
  groups := by
    have hgroups (groups : List RoleGroup) (h : groups.findSome? (·.cell? roleId commandId) = some old) :
        ∃ (front back : List RoleGroup) (g : RoleGroup) (before after : Keyed OperationRow),
          groups = front ++ { g with operations := before ++ (commandId, old) :: after } :: back ∧
            updateIn roleId commandId f groups =
              front ++ { g with operations := before ++ (commandId, f old) :: after } :: back := by
      induction groups with
      | nil => cases h
      | cons first rest ih =>
        rw [List.findSome?_cons] at h
        simp only [updateIn]
        cases hcell : first.cell? roleId commandId with
        | none =>
          rw [hcell] at h
          obtain ⟨front, back, g, before, after, hold, hnew⟩ := ih h
          exact ⟨first :: front, back, g, before, after, congrArg (first :: ·) hold, congrArg (first :: ·) hnew⟩
        | some r =>
          rw [hcell] at h
          obtain rfl := Option.some.inj h
          obtain ⟨before, after, hold, hnew⟩ :=
            Keyed.exists_put_eq (Option.filter_eq_some_iff.1 hcell).1 (f r)
          exact ⟨[], rest, first, before, after,
            congrArg (fun operations => { first with operations } :: rest) hold,
            congrArg (fun operations => { first with operations } :: rest) hnew⟩
    exact hgroups m.groups h
  was := h
  is := by rw [cell?_update m roleId commandId f hf, h, Option.map_some]

/-- A cell that is changed twice. -/
theorem update_update (hf : ∀ r, (f r).roleId = r.roleId) :
    (m.update roleId commandId f).update roleId commandId g = m.update roleId commandId (g ∘ f) := by
  have hgroups (groups : List RoleGroup) :
      updateIn roleId commandId g (updateIn roleId commandId f groups) =
        updateIn roleId commandId (g ∘ f) groups := by
    induction groups with
    | nil => rfl
    | cons first rest ih =>
      simp only [updateIn]
      cases hcell : first.cell? roleId commandId with
      | none => simp only [updateIn, hcell, ih]
      | some r =>
        have hrole : r.roleId = roleId := by simpa using (Option.filter_eq_some_iff.1 hcell).2
        have hchanged : RoleGroup.cell? { first with operations := first.operations.put commandId (f r) } roleId
            commandId = some (f r) := by
          simp [RoleGroup.cell?, Keyed.find?_put_self, hf, hrole]
        simp only [updateIn, hchanged, Keyed.put_put, Function.comp_apply]
  rw [update, update, update, hgroups]

/-- A flag that is inverted and then put back leaves the matrix as it was. -/
theorem setFlag_toggle_update {flag : OperationFlag} (h : m.cell? roleId commandId = some old) :
    (m.update roleId commandId (·.toggle flag)).update roleId commandId (·.setFlag flag (old.flag flag)) = m := by
  rw [update_update fun r => r.roleId_toggle flag]
  refine update_eq_self fun r hr => ?_
  obtain rfl := Option.some.inj (h.symm.trans hr)
  rw [Function.comp_apply, OperationRow.toggle, OperationRow.setFlag_setFlag, OperationRow.setFlag_flag]

end OperationMatrix

/-- Whether a request asks for a row to be kept. -/
structure Request.Carries (r : Request) (row : OperationRow) : Prop where
  role : r.field? "RoleId" = some (.str row.roleId)
  command : r.field? "CommandId" = some (.str row.commandId)
  invoke : r.field? "Invoke" = some (OperationRow.flagJson row.invoke)
  approve : r.field? "Approve" = some (OperationRow.flagJson row.approve)

theorem FlagWrite.IsSentAs.carries {w : FlagWrite} {r : Request} (h : w.IsSentAs r) : r.Carries w.row :=
  ⟨h.role, h.command, h.flags .invoke, h.flags .approve⟩

namespace PermissionScreen

variable {p q : PermissionScreen} {roleId commandId : String} {flag : OperationFlag} {w : FlagWrite}

/-- What a flip comes to: the cell is there, its flag is inverted, and its row is to be written. -/
theorem exists_written_of_flip (h : p.flip roleId commandId flag = .ok (w, q)) :
    ∃ template cell, p.matrix.cell? roleId commandId = some cell ∧ w = Toggling.written template cell flag ∧
      q = { p with matrix := p.matrix.update roleId commandId (·.toggle flag) } := by
  rw [flip] at h
  split at h
  · cases h
  next template _ =>
    split at h
    · cases h
    next cell hcell =>
      cases h
      exact ⟨template, cell, hcell, rfl, rfl⟩

/-- A write that fails right after its flip leaves the screen as it was before the flip. -/
theorem restore_of_flip (hshown : p.matrix.IsShown) (h : p.flip roleId commandId flag = .ok (w, q)) :
    q.restore w = p := by
  rw [Toggling.restore_eq (wellMade_of_flip h)]
  obtain ⟨template, cell, hcell, rfl, rfl⟩ := exists_written_of_flip h
  obtain ⟨hrole, hcommand⟩ := OperationMatrix.isAt_of_cell? hshown.wellKeyed hcell
  simp only [Toggling.written, OperationRow.roleId_toggle, OperationRow.commandId_toggle, hrole, hcommand,
    OperationMatrix.setFlag_toggle_update hcell]

end PermissionScreen

namespace Rehearsal

variable {s s' : Rehearsal} {p q : PermissionScreen} {menu operations n : Nat} {roleId commandId : String}
  {flag : OperationFlag} {w : FlagWrite} {m : Machine}

/-! ### A write on its own -/

/-- The rehearsal with another screen and a new handle, on which one run has begun. -/
def flipped (s : Rehearsal) (q : PermissionScreen × Nat × Nat) : Rehearsal :=
  { s with
    permission := some q
    handles := { s.handles with cells := s.handles.cells ++ [{ counter := ⟨1⟩ }] }
    tickets := s.tickets + 1 }

/-- What a write can read: the context that the handle of the selections has kept. -/
def readable (s : Rehearsal) (operations : Nat) : Context := (s.handleAt operations).committed.clearJournal

/-- The machine that writes a flag on the new handle. -/
def writer (s : Rehearsal) (operations : Nat) (w : FlagWrite) : Machine where
  handle := s.handles.cells.length
  purpose := .write w
  graph := .ofGroup WorkflowGraph.singleName ⟨[w.step]⟩ { epoch := 1, context := s.readable operations }

theorem handleAt_flipped {q : PermissionScreen × Nat × Nat} {place : Nat} (h : place < s.handles.cells.length) :
    (s.flipped q).handleAt place = s.handleAt place := by
  rw [handleAt, flipped, Shared.cell?, List.getElem?_append_left h]
  rfl

theorem counterAt_flipped (q : PermissionScreen × Nat × Nat) :
    (s.flipped q).counterAt s.handles.cells.length = ⟨1⟩ := by
  simp [counterAt, handleAt, flipped, Shared.cell?]

theorem isNewest_writer (q : PermissionScreen × Nat × Nat) (operations : Nat) (w : FlagWrite) :
    (s.flipped q).IsNewest (s.writer operations w) := by
  rw [IsNewest, writer, counterAt_flipped]
  rfl

/-- The group of a write that is about to begin. -/
def writing (s : Rehearsal) (operations : Nat) (w : FlagWrite) : GroupRun :=
  .of WorkflowGraph.singleName 1 ⟨[w.step]⟩ (s.readable operations)

/-- A flip shows the inverted flag and begins the write on a handle of its own. -/
theorem command_toggle (hmachines : s.machines = []) (hp : s.permission = some (p, menu, operations))
    (hflip : p.flip roleId commandId flag = .ok (w, q)) :
    s.command (.toggle roleId commandId flag) =
      ((s.flipped (q, menu, operations)).withOnly s.tickets
        ((s.writer operations w).atWork (s.writing operations w)), .launched s.tickets) := by
  let shown : Rehearsal := { s.allocHandle.2 with permission := some (q, menu, operations) }
  have hlaunch : s.command (.toggle roleId commandId flag) =
      shown.launchNew s.handles.cells.length (some (s.handleAt operations).committed) id (.ofStep w.step)
        (.write w) := by
    simp only [command, withPermission, hp, hflip, handleAt_allocHandle]
    rfl
  have hnew : shown.handleAt s.handles.cells.length = {} := by
    simp [shown, allocHandle, Shared.alloc, handleAt, Shared.cell?]
  have hset : shown.setHandle s.handles.cells.length { counter := ⟨1⟩ } =
      { s.flipped (q, menu, operations) with tickets := s.tickets } := by
    simp [shown, setHandle, allocHandle, Shared.alloc, Shared.set, flipped]
  have hgraph : GraphRun.start s.rules ⟨1⟩ (.ofStep w.step) { epoch := 1, context := s.readable operations } =
      ((s.writer operations w).atWork (s.writing operations w)).graph := by
    rw [WorkflowGraph.ofStep, GraphRun.start_ofGroup]
    rfl
  have hbegin : shown.launchNew s.handles.cells.length (some (s.handleAt operations).committed) id
      (.ofStep w.step) (.write w) =
        (shown.setHandle s.handles.cells.length { counter := ⟨1⟩ }).launch s.handles.cells.length
          { epoch := 1, context := s.readable operations } (.ofStep w.step) (.write w) := by
    rw [launchNew, hnew]
    rfl
  have hcounter : ({ s.flipped (q, menu, operations) with tickets := s.tickets } : Rehearsal).counterAt
      s.handles.cells.length = ⟨1⟩ := counterAt_flipped (q, menu, operations)
  rw [hlaunch, hbegin, hset, launch, hcounter]
  simp only [flipped, hgraph, hmachines]
  rfl

/-- A flag that cannot be flipped is refused at once. -/
theorem rounds_of_refused {e : ScreenError} (hp : s.permission = some (p, menu, operations))
    (hflip : p.flip roleId commandId flag = .error e) :
    s.rounds (n + 2) (.ready (.toggle roleId commandId flag)) = (s, some (.refused e)) := by
  have hcommand : s.command (.toggle roleId commandId flag) = (s, .done (.refused e)) := by
    simp only [command, withPermission, hp, hflip]
  exact rounds_of_done (by rw [poll, hcommand])

theorem rounds_of_launched {c : Command} {ticket : Nat} (h : s.command c = (s', .launched ticket)) :
    s.rounds (n + 2) (.ready c) = s'.rounds (n + 2) (.running ticket []) := by
  simp only [rounds, poll, h]

/-- The end of a write: its row is shown, or the flag is put back. -/
theorem finish_write {places : Nat × Nat} {o : StepOutcome} (hpurpose : m.purpose = .write w)
    (hp : s.permission = some (q, places))
    (ho : (m.graph.outcome (s.counterAt m.handle)).onlyStep w.step = o) :
    o.isSuccess = true ∧ s.finish m = (s, .row w.row) ∨
      ∃ e, s.finish m = ({ s with permission := some (q.restore w, places) }, .refused e) := by
  have hsame : { s with permission := some (q, places) } = s := by rw [← hp]
  simp only [finish, hpurpose, hp, ho, PermissionScreen.acceptWrite]
  cases hsuccess : o.isSuccess with
  | true => exact .inl ⟨rfl, by simp [hsame]⟩
  | false => exact .inr ⟨_, rfl⟩

/-- Whether a write has come to its end with a screen and with requests that were sent. No handle has changed. -/
structure WriteEnds (s s' : Rehearsal) (q : PermissionScreen × Nat × Nat) (sent : List Request) : Prop where
  permission : s'.permission = some q
  handles : s'.handles = s.handles
  calls : s'.backend.calls = s.backend.calls ++ sent

/-- What comes of a write once its step has come to its end. -/
theorem writeEnds_ending {base : Rehearsal} {places : Nat × Nat} {g : GroupRun} {sent : List Request}
    (hpurpose : m.purpose = .write w) (hp : base.permission = some (q, places)) (hsends : base.Sends s' sent) :
    ∃ after q' reply, s'.ending m g = (after, reply) ∧ base.WriteEnds after (q', places) sent ∧
      ((((s'.closed m g).graph.outcome (s'.counterAt m.handle)).onlyStep w.step).isSuccess = true ∧
          q' = q ∧ reply = .row w.row ∨
        q' = q.restore w ∧ ∃ e, reply = .refused e) := by
  obtain ⟨b, rfl⟩ := hsends.elsewhere
  obtain ⟨hsuccess, hfinish⟩ | ⟨e, hfinish⟩ :=
    finish_write (s := (base.take (.elsewhere b)).withNone) (m := (base.take (.elsewhere b)).closed m g) hpurpose hp
      rfl
  · exact ⟨_, q, _, hfinish, ⟨hp, rfl, hsends.calls⟩, .inl ⟨hsuccess, rfl, rfl⟩⟩
  · exact ⟨_, _, _, hfinish, ⟨rfl, rfl, hsends.calls⟩, .inr ⟨rfl, e, rfl⟩⟩

/-- A write on its own is answered: its row was sent and is shown, or the flag is put back after one request at the
most. -/
theorem rounds_of_flipped (q : PermissionScreen) (menu operations : Nat) (w : FlagWrite) (hquiet : s.Quiet)
    (hqueue : s.queue = []) (hn : s.hookWeight + 7 ≤ n) :
    ∃ after q' reply sent,
      ((s.flipped (q, menu, operations)).withOnly s.tickets
          ((s.writer operations w).atWork (s.writing operations w))).rounds n (.running s.tickets []) =
            (after, some reply) ∧
        (s.flipped (q, menu, operations)).WriteEnds after (q', menu, operations) sent ∧
        ((∃ r, sent = [r] ∧ (w.step.bind (s.readable operations) s.surroundings).1 = .ok r ∧
            q' = q ∧ reply = .row w.row) ∨
          sent.length ≤ 1 ∧ q' = q.restore w ∧ ∃ e, reply = .refused e) := by
  obtain ⟨s', g, sent, hsends, hrounds, hsent⟩ := ends_of_loneStep (s := s.flipped (q, menu, operations)) s.tickets
    WorkflowGraph.singleName 1 w.step (s.readable operations) hquiet
    (isNewest_writer (q, menu, operations) operations w) hqueue hn
  obtain ⟨after, q', reply, hending, hended, houtcome⟩ :=
    writeEnds_ending (m := s.writer operations w) (g := g) rfl rfl hsends
  rw [hending] at hrounds
  refine ⟨after, q', reply, sent, hrounds, hended, ?_⟩
  obtain ⟨hsuccess, hkept⟩ | hrestored := houtcome
  · obtain ⟨r, hbind, rfl⟩ | ⟨-, hfinished, hfailed⟩ := hsent
    · exact .inl ⟨r, rfl, hbind, hkept⟩
    · -- A row that was not sent was not accepted either.
      rw [isSuccess_onlyStep_closed rfl rfl hfinished hfailed] at hsuccess
      cases hsuccess
  · refine .inr ⟨?_, hrestored⟩
    obtain ⟨r, -, rfl⟩ | ⟨rfl, -⟩ := hsent
    · exact Nat.le_refl 1
    · exact Nat.zero_le 1

/-! ### A flip in a rehearsal -/

theorem hookWeight_le_allowance (s : Rehearsal) (c : Command) : s.hookWeight + 7 ≤ s.allowance [c] := by
  have hle : 8 * (1 + Command.weights [c] + s.hookWeight) ≤ s.allowance [c] :=
    Nat.le_mul_of_pos_right _ (by omega)
  omega

theorem scene_of_rounds {c : Command} {after : Rehearsal} {reply : Option Reply} {sent : List Request}
    (h : ({ s with asides := [], events := [] } : Rehearsal).rounds n (.ready c) = (after, reply))
    (hcalls : after.backend.calls = s.backend.calls ++ sent) :
    s.scene n c = (after, { reply, asides := after.asides, calls := sent, events := after.events }) := by
  simp only [scene, h, hcalls, List.drop_left]

/-- A flag that is flipped while nothing else is under way is flipped in one request, and nothing else has changed, or
the flip is refused after one request at the most, and nothing has changed. -/
theorem lone_toggle_is_atomic (hmachines : s.machines = []) (hqueue : s.queue = []) (hquiet : s.Quiet)
    (hp : s.permission = some (p, menu, operations)) (hmenu : menu < s.handles.cells.length)
    (hoperations : operations < s.handles.cells.length) (hshown : p.matrix.IsShown)
    (hn : s.allowance [.toggle roleId commandId flag] ≤ n) :
    ∃ after scene matrix, s.scene n (.toggle roleId commandId flag) = (after, scene) ∧
      after.permission = some ({ p with matrix }, menu, operations) ∧
      after.handleAt menu = s.handleAt menu ∧ after.handleAt operations = s.handleAt operations ∧
      ((∃ cell row r, scene.reply = some (.row row) ∧ scene.calls = [r] ∧ r.Carries row ∧
          row = cell.setFlag flag (!cell.flag flag) ∧
          p.matrix.DiffersAt matrix roleId commandId cell row) ∨
        ∃ e, scene.reply = some (.refused e) ∧ scene.calls.length ≤ 1 ∧ matrix = p.matrix) := by
  have hfuel := Nat.le_trans (s.hookWeight_le_allowance (.toggle roleId commandId flag)) hn
  obtain ⟨k, rfl⟩ := Nat.exists_eq_add_of_le' (show 2 ≤ n by omega)
  let bare : Rehearsal := { s with asides := [], events := [] }
  cases hflip : p.flip roleId commandId flag with
  | error e =>
    have hscene := scene_of_rounds (rounds_of_refused (s := bare) (n := k) hp hflip) (List.append_nil _).symm
    exact ⟨bare, _, p.matrix, hscene, hp, rfl, rfl, .inr ⟨e, rfl, Nat.zero_le _, rfl⟩⟩
  | ok written =>
    obtain ⟨w, q⟩ := written
    obtain ⟨after, q', reply, sent, hrounds, hended, houtcome⟩ :=
      rounds_of_flipped (s := bare) q menu operations w hquiet hqueue hfuel
    have hscene := scene_of_rounds
      ((rounds_of_launched (command_toggle (s := bare) hmachines hp hflip)).trans hrounds) hended.calls
    have hhandle {place : Nat} (hplace : place < s.handles.cells.length) :
        after.handleAt place = s.handleAt place := by
      rw [handleAt, hended.handles]
      exact handleAt_flipped (s := bare) (q := (q, menu, operations)) hplace
    obtain ⟨r, rfl, hbind, rfl, rfl⟩ | ⟨hsent, rfl, e, rfl⟩ := houtcome
    · have hcarries := ((PermissionScreen.wellMade_of_flip hflip).isSentAs hbind).carries
      obtain ⟨template, cell, hcell, rfl, rfl⟩ := PermissionScreen.exists_written_of_flip hflip
      exact ⟨after, _, _, hscene, hended.permission, hhandle hmenu, hhandle hoperations,
        .inl ⟨cell, _, r, rfl, rfl, hcarries, rfl,
          OperationMatrix.differsAt_update (fun r => r.roleId_toggle flag) hcell⟩⟩
    · have hpermission := hended.permission
      rw [PermissionScreen.restore_of_flip hshown hflip] at hpermission
      exact ⟨after, _, p.matrix, hscene, hpermission, hhandle hmenu, hhandle hoperations,
        .inr ⟨e, rfl, hsent, rfl⟩⟩

/-- The cell of an entry is shown, and the backend takes two rounds to accept a row. -/
def savingShown : Rehearsal where
  surroundings := ⟨.epoch, ⟨"id", 0⟩⟩
  backend := { queues := [("SAVE", [dataPayload .null])] }
  hooks := [("SAVE", [{ delay := 2 }])]
  handles := { cells := [{}, { counter := ⟨1⟩, committed := ⟨[("selectedMenuId", .str "a")], []⟩ }] }
  permission := some (cellScreen, 0, 1)

/-- The request that asks for the row of the cell with the flag flipped. -/
def invokedRequest : Request where
  workflow := "SAVE"
  learnApi := none
  useMicroservice := false
  input := [("MenuId", .str "a"), ("RoleId", .str "r"), ("CommandId", .str "c"), ("Invoke", .ofNat 1),
    ("Approve", .ofNat 0)]

theorem reply_savingShown :
    (savingShown.scene 400 (.toggle "r" "c" .invoke)).2.reply = some (.row invokedRow) := by
  have hcommand := command_toggle (s := savingShown) (w := invokedWrite) (q := invokedScreen) rfl rfl
    (rfl : cellScreen.flip "r" "c" .invoke = _)
  have hbind : invokedWrite.step.bind (savingShown.readable 1) savingShown.surroundings =
      (.ok invokedRequest, savingShown.surroundings) := rfl
  have hpoll : (savingShown.writing 1 invokedWrite).poll savingShown.rules true
      { surroundings := savingShown.surroundings } =
        ({ savingShown.writing 1 invokedWrite with stage := .awaiting 0 invokedWrite.step [] },
          { surroundings := savingShown.surroundings
            events := [⟨1, .dispatched "single" "SAVE", .epoch⟩]
            calls := [⟨0, invokedRequest, true⟩] }) := by
    simp only [GroupRun.poll, writing, GroupRun.of, List.zipIdx_cons, List.zipIdx_nil, List.map_cons, List.map_nil,
      GroupRun.start, hbind]
    rfl
  have hgroup := pollGroup_withOnly (s := savingShown.flipped (invokedScreen, 0, 1)) 396 0
    (isNewest_writer _ 1 invokedWrite) hpoll
  have hrounds := (rounds_of_launched hcommand).trans
    (rounds_of_running (poll_of_waiting rfl (hgroup.trans pollGroup_out) rfl))
  change (savingShown.rounds 400 (.ready (.toggle "r" "c" .invoke))).2 = some (.row invokedRow)
  rw [hrounds]
  cbv

theorem idle_cell_is_flipped :
    ∃ after scene matrix r, savingShown.scene 400 (.toggle "r" "c" .invoke) = (after, scene) ∧
      after.permission = some ({ cellScreen with matrix }, 0, 1) ∧
      after.handleAt 0 = savingShown.handleAt 0 ∧ after.handleAt 1 = savingShown.handleAt 1 ∧
      scene.reply = some (.row invokedRow) ∧ scene.calls = [r] ∧ r.Carries invokedRow ∧
      cellScreen.matrix.DiffersAt matrix "r" "c" idleRow invokedRow := by
  have hquiet : savingShown.Quiet := by
    intro e he h hh
    obtain rfl := List.mem_singleton.1 he
    obtain rfl := List.mem_singleton.1 hh
    rfl
  have hfuel : savingShown.allowance [.toggle "r" "c" .invoke] ≤ 400 := by decide +kernel
  obtain ⟨after, scene, matrix, hscene, hpermission, hmenu, hoperations, houtcome⟩ :=
    lone_toggle_is_atomic rfl rfl hquiet rfl (by decide) (by decide) (.loaded [idleRow]) hfuel
  have hreply := reply_savingShown
  rw [hscene] at hreply
  obtain ⟨cell, row, r, hrow, hcalls, hcarries, -, hdiffers⟩ | ⟨e, hrefused, -⟩ := houtcome
  · obtain rfl := Reply.row.inj (Option.some.inj (hreply.symm.trans hrow))
    have hcell : cellScreen.matrix.cell? "r" "c" = some idleRow := by decide +kernel
    obtain rfl := Option.some.inj (hcell.symm.trans hdiffers.was)
    exact ⟨after, scene, matrix, r, hscene, hpermission, hmenu, hoperations, hrow, hcalls, hcarries, hdiffers⟩
  · cases Option.some.inj (hreply.symm.trans hrefused)

end Rehearsal

end BackOffice
