import BackOffice.Proofs.Permission.Cells
import BackOffice.Rehearsal.Floor
import Mathlib

/-!
Flags that are flipped before their writes are answered. A flip shows at once, and a write that fails puts
its flag back to what it was before the flip, whatever was flipped since. So what a matrix shows in the end
is what the backend has accepted as long as writes fail in the reverse order of their flips, and need not be
otherwise.
-/

namespace BackOffice

/-- A screen whose flags are being flipped. -/
structure Toggling where
  screen : PermissionScreen
  /-- The writes in the order of their flips, and whether the backend has accepted them. -/
  writes : List (FlagWrite × Option Bool) := []

/-- What happens to a screen while flags are flipped: one is flipped, or a write comes to its end. -/
inductive ToggleTurn where
  | flip (roleId commandId : String) (flag : OperationFlag)
  | settle (write : Nat) (outcome : StepOutcome)

/-- A flag that gets a value. -/
structure FlagEffect where
  roleId : String
  commandId : String
  flag : OperationFlag
  value : Bool
deriving DecidableEq, Repr

namespace FlagWrite

/-- Whether a write is about a cell. -/
def IsAt (w : FlagWrite) (roleId commandId : String) : Prop := w.row.IsAt roleId commandId

instance (w : FlagWrite) (roleId commandId : String) : Decidable (w.IsAt roleId commandId) :=
  inferInstanceAs (Decidable (w.row.IsAt roleId commandId))

/-- The row as it was before the flip. -/
def undone (w : FlagWrite) : OperationRow := w.row.setFlag w.flag w.previous

/-- The write as it is made: the row has the flag flipped, and the step sends the row. -/
structure WellMade (w : FlagWrite) : Prop where
  flipped : w.row.flag w.flag = !w.previous
  step : ∃ template, w.step = PermissionScreen.writeStep template w.row

/-- The field of a request that holds a flag. -/
def field : OperationFlag → String
  | .invoke => "Invoke"
  | .approve => "Approve"

/-- Whether a request is about the cell of a write and holds both flags of its row. -/
structure IsSentAs (w : FlagWrite) (r : Request) : Prop where
  role : r.field? "RoleId" = some (.str w.row.roleId)
  command : r.field? "CommandId" = some (.str w.row.commandId)
  flags (flag : OperationFlag) : r.field? (field flag) = some (OperationRow.flagJson (w.row.flag flag))

end FlagWrite

namespace FlagEffect

/-- What an effect does to the row of a cell. -/
def onCell (e : FlagEffect) (roleId commandId : String) (r : OperationRow) : OperationRow :=
  if roleId = e.roleId ∧ commandId = e.commandId then r.setFlag e.flag e.value else r

end FlagEffect

/-- What stands in the fields of a step that writes a row. -/
theorem PermissionScreen.find?_writeStep (template : Step) (row : OperationRow) (key : String) :
    (writeStep template row).input.find? key =
      if key = "Approve" then some (OperationRow.flagJson row.approve)
      else if key = "Invoke" then some (OperationRow.flagJson row.invoke)
      else if key = "CommandId" then some (.str row.commandId)
      else if key = "RoleId" then some (.str row.roleId)
      else template.input.find? key := by
  simp only [writeStep, Step.withInput, Keyed.find?_put, InputExpr.toJson]

/-- Every request of a step that writes a row is about the row. -/
theorem FlagWrite.WellMade.isSentAs {w : FlagWrite} (hw : w.WellMade) {c : Context} {around : Surroundings}
    {r : Request} (h : (w.step.bind c around).1 = .ok r) : w.IsSentAs r := by
  obtain ⟨template, hstep⟩ := hw.step
  rw [hstep] at h
  have hput := PermissionScreen.find?_writeStep template w.row
  exact
    { role := Step.field?_bind_str h (hput "RoleId")
      command := Step.field?_bind_str h (hput "CommandId")
      flags := fun flag => by
        cases flag with
        | invoke => exact Step.field?_bind_num h (hput "Invoke")
        | approve => exact Step.field?_bind_num h (hput "Approve") }

namespace Toggling

variable {s : Toggling} {turn : ToggleTurn} {roleId commandId : String} {flag : OperationFlag}
  {w : FlagWrite} {loaded : OperationRow}

def cell? (s : Toggling) (roleId commandId : String) : Option OperationRow :=
  s.screen.matrix.cell? roleId commandId

/-- One turn. A turn that cannot be taken changes nothing. -/
def take (s : Toggling) : ToggleTurn → Toggling
  | .flip roleId commandId flag => match s.screen.flip roleId commandId flag with
    | .ok (w, screen) => { screen, writes := s.writes ++ [(w, none)] }
    | .error _ => s
  | .settle n o => match s.writes[n]? with
    | some (w, none) =>
      { screen := (s.screen.acceptWrite w o).2, writes := s.writes.set n (w, some o.isSuccess) }
    | _ => s

/-- Turns, one after another. -/
def after (s : Toggling) (turns : List ToggleTurn) : Toggling := turns.foldl take s

/-- The effect of a turn: a flip sets the flag to its new value, and a failed write to its old one. -/
def effectOf (s : Toggling) : ToggleTurn → Option FlagEffect
  | .flip roleId commandId flag => match s.screen.flip roleId commandId flag with
    | .ok (w, _) => some ⟨roleId, commandId, flag, !w.previous⟩
    | .error _ => none
  | .settle n o => match s.writes[n]? with
    | some (w, none) =>
      if o.isSuccess then none else some ⟨w.row.roleId, w.row.commandId, w.flag, w.previous⟩
    | _ => none

/-- The effects of turns, in order. -/
def effects (s : Toggling) : List ToggleTurn → List FlagEffect
  | [] => []
  | turn :: rest => (s.effectOf turn).toList ++ (s.take turn).effects rest

/-- Whether no write is under way. -/
def Settled (s : Toggling) : Prop := ∀ e ∈ s.writes, e.2 ≠ none

/-- Whether a write that fails in a turn is the last one of its cell that has not failed. -/
def IsLast (s : Toggling) : ToggleTurn → Prop
  | .flip .. => True
  | .settle n o => o.isSuccess = false → ∀ e ∈ s.writes[n]?, ∀ later ∈ s.writes.drop (n + 1),
    later.1.IsAt e.1.row.roleId e.1.row.commandId → later.2 = some false

/-- Whether writes of a cell fail only in the reverse order of their flips. -/
def Nested : Toggling → List ToggleTurn → Prop
  | _, [] => True
  | s, turn :: rest => s.IsLast turn ∧ (s.take turn).Nested rest

/-- The writes of a cell that the backend has accepted, in the order of their flips. -/
def accepted (s : Toggling) (roleId commandId : String) : List FlagWrite :=
  (s.writes.filter fun e => e.1.IsAt roleId commandId ∧ e.2 = some true).map Prod.fst

/-- The writes of a cell that have not failed, in the order of their flips. -/
def standing (writes : List (FlagWrite × Option Bool)) (roleId commandId : String) : List FlagWrite :=
  (writes.filter fun e => e.1.IsAt roleId commandId ∧ e.2 ≠ some false).map Prod.fst

/-! ### What one turn does -/

/-- A write that is put back sets its flag to what it was before, whatever the flag is now. -/
theorem restore_eq {p : PermissionScreen} (h : w.WellMade) :
    p.restore w =
      { p with matrix := p.matrix.update w.row.roleId w.row.commandId (·.setFlag w.flag w.previous) } := by
  have hset : (fun r : OperationRow =>
      if r.flag w.flag = w.row.flag w.flag then r.setFlag w.flag w.previous else r) =
        fun r => r.setFlag w.flag w.previous := by
    funext r
    split
    · rfl
    -- A flag that is not as it was flipped is as it was before: it has no third value.
    next hne =>
      rw [h.flipped, Bool.not_eq_not] at hne
      rw [← hne, OperationRow.setFlag_flag]
  rw [PermissionScreen.restore, hset]

/-- Whether the rows stand where they belong, and the writes are as they are made. -/
structure Sound (s : Toggling) : Prop where
  keyed : s.screen.matrix.WellKeyed
  made : ∀ e ∈ s.writes, e.1.WellMade

/-- The screen with a cell changed, and other writes. -/
def changed (s : Toggling) (roleId commandId : String) (f : OperationRow → OperationRow)
    (writes : List (FlagWrite × Option Bool)) : Toggling :=
  ⟨{ s.screen with matrix := s.screen.matrix.update roleId commandId f }, writes⟩

/-- The write of a flag that is flipped in a row. -/
def written (template : Step) (cell : OperationRow) (flag : OperationFlag) : FlagWrite :=
  ⟨flag, cell.flag flag, cell.toggle flag, PermissionScreen.writeStep template (cell.toggle flag)⟩

/-- What one turn can do. -/
inductive Takes (s : Toggling) : ToggleTurn → Toggling → Option FlagEffect → Prop
  | idle (turn : ToggleTurn) : Takes s turn s none
  | flipped {roleId commandId : String} {flag : OperationFlag} {cell : OperationRow} (template : Step)
      (hcell : s.cell? roleId commandId = some cell) :
      Takes s (.flip roleId commandId flag)
        (s.changed roleId commandId (·.toggle flag) (s.writes ++ [(written template cell flag, none)]))
        (some ⟨roleId, commandId, flag, !cell.flag flag⟩)
  | kept {n : Nat} {w : FlagWrite} {o : StepOutcome} (hwrite : s.writes[n]? = some (w, none))
      (ho : o.isSuccess = true) :
      Takes s (.settle n o) { s with writes := s.writes.set n (w, some true) } none
  | restored {n : Nat} {w : FlagWrite} {o : StepOutcome} (hwrite : s.writes[n]? = some (w, none))
      (ho : o.isSuccess = false) :
      Takes s (.settle n o)
        (s.changed w.row.roleId w.row.commandId (·.setFlag w.flag w.previous)
          (s.writes.set n (w, some false)))
        (some ⟨w.row.roleId, w.row.commandId, w.flag, w.previous⟩)

theorem takes (hs : s.Sound) (turn : ToggleTurn) : Takes s turn (s.take turn) (s.effectOf turn) := by
  cases turn with
  | flip roleId commandId flag =>
    simp only [take, effectOf, PermissionScreen.flip]
    cases (s.screen.graph.get? PermissionScreen.saveOperation).bind (·.steps.head?) with
    | none => exact .idle _
    | some template =>
      cases hcell : s.screen.matrix.cell? roleId commandId with
      | none => exact .idle _
      | some cell => exact .flipped template hcell
  | settle n o =>
    simp only [take, effectOf]
    rcases hwrite : s.writes[n]? with _ | ⟨w, _ | accepted⟩
    · exact .idle _
    · cases ho : o.isSuccess with
      | true =>
        simp only [PermissionScreen.acceptWrite, ho, if_true]
        exact .kept hwrite ho
      | false =>
        simp only [PermissionScreen.acceptWrite, ho, restore_eq (hs.made _ (List.mem_of_getElem? hwrite))]
        exact .restored hwrite ho
    · exact .idle _

theorem wellMade_written (template : Step) (cell : OperationRow) (flag : OperationFlag) :
    (written template cell flag).WellMade :=
  ⟨OperationRow.flag_setFlag _ _ _, template, rfl⟩

theorem undone_written (template : Step) (cell : OperationRow) (flag : OperationFlag) :
    (written template cell flag).undone = cell := by
  rw [FlagWrite.undone, written, OperationRow.toggle, OperationRow.setFlag_setFlag, OperationRow.setFlag_flag]

namespace Takes

variable {s' : Toggling} {e : Option FlagEffect}

theorem sound (h : Takes s turn s' e) (hs : s.Sound) : s'.Sound := by
  have hset {n : Nat} {w : FlagWrite} (state : Option Bool) (hwrite : s.writes[n]? = some (w, none)) :
      ∀ e ∈ s.writes.set n (w, state), e.1.WellMade := by
    intro e he
    obtain he | rfl := List.mem_or_eq_of_mem_set he
    · exact hs.made e he
    · exact hs.made (w, none) (List.mem_of_getElem? hwrite)
  cases h with
  | idle => exact hs
  | flipped template hcell =>
    refine ⟨OperationMatrix.wellKeyed_update hs.keyed fun r => OperationRow.commandId_toggle r _, ?_⟩
    intro e he
    obtain he | he := List.mem_append.1 he
    · exact hs.made e he
    · rw [List.mem_singleton.1 he]
      exact wellMade_written _ _ _
  | kept hwrite ho => exact ⟨hs.keyed, hset _ hwrite⟩
  | restored hwrite ho =>
    exact ⟨OperationMatrix.wellKeyed_update hs.keyed fun r => OperationRow.commandId_setFlag _ _ _,
      hset _ hwrite⟩

/-- A turn changes the matrix by one effect at the most. -/
theorem cell?_eq (h : Takes s turn s' e) (roleId commandId : String) :
    s'.cell? roleId commandId = (s.cell? roleId commandId).map fun r =>
      e.toList.foldl (fun r e => e.onCell roleId commandId r) r := by
  cases h with
  | idle => simp
  | flipped template hcell =>
    rename_i role command flag cell
    simp only [Toggling.cell?, changed] at hcell ⊢
    rw [OperationMatrix.cell?_update_eq fun r => OperationRow.roleId_toggle r flag]
    split
    next heq =>
      obtain ⟨rfl, rfl⟩ := heq
      simp [hcell, FlagEffect.onCell, OperationRow.toggle]
    next hne => simp [FlagEffect.onCell, hne]
  | kept hwrite ho => simp [Toggling.cell?]
  | restored hwrite ho =>
    simp only [Toggling.cell?, changed]
    rw [OperationMatrix.cell?_update_eq fun r => OperationRow.roleId_setFlag r _ _]
    split
    next heq => simp [FlagEffect.onCell, heq]
    next hne => simp [FlagEffect.onCell, hne]

end Takes

theorem sound_after (hs : s.Sound) (turns : List ToggleTurn) : (s.after turns).Sound := by
  induction turns generalizing s with
  | nil => exact hs
  | cons turn rest ih => exact ih ((takes hs turn).sound hs)

/-- Whatever happens, a cell shows its flags as the last effects on them have set them. -/
theorem cell?_after (hs : s.Sound) (turns : List ToggleTurn) (roleId commandId : String) :
    (s.after turns).cell? roleId commandId = (s.cell? roleId commandId).map fun r =>
      (s.effects turns).foldl (fun r e => e.onCell roleId commandId r) r := by
  induction turns generalizing s with
  | nil => simp [after, effects]
  | cons turn rest ih =>
    have hrest := ih ((takes hs turn).sound hs)
    rw [(takes hs turn).cell?_eq, Option.map_map] at hrest
    rw [show s.after (turn :: rest) = (s.take turn).after rest from rfl, hrest, effects]
    simp only [List.foldl_append]
    rfl

/-! ### Writes that fail in the reverse order of their flips -/

/-- Whether each of some writes was made on the row of the one before, the first on a first row. -/
def Chain : OperationRow → List FlagWrite → OperationRow → Prop
  | first, [], row => first = row
  | first, w :: rest, row => w.undone = first ∧ Chain w.row rest row

theorem chain_append {first row : OperationRow} {ws : List FlagWrite} :
    Chain first (ws ++ [w]) row ↔ Chain first ws w.undone ∧ w.row = row := by
  induction ws generalizing first with
  | nil => simp [Chain, eq_comm]
  | cons w' rest ih => simp [Chain, ih, and_assoc]

/-- The last write of a chain has made the row. -/
theorem Chain.eq_getLast {first row : OperationRow} {ws : List FlagWrite} (h : Chain first ws row) :
    row = (ws.getLast?.map FlagWrite.row).getD first := by
  rcases List.eq_nil_or_concat ws with rfl | ⟨front, w, rfl⟩
  · exact Eq.symm h
  · rw [List.concat_eq_append, chain_append] at h
    simp [h.2]

/-- Whether the writes of each cell that have not failed make a chain from the row that was loaded. -/
def Stacked (m : OperationMatrix) (s : Toggling) : Prop :=
  ∀ roleId commandId first, m.cell? roleId commandId = some first →
    ∃ row, s.cell? roleId commandId = some row ∧ Chain first (standing s.writes roleId commandId) row

section Standing

variable {writes : List (FlagWrite × Option Bool)} {n : Nat}

theorem standing_append (w : FlagWrite) :
    standing (writes ++ [(w, none)]) roleId commandId =
      standing writes roleId commandId ++ if w.IsAt roleId commandId then [w] else [] := by
  by_cases h : w.IsAt roleId commandId <;> simp [standing, List.filter_append, h]

/-- The writes of a cell that have not failed, around one of them. -/
theorem standing_set (hlt : n < writes.length) (w : FlagWrite) (state : Option Bool) :
    standing (writes.set n (w, state)) roleId commandId =
      standing (writes.take n) roleId commandId ++
        (if w.IsAt roleId commandId ∧ state ≠ some false then [w] else []) ++
          standing (writes.drop (n + 1)) roleId commandId := by
  rw [standing, List.set_eq_take_append_cons_drop, if_pos hlt, List.filter_append, List.map_append,
    List.append_assoc]
  by_cases h : w.IsAt roleId commandId ∧ state ≠ some false <;> simp [standing, h]

theorem standing_eq (hwrite : writes[n]? = some (w, none)) :
    standing writes roleId commandId =
      standing (writes.take n) roleId commandId ++ (if w.IsAt roleId commandId then [w] else []) ++
        standing (writes.drop (n + 1)) roleId commandId := by
  obtain ⟨hlt, hget⟩ := List.getElem?_eq_some_iff.1 hwrite
  have hself := @standing_set roleId commandId writes n hlt w none
  rw [← hget, List.set_getElem_self] at hself
  simpa [hget] using hself

/-- A write that is accepted stays where it stands. -/
theorem standing_kept (hwrite : writes[n]? = some (w, none)) :
    standing (writes.set n (w, some true)) roleId commandId = standing writes roleId commandId := by
  rw [standing_set (List.getElem?_eq_some_iff.1 hwrite).1, standing_eq hwrite]
  simp

/-- A write that fails after all later ones of its cell stands last, and is taken off there. -/
theorem standing_restored (hwrite : writes[n]? = some (w, none))
    (hlast : ∀ later ∈ writes.drop (n + 1), later.1.IsAt w.row.roleId w.row.commandId →
      later.2 = some false) (roleId commandId : String) :
    standing writes roleId commandId =
      standing (writes.set n (w, some false)) roleId commandId ++
        if w.IsAt roleId commandId then [w] else [] := by
  rw [standing_set (List.getElem?_eq_some_iff.1 hwrite).1, standing_eq hwrite]
  split
  next hat =>
    obtain ⟨rfl, rfl⟩ := hat
    have hnone : standing (writes.drop (n + 1)) w.row.roleId w.row.commandId = [] := by
      simp only [standing, List.map_eq_nil_iff, List.filter_eq_nil_iff, decide_eq_true_eq]
      exact fun e he h => h.2 (hlast e he h.1)
    simp [hnone]
  next => simp

end Standing

/-- A turn that fails no write before a later one of its cell keeps the writes of each cell a chain. -/
theorem Takes.stacked {s' : Toggling} {e : Option FlagEffect} {m : OperationMatrix}
    (h : Takes s turn s' e) (hs : s.Sound) (hlast : s.IsLast turn) (hstack : s.Stacked m) :
    s'.Stacked m := by
  intro role command first hfirst
  obtain ⟨row, hrow, hchain⟩ := hstack role command first hfirst
  have hcell' := h.cell?_eq role command
  rw [hrow] at hcell'
  cases h with
  | idle => exact ⟨row, hrow, hchain⟩
  | @flipped roleId commandId flag cell template hcell =>
    refine ⟨_, hcell', ?_⟩
    have hat : (written template cell flag).IsAt role command ↔ role = roleId ∧ command = commandId := by
      obtain ⟨hrole, hcommand⟩ := OperationMatrix.isAt_of_cell? hs.keyed hcell
      simp [FlagWrite.IsAt, OperationRow.IsAt, written, hrole, hcommand, eq_comm]
    simp only [changed, standing_append, hat, Option.toList_some, List.foldl_cons, List.foldl_nil,
      FlagEffect.onCell]
    split
    next heq =>
      obtain ⟨rfl, rfl⟩ := heq
      obtain rfl : cell = row := Option.some.inj (hcell.symm.trans hrow)
      -- The write is made on the row that the last write of the chain has made.
      exact chain_append.2 ⟨by rwa [undone_written], rfl⟩
    next => rwa [List.append_nil]
  | kept hwrite ho => exact ⟨row, hrow, by rwa [standing_kept hwrite]⟩
  | @restored n w o hwrite ho =>
    refine ⟨_, hcell', ?_⟩
    have hat : w.IsAt role command ↔ role = w.row.roleId ∧ command = w.row.commandId :=
      ⟨fun h => ⟨h.1.symm, h.2.symm⟩, fun h => ⟨h.1.symm, h.2.symm⟩⟩
    rw [standing_restored hwrite (hlast ho (w, none) hwrite)] at hchain
    simp only [changed, Option.toList_some, List.foldl_cons, List.foldl_nil, FlagEffect.onCell]
    split
    next heq =>
      -- The write is the last of the chain, so the row before it is that of the writes before.
      rw [if_pos (hat.2 heq), chain_append] at hchain
      obtain ⟨hbefore, rfl⟩ := hchain
      exact hbefore
    next hne => rwa [if_neg (mt hat.1 hne), List.append_nil] at hchain

theorem stacked_after {m : OperationMatrix} {turns : List ToggleTurn} (hs : s.Sound)
    (hnested : s.Nested turns) (hstack : s.Stacked m) : (s.after turns).Stacked m := by
  induction turns generalizing s with
  | nil => exact hstack
  | cons turn rest ih =>
    have htakes := takes hs turn
    exact ih (htakes.sound hs) hnested.2 (htakes.stacked hs hnested.1 hstack)

/-- The writes that have not failed are the accepted ones once no write is under way. -/
theorem standing_eq_accepted (h : s.Settled) (roleId commandId : String) :
    standing s.writes roleId commandId = s.accepted roleId commandId := by
  rw [standing, accepted]
  congr 1
  apply List.filter_congr
  intro e he
  rcases hstate : e.2 with _ | _ | _
  · exact absurd hstate (h e he)
  all_goals simp

/-- A screen whose flags are about to be flipped. -/
def ofScreen (p : PermissionScreen) : Toggling := { screen := p }

theorem sound_ofScreen {p : PermissionScreen} (h : p.matrix.WellKeyed) : (ofScreen p).Sound :=
  ⟨h, fun _ he => absurd he List.not_mem_nil⟩

theorem stacked_ofScreen (p : PermissionScreen) : (ofScreen p).Stacked p.matrix :=
  fun _ _ first h => ⟨first, h, rfl⟩

/-- Once no write is under way, and if writes failed only in the reverse order of their flips, each cell is
the row that was accepted last, or the loaded row. -/
theorem cell?_of_nested {p : PermissionScreen} {turns : List ToggleTurn} (hkeyed : p.matrix.WellKeyed)
    (hnested : (ofScreen p).Nested turns) (hsettled : ((ofScreen p).after turns).Settled)
    (roleId commandId : String) :
    ((ofScreen p).after turns).cell? roleId commandId = (p.matrix.cell? roleId commandId).map fun loaded =>
      ((((ofScreen p).after turns).accepted roleId commandId).getLast?.map FlagWrite.row).getD loaded := by
  have hsound := sound_ofScreen hkeyed
  cases hloaded : p.matrix.cell? roleId commandId with
  | none =>
    have hcell : (ofScreen p).cell? roleId commandId = none := hloaded
    rw [cell?_after hsound, hcell, Option.map_none, Option.map_none]
  | some loaded =>
    obtain ⟨row, hrow, hchain⟩ :=
      stacked_after hsound hnested (stacked_ofScreen p) roleId commandId loaded hloaded
    rw [hrow, hchain.eq_getLast, standing_eq_accepted hsettled, Option.map_some]

/-! ### Flags that are flipped in a rehearsal -/

theorem after_append (s : Toggling) (turns : List ToggleTurn) (turn : ToggleTurn) :
    s.after (turns ++ [turn]) = (s.after turns).take turn := List.foldl_append

/-- What flips and writes do does not depend on the menu. -/
theorem take_withTree (p : PermissionScreen) (tree : List MenuNode) (writes : List (FlagWrite × Option Bool))
    (turn : ToggleTurn) :
    take ⟨{ p with tree }, writes⟩ turn =
      ⟨{ (take ⟨p, writes⟩ turn).screen with tree }, (take ⟨p, writes⟩ turn).writes⟩ := by
  cases turn with
  | flip roleId commandId flag =>
    simp only [take, PermissionScreen.flip]
    cases (p.graph.get? PermissionScreen.saveOperation).bind (·.steps.head?) with
    | none => rfl
    | some template => cases p.matrix.cell? roleId commandId <;> rfl
  | settle n o =>
    simp only [take]
    rcases writes[n]? with _ | ⟨w, _ | accepted⟩
    · rfl
    · simp only [PermissionScreen.acceptWrite, PermissionScreen.restore]
      split <;> rfl
    · rfl

end Toggling

namespace Rehearsal

open Toggling (ofScreen)

/-- The courses of a rehearsal in which flags are flipped and their writes come to an end, told as turns.
Whatever happens in between leaves the graph of the screen, its selection and its matrix alone; a menu
may be loaded. -/
inductive Toggles (s₀ : Rehearsal) (p : PermissionScreen) : Rehearsal → List ToggleTurn → Prop
  | start : Toggles s₀ p s₀ []
  | elsewhere {s s' : Rehearsal} {turns : List ToggleTurn} {q : PermissionScreen} {places : Nat × Nat}
      (h : Toggles s₀ p s turns) (hq : s.permission = some (q, places)) (tree : List MenuNode)
      (hq' : s'.permission = some ({ q with tree }, places)) : Toggles s₀ p s' turns
  | ask {s : Rehearsal} {turns : List ToggleTurn} (h : Toggles s₀ p s turns) (roleId commandId : String)
      (flag : OperationFlag) :
      Toggles s₀ p (s.command (.toggle roleId commandId flag)).1 (turns ++ [.flip roleId commandId flag])
  | answer {s : Rehearsal} {turns : List ToggleTurn} {m : Machine} {w : FlagWrite} {n : Nat}
      (h : Toggles s₀ p s turns) (hm : m.purpose = .write w)
      (hw : ((ofScreen p).after turns).writes[n]? = some (w, none)) :
      Toggles s₀ p (s.finish m).1
        (turns ++ [.settle n ((m.graph.outcome (s.counterAt m.handle)).onlyStep w.step)])

variable {s₀ s : Rehearsal} {p : PermissionScreen} {places : Nat × Nat} {turns : List ToggleTurn}

theorem permission_command_toggle (hp : s.permission = some (p, places))
    (writes : List (FlagWrite × Option Bool)) (roleId commandId : String) (flag : OperationFlag) :
    (s.command (.toggle roleId commandId flag)).1.permission =
      some ((Toggling.take ⟨p, writes⟩ (.flip roleId commandId flag)).screen, places) := by
  obtain ⟨menu, operations⟩ := places
  simp only [command, withPermission, hp, Toggling.take]
  cases p.flip roleId commandId flag with
  | error e => exact hp
  | ok flipped => rfl

theorem permission_finish_write {m : Machine} {w : FlagWrite} {writes : List (FlagWrite × Option Bool)}
    {n : Nat} (hp : s.permission = some (p, places)) (hm : m.purpose = .write w)
    (hw : writes[n]? = some (w, none)) :
    (s.finish m).1.permission =
      some ((Toggling.take ⟨p, writes⟩
        (.settle n ((m.graph.outcome (s.counterAt m.handle)).onlyStep w.step))).screen, places) := by
  simp only [finish, hm, hp, Toggling.take, hw]

/-- A flag that can be flipped is written by a run of the step that sends its row. -/
theorem machines_command_toggle {roleId commandId : String} {flag : OperationFlag} {w : FlagWrite}
    {q : PermissionScreen} (hp : s.permission = some (p, places))
    (hflip : p.flip roleId commandId flag = .ok (w, q)) :
    ∃ place counter run, (s.command (.toggle roleId commandId flag)).1.machines =
      s.machines ++ [(s.tickets, ⟨place, .write w, .start s.rules counter (.ofStep w.step) run⟩)] := by
  obtain ⟨menu, operations⟩ := places
  simp only [command, withPermission, hp, hflip]
  exact ⟨_, _, _, rfl⟩

/-- The screen after a course is that of its turns, but for the menu. -/
theorem Toggles.permission (hp : s₀.permission = some (p, places)) (h : s₀.Toggles p s turns) :
    ∃ tree, s.permission = some ({ ((ofScreen p).after turns).screen with tree }, places) := by
  induction h with
  | start => exact ⟨p.tree, hp⟩
  | elsewhere h hq tree hq' ih =>
    obtain ⟨_, hs⟩ := ih
    obtain ⟨rfl, rfl⟩ := Prod.mk.inj (Option.some.inj (hs.symm.trans hq))
    exact ⟨tree, hq'⟩
  | @ask s turns h roleId commandId flag ih =>
    obtain ⟨tree, hs⟩ := ih
    refine ⟨tree, ?_⟩
    rw [permission_command_toggle hs ((ofScreen p).after turns).writes, Toggling.take_withTree,
      Toggling.after_append]
  | @answer s turns m w n h hm hw ih =>
    obtain ⟨tree, hs⟩ := ih
    refine ⟨tree, ?_⟩
    rw [permission_finish_write hs hm hw, Toggling.take_withTree, Toggling.after_append]

/-- After any course a matrix that was loaded shows its flags as the last effects on them have set them, and
every write sends both flags of its row. Once no write is under way, each cell is the row that the backend has
accepted last, or the loaded one, if writes of a cell failed only in the reverse order of their flips. -/
theorem toggles_settle {rows : List OperationRow} (hp : s₀.permission = some (p, places))
    (hloaded : p.matrix = .ofRows rows) (h : s₀.Toggles p s turns) :
    ∃ q, s.permission = some (q, places) ∧
      (∀ roleId commandId, q.matrix.cell? roleId commandId =
        (p.matrix.cell? roleId commandId).map fun loaded =>
          ((ofScreen p).effects turns).foldl (fun r e => e.onCell roleId commandId r) loaded) ∧
      (∀ e ∈ ((ofScreen p).after turns).writes, ∀ c around r, (e.1.step.bind c around).1 = .ok r →
        e.1.IsSentAs r) ∧
      ((ofScreen p).Nested turns → ((ofScreen p).after turns).Settled →
        ∀ roleId commandId, q.matrix.cell? roleId commandId =
          (p.matrix.cell? roleId commandId).map fun loaded =>
            ((((ofScreen p).after turns).accepted roleId commandId).getLast?.map FlagWrite.row).getD
              loaded) := by
  have hkeyed : p.matrix.WellKeyed := hloaded ▸ OperationMatrix.wellKeyed_ofRows rows
  have hsound := Toggling.sound_ofScreen hkeyed
  obtain ⟨tree, hs⟩ := h.permission hp
  exact ⟨_, hs, Toggling.cell?_after hsound turns,
    fun e he _ _ _ hr => ((Toggling.sound_after hsound turns).made e he).isSentAs hr,
    fun hnested hsettled => Toggling.cell?_of_nested hkeyed hnested hsettled⟩

/-- A role that may do nothing yet. -/
def idleRow : OperationRow := { roleId := "r", roleName := "Role", commandId := "c" }

/-- A screen with one cell. -/
def oneCell : PermissionScreen where
  graph := ⟨[(PermissionScreen.saveOperation, ⟨[{ workflow := "SAVE" }]⟩)]⟩
  matrix := .ofRows [idleRow]

def oneCellShown : Rehearsal where
  surroundings := ⟨.epoch, ⟨"id", 0⟩⟩
  permission := some (oneCell, 0, 0)

/-- The flag of the cell is flipped twice before the writes are answered. -/
def flippedTwice : Rehearsal :=
  ((oneCellShown.command (.toggle "r" "c" .invoke)).1.command (.toggle "r" "c" .invoke)).1

/-- What became of a write. -/
def savedWith (status : StepStatus) : StepOutcome :=
  { group := "single", index := 0, workflow := "SAVE", status }

/-- The write of the flag of the cell, with what became of it. -/
def answeredWrite (previous : Bool) (status : StepStatus) : Machine where
  handle := 0
  purpose := .write (Toggling.written { workflow := "SAVE" } { idleRow with invoke := previous } .invoke)
  graph := {
    groups := [("single", ⟨[{ workflow := "SAVE" }]⟩)]
    plan := ⟨[[0]], [[]], false⟩
    run := { epoch := 0, context := {} }
    stage := .finished
    results := [(0, { name := "single", status := .completed, steps := [savedWith status] })] }

/-- The turns of two flips and of their writes. -/
def twoFlips (writes : List (Nat × StepStatus)) : List ToggleTurn :=
  [.flip "r" "c" .invoke, .flip "r" "c" .invoke] ++ writes.map fun e => .settle e.1 (savedWith e.2)

/-- The second write fails, and then the first is accepted. -/
def secondFails : Rehearsal :=
  ((flippedTwice.finish (answeredWrite true .failed)).1.finish (answeredWrite false .completed)).1

theorem toggles_secondFails :
    oneCellShown.Toggles oneCell secondFails (twoFlips [(1, .failed), (0, .completed)]) :=
  .answer (n := 0) (.answer (n := 1) (.ask (.ask .start "r" "c" .invoke) "r" "c" .invoke) rfl rfl) rfl rfl

theorem second_failure_settles :
    (ofScreen oneCell).Nested (twoFlips [(1, .failed), (0, .completed)]) ∧
      ((ofScreen oneCell).after (twoFlips [(1, .failed), (0, .completed)])).Settled ∧
      ∃ q, secondFails.permission = some (q, 0, 0) ∧
        q.matrix.cell? "r" "c" = some { idleRow with invoke := true } := by
  have hnested : (ofScreen oneCell).Nested (twoFlips [(1, .failed), (0, .completed)]) := by
    refine ⟨trivial, trivial, ?_, ⟨fun h => absurd h (by decide), trivial⟩⟩
    intro _ _ _ later hlater
    have hnone : ((((ofScreen oneCell).take (.flip "r" "c" .invoke)).take (.flip "r" "c" .invoke)).writes.drop
        2).isEmpty = true := by decide +kernel
    rw [List.isEmpty_iff.1 hnone] at hlater
    cases hlater
  have hsettled : ((ofScreen oneCell).after (twoFlips [(1, .failed), (0, .completed)])).Settled := by
    unfold Toggling.Settled
    decide +kernel
  obtain ⟨q, hq, -, -, hcells⟩ :=
    toggles_settle rfl (rfl : oneCell.matrix = .ofRows [idleRow]) toggles_secondFails
  refine ⟨hnested, hsettled, q, hq, ?_⟩
  rw [hcells hnested hsettled]
  decide +kernel

/-- Both writes fail in the order of their flips. -/
def bothFail : Rehearsal :=
  ((flippedTwice.finish (answeredWrite false .failed)).1.finish (answeredWrite true .failed)).1

theorem toggles_bothFail :
    oneCellShown.Toggles oneCell bothFail (twoFlips [(0, .failed), (1, .failed)]) :=
  .answer (n := 1) (.answer (n := 0) (.ask (.ask .start "r" "c" .invoke) "r" "c" .invoke) rfl rfl) rfl rfl

/-- Nothing is under way any more, the backend has accepted nothing, and yet the flag that was not set before
is shown as set. -/
theorem failed_writes_leave_flag :
    oneCellShown.Toggles oneCell bothFail (twoFlips [(0, .failed), (1, .failed)]) ∧
      ((ofScreen oneCell).after (twoFlips [(0, .failed), (1, .failed)])).Settled ∧
      ((ofScreen oneCell).after (twoFlips [(0, .failed), (1, .failed)])).accepted "r" "c" = [] ∧
      oneCell.matrix.cell? "r" "c" = some idleRow ∧
      bothFail.permission.bind (fun p => p.1.matrix.cell? "r" "c") =
        some { idleRow with invoke := true } := by
  refine ⟨toggles_bothFail, ?_, List.isEmpty_iff.1 ?_, ?_, ?_⟩
  · unfold Toggling.Settled
    decide +kernel
  all_goals decide +kernel

end Rehearsal

end BackOffice
