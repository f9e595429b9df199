import BackOffice.Proofs.Rehearsal.Views
import BackOffice.Proofs.Run.Epochs

/-!
How machines and handles go on in a rehearsal. A command is done at once or sets one machine to work, on a run
that is then the newest of its handle. A machine that ends changes no count of runs.
-/

namespace BackOffice

/-- Requests that supersede one another. -/
inductive Lane where
  | page
  | menu
  | node
  /-- The writes of flags, each on a handle of its own. -/
  | write
deriving DecidableEq

def Command.lane? : Command → Option Lane
  | .refresh | .setPage _ | .setPageSize _ | .requestPage _ => some .page
  | .loadMenu => some .menu
  | .selectNode _ => some .node
  | .toggle .. => some .write
  | _ => none

def Purpose.lane? : Purpose → Option Lane
  | .page _ => some .page
  | .menu => some .menu
  | .node _ => some .node
  | .write _ => some .write
  | _ => none

/-- Whether a command was just asked for or answered, and no machine has begun or ended. -/
def Incident.isTalk : Incident → Bool
  | .asked .. | .answered .. => true
  | .began .. | .ended .. => false

namespace Rehearsal

/-- The place of the handle of a lane. -/
def laneAt (s : Rehearsal) : Lane → Option Nat
  | .page => s.table.map Prod.snd
  | .menu => s.permission.map fun p => p.2.1
  | .node => s.permission.map fun p => p.2.2
  | .write => none

variable {s s' s₀ : Rehearsal} {c : Command} {ℓ : Lane} {place q ticket : Nat} {used : Option Nat}
  {told new : List Incident} {m : Machine} {purpose : Purpose}

/-- Whether some name or some run that has begun stands for the handle at a place. -/
def Knows (s : Rehearsal) (place : Nat) : Prop :=
  (∃ name, s.handles.place? name = some place) ∨ ∃ name run, s.runs.find? name = some (place, run)

/-! ### What becomes of machines and handles -/

/-- Whether machines and lanes are as they were, and the handles too, but for one that was used. -/
structure Spares (s s' : Rehearsal) (used : Option Nat) : Prop where
  rules : s'.rules = s.rules
  machines : s'.machines = s.machines
  tickets : s'.tickets = s.tickets
  lanes (ℓ : Lane) : s'.laneAt ℓ = s.laneAt ℓ
  handles : s.handles.cells.length ≤ s'.handles.cells.length
  handle {q : Nat} (hq : q < s.handles.cells.length) (hused : used ≠ some q) : s'.handleAt q = s.handleAt q
  /-- Only a handle that is new has got known. -/
  known {q : Nat} (h : s'.Knows q) :
    s.Knows q ∨ s.handles.cells.length ≤ q ∧ q < s'.handles.cells.length

namespace Spares

theorem refl (s : Rehearsal) (used : Option Nat) : s.Spares s used :=
  ⟨rfl, rfl, rfl, fun _ => rfl, Nat.le_refl _, fun _ _ => rfl, .inl⟩

theorem setHandle (h : s.Spares s₀ none) (place : Nat) (handle : Handle) :
    s.Spares (s₀.setHandle place handle) (some place) where
  rules := h.rules
  machines := h.machines
  tickets := h.tickets
  lanes ℓ := h.lanes ℓ
  handles := by
    rw [length_setHandle]
    exact h.handles
  handle {q} hq hused := by
    have hne : q ≠ place := fun heq => hused (congrArg some heq.symm)
    rw [handleAt_setHandle_of_ne hne]
    exact h.handle hq (by simp)
  known hknows := by
    rw [length_setHandle]
    exact h.known hknows

theorem withRuns {runs : Keyed (Nat × Run)} (h : s.Spares s₀ used)
    (hruns : ∀ {q : Nat}, { s₀ with runs }.Knows q → s₀.Knows q) : s.Spares { s₀ with runs } used where
  rules := h.rules
  machines := h.machines
  tickets := h.tickets
  lanes ℓ := by
    rw [← h.lanes ℓ]
    cases ℓ <;> rfl
  handles := h.handles
  handle hq hused := h.handle hq hused
  known hknows := h.known (hruns hknows)

end Spares

theorem spares_allocHandle (s : Rehearsal) : s.Spares s.allocHandle.2 none :=
  { Spares.refl s none with
    lanes := fun ℓ => by cases ℓ <;> rfl
    handles := by simp [allocHandle, Shared.alloc]
    handle := fun hq _ => handleAt_allocHandle s _
    known := .inl }

/-- A run under a name makes no other handle known. -/
theorem knows_of_put {name : String} {run : Run}
    (h : { s with runs := s.runs.put name (place, run) }.Knows q) : q = place ∨ s.Knows q := by
  obtain h | ⟨other, run', h⟩ := h
  · exact .inr (.inl h)
  · rw [Keyed.find?_put] at h
    split at h
    · cases h
      exact .inl rfl
    · exact .inr (.inr ⟨other, run', h⟩)

theorem knows_of_erase {name : String} (h : { s with runs := s.runs.erase name }.Knows q) : s.Knows q := by
  obtain h | ⟨other, run, h⟩ := h
  · exact .inl h
  · rw [Keyed.find?_erase] at h
    split at h
    · cases h
    · exact .inr ⟨other, run, h⟩

/-- A further name for a handle makes no other handle known. -/
theorem knows_of_bind {name : String} (h : { s with handles := s.handles.bind name place }.Knows q) :
    q = place ∨ s.Knows q := by
  obtain ⟨other, h⟩ | h := h
  · rw [Shared.place?, Shared.bind, Keyed.find?_put] at h
    split at h
    · exact .inl (Option.some.inj h).symm
    · exact .inr (.inl ⟨other, h⟩)
  · exact .inr (.inr h)

/-- How machines and handles go on. -/
inductive Shifts (s : Rehearsal) : Rehearsal → List Incident → Prop
  | still {s' : Rehearsal} {new : List Incident} {used : Option Nat} (h : s.Spares s' used)
      (hused : ∀ q, used = some q →
        ∃ c, Incident.asked c (some q) ∈ new ∧ s.usedBy c = some q ∧ c.lane? = none)
      (hnew : ∀ i ∈ new, i.isTalk = true) : Shifts s s' new
  | launched {s₁ : Rehearsal} {c : Command} {place : Nat} {run : Run} {graph : WorkflowGraph}
      {purpose : Purpose} (h : s.Spares s₁ (some place)) (hknown : ∀ q, s₁.Knows q → s.Knows q)
      (hlane : purpose.lane? = c.lane?)
      (hplace : if c.lane? = some .write then
        place = s.handles.cells.length ∧ place < s₁.handles.cells.length else s.usedBy c = some place)
      (hrun : c.lane? ≠ none → place < s₁.handles.cells.length →
        run.stale = false ∧ run.epoch = (s₁.counterAt place).current ∧
          (s₁.counterAt place).current = (s.counterAt place).current + 1) :
      Shifts s (s₁.launch place run graph purpose).1 [.asked c (s.usedBy c), .began c s.tickets purpose]
  | moved {ticket : Nat} {m : Machine} {g : GraphRun} (hm : (ticket, m) ∈ s.machines)
      (hg : m.graph.GoesOn s.rules (s.counterAt m.handle) g) :
      Shifts s (s.setMachine ticket { m with graph := g }) []
  | concluded {ticket : Nat} {m : Machine} (hm : (ticket, m) ∈ s.machines)
      (hover : m.graph.isFinished = true) :
      Shifts s ((s.without ticket).finish m).1 [.ended ticket m.purpose ((s.without ticket).finish m).2]

theorem shifts_atOnce {r : Progress} (hc : s.command c = (s', r)) (h : s.Spares s' used)
    (hused : ∀ q, used = some q → s.usedBy c = some q ∧ c.lane? = none) :
    Shifts s (s.command c).1 (s.tellsOf c) := by
  have hmachines : s.newMachines c = [] := by
    rw [newMachines, hc, h.machines, List.drop_length]
  rw [tellsOf, hmachines, hc, List.map_nil, List.append_nil]
  refine .still h (fun q hq => ?_) fun i hi => ?_
  · obtain ⟨hplace, hlane⟩ := hused q hq
    exact ⟨c, by simp [hplace], hplace, hlane⟩
  · obtain rfl | hi := List.mem_cons.1 hi
    · rfl
    · split at hi
      · rw [List.mem_singleton.1 hi]
        rfl
      · cases hi

theorem shifts_idle {r : Progress} (hc : s.command c = (s, r)) : Shifts s (s.command c).1 (s.tellsOf c) :=
  shifts_atOnce hc (.refl s none) nofun

theorem shifts_launch {s₁ : Rehearsal} {run : Run} {graph : WorkflowGraph}
    (hc : s.command c = s₁.launch place run graph purpose) (h : s.Spares s₁ (some place))
    (hknown : ∀ q, s₁.Knows q → s.Knows q) (hlane : purpose.lane? = c.lane?)
    (hplace : if c.lane? = some .write then
      place = s.handles.cells.length ∧ place < s₁.handles.cells.length else s.usedBy c = some place)
    (hrun : c.lane? ≠ none → place < s₁.handles.cells.length →
      run.stale = false ∧ run.epoch = (s₁.counterAt place).current ∧
        (s₁.counterAt place).current = (s.counterAt place).current + 1) :
    Shifts s (s.command c).1 (s.tellsOf c) := by
  have htells : s.tellsOf c = [.asked c (s.usedBy c), .began c s.tickets purpose] := by
    simp [tellsOf, newMachines, hc, launch, h.machines, h.tickets]
  rw [htells, hc]
  exact .launched h hknown hlane hplace hrun

/-- A run that is begun is the newest of its handle. -/
theorem shifts_launchNew {from? : Option Context} {change : Context → Context} {graph : WorkflowGraph}
    (hc : s.command c = s₀.launchNew place from? change graph purpose) (h : s.Spares s₀ none)
    (hknown : ∀ q, s₀.Knows q → s.Knows q) (hcounter : s₀.counterAt place = s.counterAt place)
    (hlane : purpose.lane? = c.lane?)
    (hplace : if c.lane? = some .write then
      place = s.handles.cells.length ∧ place < s₀.handles.cells.length else s.usedBy c = some place) :
    Shifts s (s.command c).1 (s.tellsOf c) := by
  refine shifts_launch hc (h.setHandle place _) hknown hlane ?_ fun _ hlt => ?_
  · rwa [length_setHandle]
  rw [length_setHandle] at hlt
  -- To begin a run is to advance the count of its handle.
  have hadvanced : ((s₀.setHandle place ((s₀.handleAt place).beginWith
      (from?.getD (s₀.handleAt place).committed)).1).counterAt place).current =
        (s₀.counterAt place).current + 1 := by
    rw [counterAt, handleAt_setHandle hlt]
    rfl
  exact ⟨rfl, hadvanced.symm, hadvanced.trans (by rw [hcounter])⟩

theorem shifts_withHandle {name : String} {f : Nat → Handle → Rehearsal × Progress}
    (hc : s.command c = s.withHandle name f)
    (h : ∀ place, s.handles.place? name = some place → s.command c = f place (s.handleAt place) →
      Shifts s (s.command c).1 (s.tellsOf c)) : Shifts s (s.command c).1 (s.tellsOf c) := by
  cases hplace : s.handles.place? name with
  | none => exact shifts_idle (hc.trans (by rw [withHandle, hplace]))
  | some place => exact h place hplace (hc.trans (by rw [withHandle, hplace]))

theorem shifts_withRun {name : String} {f : Nat → Run → Rehearsal × Progress}
    (hc : s.command c = s.withRun name f)
    (h : ∀ place run, s.runs.find? name = some (place, run) → s.command c = f place run →
      Shifts s (s.command c).1 (s.tellsOf c)) : Shifts s (s.command c).1 (s.tellsOf c) := by
  cases hrun : s.runs.find? name with
  | none => exact shifts_idle (hc.trans (by rw [withRun, hrun]))
  | some entry => exact h entry.1 entry.2 hrun (hc.trans (by rw [withRun, hrun]))

theorem shifts_withTable {f : TableScreen → Nat → Rehearsal × Progress} (hc : s.command c = s.withTable f)
    (h : ∀ t place, s.table = some (t, place) → s.command c = f t place →
      Shifts s (s.command c).1 (s.tellsOf c)) : Shifts s (s.command c).1 (s.tellsOf c) := by
  cases ht : s.table with
  | none => exact shifts_idle (hc.trans (by rw [withTable, ht]))
  | some entry => exact h entry.1 entry.2 ht (hc.trans (by rw [withTable, ht]))

theorem shifts_withPermission {f : PermissionScreen → Nat → Nat → Rehearsal × Progress}
    (hc : s.command c = s.withPermission f)
    (h : ∀ p menu operations, s.permission = some (p, menu, operations) →
      s.command c = f p menu operations → Shifts s (s.command c).1 (s.tellsOf c)) :
    Shifts s (s.command c).1 (s.tellsOf c) := by
  cases hp : s.permission with
  | none => exact shifts_idle (hc.trans (by rw [withPermission, hp]))
  | some entry => exact h entry.1 entry.2.1 entry.2.2 hp (hc.trans (by rw [withPermission, hp]))

theorem spares_table {t t' : TableScreen} (ht : s.table = some (t, place)) :
    s.Spares { s with table := some (t', place) } none :=
  { Spares.refl s none with
    lanes := fun ℓ => by cases ℓ <;> simp [laneAt, ht] }

theorem shifts_loadPage {t t' : TableScreen} {page : Page} (ht : s.table = some (t, place))
    (hlane : c.lane? = some .page) (hused : s.usedBy c = some place)
    (hc : s.command c = s.loadPage t' place page) : Shifts s (s.command c).1 (s.tellsOf c) := by
  rw [loadPage] at hc
  split at hc
  · exact shifts_atOnce hc (spares_table ht) fun q hq => absurd hq.symm (Option.some_ne_none q)
  · have hnotWrite : c.lane? ≠ some .write := by simp [hlane]
    exact shifts_launchNew hc (spares_table ht) (fun _ h => h) rfl hlane.symm (by rwa [if_neg hnotWrite])

/-- A command is done at once, or sets one machine to work. -/
theorem shifts_command (s : Rehearsal) (c : Command) : Shifts s (s.command c).1 (s.tellsOf c) := by
  cases c with
  | unknown => exact shifts_idle rfl
  | together commands => exact shifts_idle rfl
  | setContext name v => exact shifts_atOnce rfl { Spares.refl s none with } nofun
  | run handle context work =>
    refine shifts_withHandle (by rw [command]) fun place hplace hc => ?_
    cases work with
    | none => exact shifts_idle hc
    | some work =>
      exact shifts_launchNew hc (.refl s none) (fun _ h => h) rfl rfl
        (by simp [Command.lane?, usedBy, hplace])
  | begin handle name value =>
    refine shifts_withHandle (by rw [command]) fun place hplace hc => ?_
    refine shifts_atOnce hc (((Spares.refl s none).setHandle place _).withRuns fun h => ?_) fun q hq =>
      ⟨by simpa [usedBy, hplace] using hq, rfl⟩
    obtain rfl | h := knows_of_put h
    · exact .inl ⟨handle, hplace⟩
    · exact h
  | goOn name work =>
    refine shifts_withRun rfl fun place run hrun hc => ?_
    cases work with
    | none => exact shifts_idle hc
    | some work =>
      refine shifts_launch hc ((Spares.refl s _).withRuns knows_of_erase) (fun _ => knows_of_erase) rfl ?_
        (fun h => absurd rfl h)
      simp [Command.lane?, usedBy, hrun]
  | setValue name key v =>
    refine shifts_withRun rfl fun place run hrun hc => ?_
    refine shifts_atOnce hc ((Spares.refl s none).withRuns fun h => ?_) nofun
    obtain rfl | h := knows_of_put h
    · exact .inr ⟨name, run, hrun⟩
    · exact h
  | removeValue name key =>
    refine shifts_withRun rfl fun place run hrun hc => ?_
    refine shifts_atOnce hc ((Spares.refl s none).withRuns fun h => ?_) nofun
    obtain rfl | h := knows_of_put h
    · exact .inr ⟨name, run, hrun⟩
    · exact h
  | showRun name => exact shifts_withRun rfl fun place run hrun hc => shifts_idle hc
  | commit name =>
    refine shifts_withRun rfl fun place run hrun hc => ?_
    exact shifts_atOnce hc (((Spares.refl s none).setHandle place _).withRuns knows_of_erase) fun q hq =>
      ⟨by simpa [usedBy, hrun] using hq, rfl⟩
  | fork handle name =>
    refine shifts_withHandle (by rw [command]) fun place hplace hc => ?_
    refine shifts_atOnce hc { spares_allocHandle s with known := fun {q} h => ?_ } nofun
    obtain rfl | h := knows_of_bind h
    · exact .inr ⟨Nat.le_refl _, by simp [Shared.bind]⟩
    · exact .inl h
  | share handle name =>
    refine shifts_withHandle (by rw [command]) fun place hplace hc => ?_
    refine shifts_atOnce hc { Spares.refl s none with known := fun h => .inl ?_ } nofun
    obtain rfl | h := knows_of_bind h
    · exact .inl ⟨handle, hplace⟩
    · exact h
  | showHandle handle epoch keys =>
    refine shifts_withHandle (by rw [command]) fun place hplace hc => ?_
    exact shifts_idle hc
  | loadMenu =>
    refine shifts_withPermission rfl fun p menu operations hp hc => ?_
    cases hgroup : p.group? PermissionScreen.loadMenu with
    | error e => exact shifts_idle (hc.trans (by rw [hgroup]))
    | ok group =>
      rw [hgroup] at hc
      exact shifts_launchNew hc (.refl s none) (fun _ h => h) rfl rfl
        (by simp [Command.lane?, usedBy, hp])
  | selectNode node =>
    refine shifts_withPermission rfl fun p menu operations hp hc => ?_
    cases node with
    | none => exact shifts_idle hc
    | some node =>
      cases hgroup : p.group? PermissionScreen.loadOperation with
      | error e => exact shifts_idle (r := .done (.refused e)) (hc.trans (by simp only [hgroup]))
      | ok group =>
        simp only [hgroup] at hc
        exact shifts_launchNew hc (.refl s none) (fun _ h => h) rfl rfl
          (by simp [Command.lane?, usedBy, hp])
  | toggle roleId commandId flag =>
    refine shifts_withPermission rfl fun p menu operations hp hc => ?_
    cases hflip : p.flip roleId commandId flag with
    | error e => exact shifts_idle (hc.trans (by rw [hflip]))
    | ok flipped =>
      obtain ⟨w, p'⟩ := flipped
      rw [hflip] at hc
      have hspares : s.Spares { s.allocHandle.2 with permission := some (p', menu, operations) } none :=
        { spares_allocHandle s with lanes := fun ℓ => by cases ℓ <;> simp [laneAt, hp, allocHandle] }
      refine shifts_launchNew hc hspares (fun _ h => h)
        (congrArg Handle.counter (handleAt_allocHandle s _)) rfl ?_
      simp [Command.lane?]
  | showPermission => exact shifts_withPermission rfl fun p menu operations hp hc => shifts_idle hc
  | refresh => exact shifts_withTable rfl fun t place ht hc => shifts_loadPage ht rfl (by simp [usedBy, ht]) hc
  | setPage index =>
    exact shifts_withTable rfl fun t place ht hc => shifts_loadPage ht rfl (by simp [usedBy, ht]) hc
  | setPageSize size =>
    refine shifts_withTable rfl fun t place ht hc => ?_
    by_cases hsize : size = 0
    · exact shifts_idle (hc.trans (if_pos hsize))
    · exact shifts_loadPage ht rfl (by simp [usedBy, ht]) (hc.trans (if_neg hsize))
  | requestPage raw =>
    exact shifts_withTable rfl fun t place ht hc => shifts_loadPage ht rfl (by simp [usedBy, ht]) hc
  | setFilter column text =>
    exact shifts_withTable rfl fun t place ht hc => shifts_atOnce hc (spares_table ht) nofun
  | clearFilters =>
    exact shifts_withTable rfl fun t place ht hc => shifts_atOnce hc (spares_table ht) nofun
  | showTable => exact shifts_withTable rfl fun t place ht hc => shifts_idle hc

/-- A machine that a command sets to work is of the lane of the command. -/
theorem lane?_of_command (s : Rehearsal) (c : Command) :
    (∀ e ∈ (s.command c).1.machines, e ∈ s.machines ∨ e.2.purpose.lane? = c.lane?) ∧
      ∀ c' k purpose, .began c' k purpose ∈ s.tellsOf c → purpose.lane? = c.lane? := by
  have hs := shifts_command s c
  generalize hafter : (s.command c).1 = after at hs
  generalize htells : s.tellsOf c = tells at hs
  cases hs with
  | still hspares hused hnew =>
    refine ⟨fun e he => .inl (hspares.machines ▸ he), fun c' k purpose hbegan => ?_⟩
    have htalk := hnew _ hbegan
    cases htalk
  | launched hspares hknown hpurpose hplace hrun =>
    obtain ⟨rfl, -⟩ := Incident.asked.inj (List.cons.inj htells).1
    constructor
    · intro e he
      obtain he | rfl := List.mem_append.1 he |>.imp_right List.mem_singleton.1
      · exact .inl (hspares.machines ▸ he)
      · exact .inr hpurpose
    · intro c' k purpose' hbegan
      obtain ⟨-, -, rfl⟩ : c' = c ∧ k = s.tickets ∧ purpose' = _ := by simpa using hbegan
      exact hpurpose
  | moved hm hg => cases htells
  | concluded hm hover => cases (List.cons.inj htells).1

theorem shifts (h : Takes s s' new) : Shifts s s' new := by
  cases h with
  | command c => exact shifts_command s c
  | moved hm hg => exact .moved hm hg
  | concluded hm hover => exact .concluded hm hover
  | elsewhere b =>
    have hspares : s.Spares (s.take (.elsewhere b)) none :=
      { Spares.refl s none with lanes := fun ℓ => by cases ℓ <;> rfl }
    exact .still hspares nofun (fun _ hi => absurd hi List.not_mem_nil)
  | nothing => exact .still (.refl s none) nofun (fun _ hi => absurd hi List.not_mem_nil)

/-! ### Machines that come to their end -/

/-- Whether machines and lanes are as they were, and no run has begun. -/
structure Settles (s s' : Rehearsal) : Prop where
  rules : s'.rules = s.rules
  machines : s'.machines = s.machines
  tickets : s'.tickets = s.tickets
  lanes (ℓ : Lane) : s'.laneAt ℓ = s.laneAt ℓ
  handles : s'.handles.cells.length = s.handles.cells.length
  counter (q : Nat) : s'.counterAt q = s.counterAt q

theorem Settles.refl (s : Rehearsal) : s.Settles s := ⟨rfl, rfl, rfl, fun _ => rfl, rfl, fun _ => rfl⟩

theorem Settles.trans {s'' : Rehearsal} (h : s.Settles s') (h' : s'.Settles s'') : s.Settles s'' where
  rules := h'.rules.trans h.rules
  machines := h'.machines.trans h.machines
  tickets := h'.tickets.trans h.tickets
  lanes ℓ := (h'.lanes ℓ).trans (h.lanes ℓ)
  handles := h'.handles.trans h.handles
  counter q := (h'.counter q).trans (h.counter q)

theorem counterAt_commit (s : Rehearsal) (place : Nat) (r : Run) (q : Nat) :
    (s.setHandle place ((s.handleAt place).commit r).1).counterAt q = s.counterAt q :=
  apply_handleAt_setHandle Handle.counter (Interplay.counter_commit _ r) q

theorem settles_commit (s : Rehearsal) (place : Nat) (r : Run) :
    s.Settles (s.setHandle place ((s.handleAt place).commit r).1) :=
  { Settles.refl s with
    lanes := fun ℓ => by cases ℓ <;> rfl
    handles := length_setHandle ..
    counter := counterAt_commit s place r }

theorem settles_committing {f : Rehearsal → Rehearsal × Reply} (hf : ∀ s : Rehearsal, s.Settles (f s).1) :
    s.Settles (s.committing m f).1 := by
  have hcommit := settles_commit s m.handle m.graph.run
  rw [committing]
  rcases hc : (s.handleAt m.handle).commit m.graph.run with ⟨h, _ | c⟩
  · exact .refl s
  · rw [hc] at hcommit
    exact hcommit.trans (hf _)

theorem settles_takePermission (s : Rehearsal)
    (change : PermissionScreen → Except ScreenError PermissionScreen) (reply : PermissionScreen → Reply) :
    s.Settles (s.takePermission change reply).1 := by
  rw [takePermission]
  split
  · exact .refl s
  next p places hp =>
    split
    · exact .refl s
    · exact { Settles.refl s with lanes := fun ℓ => by cases ℓ <;> simp [laneAt, hp] }

theorem settles_finish (s : Rehearsal) (m : Machine) : s.Settles (s.finish m).1 := by
  rw [finish]
  split
  · exact { settles_commit s m.handle m.graph.run with }
  · exact { Settles.refl s with }
  · exact settles_committing fun s => settles_takePermission s _ _
  · exact settles_committing fun s => settles_takePermission s _ _
  next w hw =>
    split
    · exact .refl s
    next p places hp =>
      exact { Settles.refl s with lanes := fun ℓ => by cases ℓ <;> simp [laneAt, hp] }
  · refine settles_committing fun s => ?_
    split
    · exact .refl s
    next t place ht =>
      split
      · exact .refl s
      · exact { Settles.refl s with lanes := fun ℓ => by cases ℓ <;> simp [laneAt, ht] }

end Rehearsal

end BackOffice
