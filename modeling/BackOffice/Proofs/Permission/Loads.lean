import BackOffice.Proofs.Run.Ledger
import BackOffice.Rehearsal.Floor
import Mathlib

/-!
Loads of which nothing came. A menu and a matrix are each loaded by a run of one group. When steps of that
group have failed and none has completed, the load is refused with the error of the first step that failed,
provided that a failure has halted the group. A group that no failure has halted counts as one that loaded no
rows, and what was shown before is gone.
-/

namespace BackOffice

/-! ### A run of one group -/

/-- What may happen to a graph on its way. -/
inductive GraphMove where
  | poll (counter : EpochCounter) (place : Nat) (t : Trace)
  | deliver (place index : Nat) (answer : Answer)
  | close (counter : EpochCounter)

namespace GraphRun

variable {rules : RunRules} {counter : EpochCounter} {name : String} {group : StepGroup} {run : Run}
  {g : GraphRun}

def move (rules : RunRules) (g : GraphRun) : GraphMove → GraphRun
  | .poll counter place t => (g.poll rules counter place t).1
  | .deliver place index answer => g.deliver place index answer
  | .close counter => g.close rules counter

/-- Whether a graph is at work on its only group, or has given it up, or has taken up what became of it. -/
inductive IsOnly (rules : RunRules) (name : String) (group : StepGroup) (g : GraphRun) : Prop where
  | atWork (only : GroupRun) (hgroups : g.groups = [(name, group)]) (hstage : g.stage = .alone 0 only [] [])
      (hresults : g.results = []) (hledger : only.Ledger rules name group.steps only.unsettled)
  | givenUp (status : GroupStatus) (hgroups : g.groups = [(name, group)]) (hstage : g.stage = .finished)
      (hresults : g.results = [(0, .notStarted name status)])
  | ended (only : GroupRun) (hgroups : g.groups = [(name, group)]) (hstage : g.stage = .finished)
      (hresults : g.results = [(0, only.outcome)]) (hledger : only.Ledger rules name group.steps [])
      (hstale : only.stale = true → g.run.stale = true)

theorem start_ofGroup (rules : RunRules) (counter : EpochCounter) (name : String) (group : StepGroup)
    (run : Run) :
    start rules counter (.ofGroup name group) run =
      if run.isStale counter then (ofGroup name group run).giveUp 0 .stale
      else if run.halted then (ofGroup name group run).giveUp 0 .skipped
      else { ofGroup name group run with
        stage := .alone 0 (.of name run.epoch group run.context) [] [] } := by
  have hstart : start rules counter (.ofGroup name group) run =
      goOn rules counter [] [[0]] (ofGroup name group run) := rfl
  have hblocked : (ofGroup name group run).isBlocked 0 = false := rfl
  have hrun : (ofGroup name group run).run = run := rfl
  rw [hstart, goOn, openWave, refusal?, hblocked, hrun, Bool.or_false]
  by_cases hstale : run.isStale counter = true
  · simp only [if_pos hstale, openWave, List.length_nil]
    rw [if_neg (by simp), goOn]
    rfl
  by_cases hhalted : run.halted = true
  · simp only [if_neg hstale, if_pos hhalted, openWave, List.length_nil]
    rw [if_neg (by simp), goOn]
    rfl
  · simp only [if_neg hstale, if_neg hhalted, openWave, List.length_singleton]
    rw [if_neg (by simp), goOn, hrun, if_neg hstale, if_neg hhalted]
    rfl

theorem isOnly_start (rules : RunRules) (counter : EpochCounter) (name : String) (group : StepGroup)
    (run : Run) : IsOnly rules name group (start rules counter (.ofGroup name group) run) := by
  rw [start_ofGroup]
  split
  · exact .givenUp .stale rfl rfl rfl
  · split
    · exact .givenUp .skipped rfl rfl rfl
    · exact .atWork _ rfl rfl rfl (GroupRun.ledger_of name run.epoch group run.context)

/-- The only group is replaced by what it has become. -/
theorem IsOnly.put {only only' : GroupRun} {place : Nat} (h : IsOnly rules name group g)
    (hrunning : g.running? place = some only)
    (hledger : only.Ledger rules name group.steps only.unsettled →
      only'.Ledger rules name group.steps only'.unsettled) :
    IsOnly rules name group (g.put place only') := by
  cases h with
  | atWork old hgroups hstage hresults hold =>
    simp only [running?, hstage] at hrunning
    split at hrunning
    next hplace =>
      obtain rfl := Option.some.inj hrunning
      exact .atWork only' hgroups (by simp only [GraphRun.put, hstage, hplace, if_true]) hresults
        (hledger hold)
    next => cases hrunning
  | givenUp status hgroups hstage hresults | ended old hgroups hstage hresults hledger hstale =>
    simp [running?, hstage] at hrunning

/-- The only group comes to its end, and the graph with it. -/
theorem IsOnly.close (h : IsOnly rules name group g) : IsOnly rules name group (g.close rules counter) := by
  cases h with
  | atWork only hgroups hstage hresults hledger =>
    simp only [GraphRun.close, hstage]
    split
    next hfinished =>
      rw [goOn]
      refine .ended only hgroups rfl ?_ (GroupRun.unsettled_of_isFinished hfinished ▸ hledger) fun hstale => ?_
      · simp only [record, hresults, List.nil_append]
      · simp [record, Run.absorb, GroupRun.outcome, GroupRun.status, hstale]
    next => exact .atWork only hgroups hstage hresults hledger
  | givenUp status hgroups hstage hresults =>
    simp only [GraphRun.close, hstage]
    exact .givenUp status hgroups hstage hresults
  | ended only hgroups hstage hresults hledger hstale =>
    simp only [GraphRun.close, hstage]
    exact .ended only hgroups hstage hresults hledger hstale

theorem IsOnly.move (h : IsOnly rules name group g) (m : GraphMove) :
    IsOnly rules name group (g.move rules m) := by
  cases m with
  | poll counter place t =>
    simp only [GraphRun.move, poll]
    split
    next => exact h
    next only hrunning => exact h.put hrunning GroupRun.Ledger.poll
  | deliver place index answer =>
    simp only [GraphRun.move, deliver]
    split
    next => exact h
    next only hrunning => exact h.put hrunning GroupRun.Ledger.deliver
  | close counter => exact h.close

/-- Moves, one after another. -/
def follow (rules : RunRules) (g : GraphRun) (moves : List GraphMove) : GraphRun :=
  moves.foldl (GraphRun.move rules) g

theorem IsOnly.follow (h : IsOnly rules name group g) (moves : List GraphMove) :
    IsOnly rules name group (g.follow rules moves) := by
  induction moves generalizing g with
  | nil => exact h
  | cons m rest ih => exact ih (h.move m)

/-- If a run of one group tells of any step, then its group has come to its end, and tells of all steps. -/
theorem IsOnly.outcome (h : IsOnly rules name group g) (counter : EpochCounter)
    (hsteps : ((g.outcome counter).only name).steps ≠ []) :
    ∃ only : GroupRun, (g.outcome counter).only name = only.outcome ∧
      only.Ledger rules name group.steps [] ∧ (only.stale = true → g.run.stale = true) := by
  cases h with
  | atWork only hgroups hstage hresults hledger =>
    simp [GraphOutcome.only, GraphRun.outcome, hgroups, hresults, GroupOutcome.notStarted] at hsteps
  | givenUp status hgroups hstage hresults =>
    simp [GraphOutcome.only, GraphRun.outcome, hgroups, hresults, GroupOutcome.notStarted] at hsteps
  | ended only hgroups hstage hresults hledger hstale =>
    exact ⟨only, by simp [GraphOutcome.only, GraphRun.outcome, hgroups, hresults], hledger, hstale⟩

end GraphRun

/-! ### The rows of a group that has failed -/

namespace GroupRun

variable {rules : RunRules} {name : String} {steps : List Step} {g : GroupRun}

/-- Whether some step has failed in a way that halts its group. -/
def HaltedBy (rules : RunRules) (steps : List Step) (outcomes : List StepOutcome) : Prop :=
  ∃ e ∈ steps.zip outcomes, e.2.halts rules e.1 = true

theorem Ledger.halted_iff_haltedBy (h : g.Ledger rules name steps []) (hstale : g.stale = false) :
    g.halted = true ↔ HaltedBy rules steps g.stepOutcomes := by
  rw [h.halted_iff hstale, HaltedBy]
  constructor
  · rintro ⟨i, s, o, hs, ho, hhalts⟩
    exact ⟨(s, o), List.mem_of_getElem? (List.getElem?_zip_eq_some.2 ⟨hs, ho⟩), hhalts⟩
  · rintro ⟨⟨s, o⟩, hmem, hhalts⟩
    obtain ⟨i, hi⟩ := List.mem_iff_getElem?.1 hmem
    obtain ⟨hs, ho⟩ := List.getElem?_zip_eq_some.1 hi
    exact ⟨i, s, o, hs, ho, hhalts⟩

/-- A group that a failure has halted loads nothing, and tells of its first failure. -/
theorem Ledger.rowsOf_of_halted (h : g.Ledger rules name steps []) (hstale : g.stale = false)
    (hhalted : HaltedBy rules steps g.stepOutcomes) :
    ∃ first e, g.stepOutcomes.find? (·.status == .failed) = some first ∧ first.error = some e ∧
      PermissionScreen.rowsOf g.outcome = .error (.ofFailure g.outcome.forceLogout e.userError) := by
  have hstatus : g.status = .failed := by
    rw [status, if_neg (by simp [hstale]), if_pos ((h.halted_iff_haltedBy hstale).2 hhalted)]
  obtain ⟨⟨s, o⟩, hmem, hhalts⟩ := hhalted
  have hfailed : (g.stepOutcomes.find? (·.status == .failed)).isSome = true :=
    List.find?_isSome.2 ⟨o, (List.of_mem_zip hmem).2, (Bool.and_eq_true_iff.1 hhalts).1⟩
  obtain ⟨first, hfirst⟩ := Option.isSome_iff_exists.1 hfailed
  have herror := h.isSome_error hstale (List.mem_of_find?_eq_some hfirst)
  rw [List.find?_some hfirst] at herror
  obtain ⟨e, he⟩ := Option.isSome_iff_exists.1 herror
  refine ⟨first, e, hfirst, he, ?_⟩
  have huser : g.outcome.userError? = some e.userError := by
    rw [GroupOutcome.userError?, if_neg (by simp [outcome, hstatus]),
      show g.outcome.steps = g.stepOutcomes from rfl,
      findSome?_userError? fun o ho => ⟨h.isSome_error hstale ho, h.status_ne_stale hstale ho⟩, hfirst,
      Option.bind_some, he, Option.map_some]
  have hends : g.outcome.status.satisfiesDependents = false := by
    rw [show g.outcome.status = .failed from hstatus]
    rfl
  rw [PermissionScreen.rowsOf, hends, if_neg Bool.false_ne_true, GroupOutcome.failure,
    if_neg (by simp [outcome, hstatus]), huser, Option.getD_some]

/-- A group that no failure has halted loads no rows when none of its steps has completed. -/
theorem Ledger.rowsOf_of_not_halted (h : g.Ledger rules name steps []) (hstale : g.stale = false)
    (hhalted : ¬ HaltedBy rules steps g.stepOutcomes) (hsteps : g.stepOutcomes ≠ [])
    (hnone : ∀ o ∈ g.stepOutcomes, o.isSuccess = false) : PermissionScreen.rowsOf g.outcome = .ok [] := by
  have hstatus : g.status = .incomplete := by
    obtain ⟨o, ho⟩ := List.exists_mem_of_ne_nil _ hsteps
    rw [status, if_neg (by simp [hstale]), if_neg (mt (h.halted_iff_haltedBy hstale).1 hhalted), if_neg]
    intro hall
    rw [List.all_eq_true] at hall
    rw [← Bool.false_eq_true, ← hnone o ho, hall o ho]
  have hdata : g.outcome.lastData? = none := by
    rw [GroupOutcome.lastData?, List.findSome?_eq_none_iff]
    intro o ho
    rw [StepOutcome.data?, hnone o (List.mem_reverse.1 ho), if_neg Bool.false_ne_true]
  rw [PermissionScreen.rowsOf, show g.outcome.status = .incomplete from hstatus, hdata]
  rfl

end GroupRun

/-! ### Loads in a rehearsal -/

theorem PermissionScreen.group?_of_get? {p : PermissionScreen} {name : String} {group : StepGroup}
    (h : p.graph.get? name = some group) : p.group? name = .ok group := by
  rw [group?, h]

/-- What is loaded: the menu, or the matrix of an entry. -/
inductive Load where
  | menu
  | node (n : MenuNode)

namespace Load

def command : Load → Command
  | menu => .loadMenu
  | node n => .selectNode (some n)

/-- The group that loads it. -/
def group : Load → String
  | menu => PermissionScreen.loadMenu
  | node _ => PermissionScreen.loadOperation

def purpose : Load → Purpose
  | menu => .menu
  | node n => .node n

/-- The screen that shows it with some rows. -/
def fill (l : Load) (p : PermissionScreen) (rows : List Json) : PermissionScreen :=
  match l with
  | menu => { p with tree := MenuNode.forest (MenuNode.ofItems rows) }
  | node n => { p with selected := some n, matrix := .ofItems rows }

/-- Takes up what became of its group. -/
def accept (l : Load) (p : PermissionScreen) (o : GroupOutcome) : Except ScreenError PermissionScreen :=
  (PermissionScreen.rowsOf o).map (l.fill p)

/-- The reply that shows it. -/
def reply : Load → PermissionScreen → Reply
  | menu, p => .menu p.tree
  | node _, p => .matrix p.matrix

/-- The screen that shows it as empty. -/
def empty : Load → PermissionScreen → PermissionScreen
  | menu, p => { p with tree := [] }
  | node n, p => { p with selected := some n, matrix := {} }

theorem fill_nil (l : Load) (p : PermissionScreen) : l.fill p [] = l.empty p := by
  cases l <;> rfl

end Load

namespace Rehearsal

variable {s : Rehearsal} {p : PermissionScreen} {places : Nat × Nat} {l : Load} {m : Machine}

/-- A load is a run of its group, and nothing changes on the screen when it begins. -/
theorem command_load {group : StepGroup} (hp : s.permission = some (p, places))
    (hgroup : p.graph.get? l.group = some group) :
    (s.command l.command).1.permission = s.permission ∧
      ∃ place counter run, (s.command l.command).1.machines = s.machines ++
        [(s.tickets, ⟨place, l.purpose, .start s.rules counter (.ofGroup l.group group) run⟩)] := by
  obtain ⟨menu, operations⟩ := places
  cases l with
  | menu =>
    have hgroup : p.group? PermissionScreen.loadMenu = .ok group := PermissionScreen.group?_of_get? hgroup
    simp only [Load.command, command, withPermission, hp, hgroup]
    exact ⟨hp, _, _, _, rfl⟩
  | node n =>
    have hgroup : p.group? PermissionScreen.loadOperation = .ok group :=
      PermissionScreen.group?_of_get? hgroup
    simp only [Load.command, command, withPermission, hp, hgroup]
    exact ⟨hp, _, _, _, rfl⟩

/-- At its end a load is committed, and then its rows are shown. -/
theorem finish_eq (hm : m.purpose = l.purpose) :
    s.finish m = s.committing m fun s' =>
      s'.takePermission (l.accept · ((m.graph.outcome (s.counterAt m.handle)).only l.group)) l.reply := by
  cases l <;> simp only [finish, hm, Load.purpose] <;> rfl

/-- The end of a load that a newer one has superseded. -/
theorem finish_load_of_stale (hm : m.purpose = l.purpose)
    (hstale : m.graph.run.isStale (s.counterAt m.handle) = true) :
    s.finish m = (s, .refused .stale) := by
  have hcommit : (s.handleAt m.handle).commit m.graph.run = (s.handleAt m.handle, none) := by
    rw [Handle.commit, if_pos (by exact hstale)]
  rw [finish_eq hm, committing, hcommit]

/-- The end of a load that is still the newest: the screen shows the rows, or says why there are none. -/
theorem finish_load (hm : m.purpose = l.purpose) (hp : s.permission = some (p, places))
    (hstale : m.graph.run.isStale (s.counterAt m.handle) = false) :
    ((s.finish m).1.permission, (s.finish m).2) =
      match PermissionScreen.rowsOf ((m.graph.outcome (s.counterAt m.handle)).only l.group) with
      | .error e => (s.permission, .refused e)
      | .ok rows => (some (l.fill p rows, places), l.reply (l.fill p rows)) := by
  obtain ⟨h, c, hcommit⟩ : ∃ h c, (s.handleAt m.handle).commit m.graph.run = (h, some c) := by
    have hfresh : ¬ m.graph.run.isStale (s.handleAt m.handle).counter = true := by
      simpa [counterAt] using hstale
    rw [Handle.commit, if_neg hfresh]
    exact ⟨_, _, rfl⟩
  have hkept : (s.setHandle m.handle h).permission = some (p, places) := hp
  rw [finish_eq hm]
  simp only [committing, hcommit, takePermission, hkept, Load.accept]
  cases PermissionScreen.rowsOf ((m.graph.outcome (s.counterAt m.handle)).only l.group) with
  | error e => simp [Except.map, hkept, hp]
  | ok rows => simp [Except.map]

/-- What comes of a load when some of its steps have failed and none has completed. It is refused when a newer
one has superseded it, and it is refused with the first error when a failure has halted its group: what is
shown stays. Otherwise it is taken for a load of no rows, and what is shown becomes empty. -/
theorem failed_load {s s' : Rehearsal} {p p' : PermissionScreen} {places places' : Nat × Nat}
    {group : StepGroup} {launched m : Machine} {moves : List GraphMove} {o : GroupOutcome}
    (hp : s.permission = some (p, places)) (hgroup : p.graph.get? l.group = some group)
    (hlaunched : (s.command l.command).1.machines = s.machines ++ [(s.tickets, launched)])
    (hm : m = { launched with graph := launched.graph.follow s.rules moves })
    (hp' : s'.permission = some (p', places'))
    (ho : o = (m.graph.outcome (s'.counterAt m.handle)).only l.group)
    (hfailed : ∃ step ∈ o.steps, step.status = .failed)
    (hnone : ∀ step ∈ o.steps, step.isSuccess = false) :
    (s.command l.command).1.permission = s.permission ∧
      (m.graph.run.isStale (s'.counterAt m.handle) = true → s'.finish m = (s', .refused .stale)) ∧
      (m.graph.run.isStale (s'.counterAt m.handle) = false →
        (GroupRun.HaltedBy s.rules group.steps o.steps →
          (s'.finish m).1.permission = s'.permission ∧
          ∃ first e, o.steps.find? (·.status == .failed) = some first ∧ first.error = some e ∧
            (s'.finish m).2 = .refused (.ofFailure (o.steps.any (·.isAuthFailure)) e.userError)) ∧
        (¬ GroupRun.HaltedBy s.rules group.steps o.steps →
          (s'.finish m).1.permission = some (l.empty p', places') ∧
          (s'.finish m).2 = l.reply (l.empty p'))) := by
  obtain ⟨hkept, place, counter, run, hmachines⟩ := command_load hp hgroup
  obtain rfl : launched = ⟨place, l.purpose, .start s.rules counter (.ofGroup l.group group) run⟩ := by
    rw [hmachines] at hlaunched
    simpa using hlaunched.symm
  have hpurpose : m.purpose = l.purpose := by rw [hm]
  have honly : m.graph.IsOnly s.rules l.group group := by
    rw [hm]
    exact (GraphRun.isOnly_start ..).follow moves
  refine ⟨hkept, finish_load_of_stale hpurpose, fun hstale => ?_⟩
  have hsteps : o.steps ≠ [] := by
    obtain ⟨step, hstep, -⟩ := hfailed
    exact List.ne_nil_of_mem hstep
  -- A step that has failed is told of only by a group that has come to its end.
  obtain ⟨only, hover, hledger, hsuperseded⟩ := honly.outcome (s'.counterAt m.handle) (ho ▸ hsteps)
  have hfresh : only.stale = false := by
    rw [← Bool.not_eq_true]
    intro h
    simp [Run.isStale, hsuperseded h] at hstale
  have hfinish := finish_load hpurpose hp' hstale
  rw [← ho] at hover hfinish
  subst hover
  constructor
  · intro hhalted
    obtain ⟨first, e, hfirst, he, hrows⟩ := hledger.rowsOf_of_halted hfresh hhalted
    simp only [hrows, Prod.mk.injEq, hledger.forceLogout_outcome hfresh] at hfinish
    exact ⟨hfinish.1, first, e, hfirst, he, hfinish.2⟩
  · intro hhalted
    have hrows := hledger.rowsOf_of_not_halted hfresh hhalted hsteps hnone
    simpa only [hrows, l.fill_nil, Prod.mk.injEq] using hfinish

/-- The group that loads a menu, with a step that may be critical. -/
def menuGroup (critical : Bool) : StepGroup := ⟨[{ workflow := "MENU", critical }]⟩

/-- A screen that shows a menu of one entry. -/
def menuScreen (critical : Bool) : PermissionScreen where
  graph := ⟨[(PermissionScreen.loadMenu, menuGroup critical)]⟩
  tree := [{ id := "m", parent := "0" }]

/-- A rehearsal in which the menu is shown, and is about to be loaded again. -/
def menuShown (critical : Bool) : Rehearsal where
  surroundings := ⟨.epoch, ⟨"id", 0⟩⟩
  handles := { cells := [{}] }
  permission := some (menuScreen critical, 0, 0)

/-- A load of the menu that has just begun. -/
def menuAsked (critical : Bool) : Machine :=
  ⟨0, .menu, .start {} ⟨1⟩ (.ofGroup PermissionScreen.loadMenu (menuGroup critical))
    { epoch := 1, context := {} }⟩

/-- The backend answers with status 500. -/
def menuFails : List GraphMove :=
  let t : Trace := { surroundings := ⟨.epoch, ⟨"id", 0⟩⟩ }
  [.poll ⟨1⟩ 0 t, .deliver 0 0 (.ok (.obj [("status", .ofNat 500)])), .poll ⟨1⟩ 0 t, .close ⟨1⟩]

def menuFailed (critical : Bool) : Machine :=
  { menuAsked critical with graph := (menuAsked critical).graph.follow {} menuFails }

/-- The rehearsal while the menu is being loaded. -/
def menuLoading (critical : Bool) : Rehearsal := ((menuShown critical).command .loadMenu).1

/-- What became of the load. -/
def menuOutcome (critical : Bool) : GroupOutcome :=
  ((menuFailed critical).graph.outcome ((menuLoading critical).counterAt 0)).only PermissionScreen.loadMenu

theorem critical_load_is_refused :
    GroupRun.HaltedBy {} (menuGroup true).steps (menuOutcome true).steps ∧
      ((menuLoading true).finish (menuFailed true)).1.permission = some (menuScreen true, 0, 0) ∧
      ∃ first e, (menuOutcome true).steps.find? (·.status == .failed) = some first ∧
        first.error = some e ∧
        ((menuLoading true).finish (menuFailed true)).2 = .refused (.backend e.userError) := by
  have hlaunched : (menuLoading true).machines = [] ++ [(0, menuAsked true)] := rfl
  have hm : menuFailed true =
      { menuAsked true with graph := (menuAsked true).graph.follow {} menuFails } := rfl
  have hp' : (menuLoading true).permission = some (menuScreen true, 0, 0) := rfl
  have hfailed : ∃ step ∈ (menuOutcome true).steps, step.status = .failed := by
    simpa using List.any_eq_true.1 (show (menuOutcome true).steps.any (·.status == .failed) = true by cbv)
  have hnone : ∀ step ∈ (menuOutcome true).steps, step.isSuccess = false := by
    simpa using List.all_eq_true.1 (show (menuOutcome true).steps.all (!·.isSuccess) = true by cbv)
  have hfresh : (menuFailed true).graph.run.isStale ((menuLoading true).counterAt 0) = false := by cbv
  have hhalted : GroupRun.HaltedBy {} (menuGroup true).steps (menuOutcome true).steps :=
    List.any_eq_true.1 (by cbv)
  have hauth : (menuOutcome true).steps.any (·.isAuthFailure) = false := by cbv
  have hp : (menuShown true).permission = some (menuScreen true, 0, 0) := rfl
  obtain ⟨-, -, hends⟩ :=
    failed_load (l := .menu) hp rfl hlaunched hm hp' (rfl : menuOutcome true = _) hfailed hnone
  obtain ⟨hscreen, first, e, hfirst, he, hreply⟩ := (hends hfresh).1 hhalted
  exact ⟨hhalted, hscreen, first, e, hfirst, he, by rwa [hauth] at hreply⟩

/-- The only step of a load has failed, and yet the load is answered with an empty menu, and the menu that was
shown is gone. -/
theorem failed_load_empties_menu :
    (menuOutcome false).steps.map (·.status) = [.failed] ∧
      (menuScreen false).tree.map (·.id) = ["m"] ∧
      ((menuLoading false).finish (menuFailed false)).2 = .menu [] ∧
      ((menuLoading false).finish (menuFailed false)).1.permission.map (fun e => e.1.tree) = some [] := by
  refine ⟨?_, ?_, ?_, ?_⟩
  · cbv
  · cbv
  · cbv
  · cbv

end Rehearsal

end BackOffice
