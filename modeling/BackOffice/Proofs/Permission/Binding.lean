import BackOffice.Proofs.Permission.Apart
import BackOffice.Proofs.Run.OutsideReads
import BackOffice.Proofs.Run.Unwritten

/-!
The selection that steps can read. A selection is bound in the context of its run, and the run is kept when it
comes to its end, whatever came of the load. So writes of flags read the entry of the last selection that was not
superseded. The screen shows the entry of the last selection that was accepted.
-/

namespace BackOffice

namespace PermissionScreen

/-- The keys under which a selection is bound. -/
def selectionKeys : List String := ["selectedMenuId", "selectedServiceId"]

/-- Whether the steps of the group that loads a matrix leave the selection alone. -/
def KeepsSelection (p : PermissionScreen) : Prop :=
  ∀ group, p.graph.get? loadOperation = some group →
    ∀ key ∈ selectionKeys, ∀ step ∈ group.steps, key ∉ step.writes

theorem graph_after (p : PermissionScreen) (told : List Incident) : (p.after told).graph = p.graph := by
  induction told generalizing p with
  | nil => rfl
  | cons i rest ih => exact ih (Incident.onScreen p i)

end PermissionScreen

namespace Context

variable {a b : Context} {n : MenuNode}

/-- Whether an entry is what a step reads as the selection. -/
def Selects (c : Context) (n : MenuNode) : Prop :=
  c.get? "selectedMenuId" = some (.str n.id) ∧ c.get? "selectedServiceId" = some (.str n.serviceId)

theorem selects_iff : a.Selects n ↔ a.values.find? "selectedMenuId" = some (.str n.id) ∧
    a.values.find? "selectedServiceId" = some (.str n.serviceId) := by
  rw [Selects, get?_of_dotless a (by decide), get?_of_dotless a (by decide)]

theorem Selects.congr (h : a.Selects n)
    (hab : ∀ key ∈ PermissionScreen.selectionKeys, b.values.find? key = a.values.find? key) : b.Selects n := by
  rw [selects_iff] at h ⊢
  rw [hab _ (by simp [PermissionScreen.selectionKeys]), hab _ (by simp [PermissionScreen.selectionKeys])]
  exact h

theorem selects_bindSelection (n : MenuNode) (c : Context) :
    (PermissionScreen.bindSelection n c).Selects n := by
  rw [selects_iff]
  constructor
  · have hne : "selectedMenuId" ≠ "selectedServiceId" := by decide
    exact (Keyed.find?_put_of_ne _ _ hne).trans (Keyed.find?_put_self _ _ _)
  · exact Keyed.find?_put_self _ _ _

end Context

namespace Incident

/-- The entry of a selection that came to its end and was not superseded. -/
def bound? : Incident → Option MenuNode
  | ended _ (.node _) (.refused .stale) => none
  | ended _ (.node n) _ => some n
  | _ => none

theorem bound?_ended {ticket : Nat} {n : MenuNode} {r : Reply} (hr : r ≠ .refused .stale) :
    (ended ticket (.node n) r).bound? = some n := by
  unfold bound?
  split
  next heq => exact absurd (Incident.ended.inj heq).2.2 hr
  next heq =>
    cases heq
    rfl
  next hno => exact absurd rfl (hno ticket n r)

theorem bound?_ended_of_others {ticket : Nat} {purpose : Purpose} {r : Reply}
    (hpurpose : purpose.lane? ≠ some .node) : (ended ticket purpose r).bound? = none := by
  cases purpose with
  | node n => exact absurd rfl hpurpose
  | _ => rfl

/-- A selection that is accepted is not superseded. -/
theorem selection?_of_bound? {i : Incident} (h : i.bound? = none) : i.selection? = none := by
  unfold selection?
  split
  next => cases h
  next => rfl

end Incident

theorem GraphRun.GoesOn.spares {rules : RunRules} {counter : EpochCounter} {g g' : GraphRun} {key : String}
    {c : Context} (h : g.GoesOn rules counter g') (hg : g.Spares key c) : g'.Spares key c := by
  cases h with
  | poll place t => exact hg.poll
  | deliver place index answer => exact hg.deliver
  | close => exact hg.close

/-- A run of one group has begun with the context that it was given. -/
theorem GraphRun.eq_of_mem_contexts_start {rules : RunRules} {counter : EpochCounter} {name : String}
    {group : StepGroup} {run : Run} {c : Context}
    (hc : c ∈ (start rules counter (.ofGroup name group) run).contexts) : c = run.context := by
  rw [start_ofGroup] at hc
  split at hc
  · exact List.mem_singleton.1 hc
  · split at hc
    · exact List.mem_singleton.1 hc
    · obtain hc | hc := List.mem_cons.1 hc
      · exact hc
      · exact List.mem_singleton.1 hc

namespace Rehearsal

variable {s s' : Rehearsal} {p : PermissionScreen} {places : Nat × Nat} {c : Command} {m : Machine}
  {q : Nat} {n : MenuNode} {kept : Context} {told new : List Incident}

/-! ### Which contexts are kept -/

/-- To begin a run is not to keep it. -/
theorem committed_beginWith (s : Rehearsal) (place : Nat) (c : Context) (q : Nat) :
    ((s.setHandle place ((s.handleAt place).beginWith c).1).handleAt q).committed = (s.handleAt q).committed :=
  apply_handleAt_setHandle Handle.committed (h := ((s.handleAt place).beginWith c).1) rfl q

/-- No command changes the context that a handle has kept, but for one that hands in a run of the handle. -/
theorem committed_command (hcommit : ∀ name, c = .commit name → s.usedBy c ≠ some q) :
    ((s.command c).1.handleAt q).committed = (s.handleAt q).committed := by
  have hview : Overlooks fun s : Rehearsal => (s.handleAt q).committed :=
    { launched := fun _ _ _ => rfl
      begun := fun s place c => committed_beginWith s place c q
      runs := fun _ _ => rfl
      contexts := fun _ _ => rfl
      forked := fun s => congrArg Handle.committed (handleAt_allocHandle s q)
      named := fun _ _ _ => rfl }
  apply hview.command _ (fun _ _ _ => rfl) fun _ _ _ => rfl
  intro name hc place run hrun
  have hne : q ≠ place := by
    rintro rfl
    exact hcommit name hc (by simp [hc, usedBy, hrun])
  exact congrArg Handle.committed (handleAt_setHandle_of_ne hne)

/-- A machine that ends touches no handle but its own. -/
theorem handleAt_finish_of_ne (hq : q ≠ m.handle) : (s.finish m).1.handleAt q = s.handleAt q :=
  apply_finish (·.handleAt q) (fun _ => handleAt_setHandle_of_ne hq) (fun _ _ => rfl) (fun _ _ _ => rfl)
    (fun _ _ _ => rfl) fun _ _ _ => rfl

/-- The run of a selection is kept before anything is made of what it has loaded. -/
theorem committed_finish (hm : m.purpose = .node n) (hlt : m.handle < s.handles.cells.length)
    (hcurrent : m.graph.run.isStale (s.counterAt m.handle) = false) :
    ((s.finish m).1.handleAt m.handle).committed = m.graph.run.context.clearJournal := by
  simp only [finish, hm, committing_of_current hcurrent]
  rw [apply_takePermission (·.handleAt m.handle) fun _ => rfl, handleAt_setHandle hlt]

/-! ### What is bound -/

/-- The run of a selection begins with the selection bound. -/
theorem start_of_mem_command {e : Nat × Machine} (he : e ∈ (s.command c).1.machines)
    (hn : e.2.purpose = .node n) :
    e ∈ s.machines ∨ ∃ p places group counter run, s.permission = some (p, places) ∧
      p.graph.get? PermissionScreen.loadOperation = some group ∧ run.context.Selects n ∧
      e.2.graph = .start s.rules counter (.ofGroup PermissionScreen.loadOperation group) run := by
  by_cases hlane : c.lane? = some .node
  · cases c with
    | selectNode node =>
      cases hp : s.permission with
      | none =>
        simp only [command, withPermission, hp] at he
        exact .inl he
      | some entry =>
        obtain ⟨p, menu, operations⟩ := entry
        cases node with
        | none =>
          simp only [command, withPermission, hp] at he
          exact .inl he
        | some node =>
          cases hgroup : p.graph.get? PermissionScreen.loadOperation with
          | none =>
            simp only [command, withPermission, hp, PermissionScreen.group?, hgroup] at he
            exact .inl he
          | some group =>
            simp only [command, withPermission, hp, PermissionScreen.group?, hgroup] at he
            obtain he | rfl := mem_launch.1 he
            · exact .inl he
            · obtain rfl := Purpose.node.inj hn
              exact .inr ⟨p, _, group, _, _, rfl, hgroup, Context.selects_bindSelection _ _, rfl⟩
    | _ => cases hlane
  · -- Other commands begin no run of a selection.
    refine .inl (((lane?_of_command s c).1 e he).resolve_right fun hsame => ?_)
    rw [hn] at hsame
    exact hlane hsame.symm

/-- Whether selections under way are bound in their runs, and the last one that was not superseded is bound in
the context that its handle has kept. -/
structure Bound (operations : Nat) (kept : Context) (told : List Incident) (s : Rehearsal) : Prop where
  running {e : Nat × Machine} (he : e ∈ s.machines) {n : MenuNode} (hn : e.2.purpose = .node n) :
    ∃ a : Context, a.Selects n ∧ ∀ key ∈ PermissionScreen.selectionKeys, e.2.graph.Spares key a
  last {n : MenuNode} (h : (told.filterMap Incident.bound?).getLast? = some n) :
    (s.handleAt operations).committed.Selects n
  none (h : told.filterMap Incident.bound? = []) : (s.handleAt operations).committed = kept

theorem Bound.quiet {operations : Nat} (h : Bound operations kept told s)
    (hnew : new.filterMap Incident.bound? = [])
    (hcommitted : (s'.handleAt operations).committed = (s.handleAt operations).committed)
    (hrunning : ∀ e ∈ s'.machines, ∀ n, e.2.purpose = .node n →
      ∃ a : Context, a.Selects n ∧ ∀ key ∈ PermissionScreen.selectionKeys, e.2.graph.Spares key a) :
    Bound operations kept (told ++ new) s' := by
  have htold : (told ++ new).filterMap Incident.bound? = told.filterMap Incident.bound? := by
    rw [List.filterMap_append, hnew, List.append_nil]
  refine ⟨fun he n hn => hrunning _ he n hn, fun hlast => ?_, fun hnone => ?_⟩
  · rw [hcommitted]
    exact h.last (htold ▸ hlast)
  · rw [hcommitted]
    exact h.none (htold ▸ hnone)

theorem bound?_tellsOf (s : Rehearsal) (c : Command) : (s.tellsOf c).filterMap Incident.bound? = [] := by
  rw [List.filterMap_eq_nil_iff]
  intro i hi
  obtain rfl | ⟨r, rfl⟩ | ⟨k, purpose, rfl⟩ := mem_tellsOf hi <;> rfl

theorem Bound.command {operations : Nat} (h : Bound operations kept told s)
    (hp : s.permission = some (p, places)) (hkeeps : p.KeepsSelection) (c : Command)
    (howns : Lane.node.Owns operations (told ++ s.tellsOf c)) :
    Bound operations kept (told ++ s.tellsOf c) (s.command c).1 := by
  refine h.quiet (bound?_tellsOf s c) (committed_command fun name hc hused => ?_) fun e he n hn => ?_
  · have hlane := howns c (by simp [tellsOf, hused])
    rw [hc] at hlane
    cases hlane
  · obtain he | ⟨p', places', group, counter, run, hp', hgroup, hselects, hgraph⟩ := start_of_mem_command he hn
    · exact h.running he hn
    · obtain ⟨rfl, -⟩ := Prod.mk.inj (Option.some.inj (hp.symm.trans hp'))
      refine ⟨run.context, hselects, fun key hkey => ?_⟩
      rw [hgraph]
      apply GraphRun.spares_start
      intro entry hentry
      rw [List.mem_singleton.1 hentry]
      exact hkeeps group hgroup key hkey

/-- A selection that is not superseded is bound at its end, whether it is accepted or not. -/
theorem Bound.concluded {operations ticket : Nat} (h : Bound operations kept told s)
    (hholds : Lane.node.Holds operations told s) (hm : (ticket, m) ∈ s.machines) :
    Bound operations kept (told ++ [.ended ticket m.purpose ((s.without ticket).finish m).2])
      ((s.without ticket).finish m).1 := by
  have hmachines := (settles_finish (s.without ticket) m).machines
  have hrunning : ∀ e ∈ ((s.without ticket).finish m).1.machines, ∀ n, e.2.purpose = .node n →
      ∃ a : Context, a.Selects n ∧ ∀ key ∈ PermissionScreen.selectionKeys, e.2.graph.Spares key a := by
    intro e he n hn
    rw [hmachines, mem_without] at he
    exact h.running he.1 hn
  have hiff : m.handle = operations ↔ m.purpose.lane? = some .node := hholds.inLane hm
  by_cases hlane : m.purpose.lane? = some .node
  -- The machine has selected, and its own handle is the one that selections are kept in.
  · obtain rfl := hiff.2 hlane
    obtain ⟨n, hn⟩ : ∃ n, m.purpose = .node n := by
      cases hpurpose : m.purpose with
      | node n => exact ⟨n, rfl⟩
      | _ => simp [hpurpose, Purpose.lane?] at hlane
    have hcounter : (s.without ticket).counterAt m.handle = s.counterAt m.handle := rfl
    cases hstale : m.graph.run.isStale (s.counterAt m.handle) with
    | true =>
      have hfinish := finish_of_isStale (s := s.without ticket) hlane (by decide) (hcounter ▸ hstale)
      rw [hfinish] at hrunning ⊢
      refine h.quiet ?_ rfl hrunning
      simp [hn, Incident.bound?]
    | false =>
      have hfresh := (hholds.isStale_iff hm rfl).2 hstale
      have hne := finish_ne_stale (s := s.without ticket) hlane (hcounter ▸ hstale) hfresh
      have hbound : Incident.bound? (.ended ticket m.purpose ((s.without ticket).finish m).2) = some n := by
        rw [hn]
        exact Incident.bound?_ended hne
      refine ⟨fun he n hn => hrunning _ he n hn, fun {n'} hlast => ?_, fun hnone => ?_⟩
      · have hsame : n' = n := by
          rw [List.filterMap_append, List.filterMap_cons_some hbound, List.filterMap_nil,
            List.getLast?_concat] at hlast
          exact (Option.some.inj hlast).symm
        obtain ⟨a, hselects, hspares⟩ := h.running hm hn
        rw [committed_finish (s := s.without ticket) hn hholds.valid (hcounter ▸ hstale), hsame]
        exact hselects.congr fun key hkey => (hspares key hkey).run.find?_eq
      · rw [List.filterMap_append, List.filterMap_cons_some hbound] at hnone
        simp at hnone
  -- Whatever else comes to its end does so on another handle.
  · have hne : operations ≠ m.handle := fun heq => hlane (hiff.1 heq.symm)
    refine h.quiet ?_ (congrArg Handle.committed (handleAt_finish_of_ne hne)) hrunning
    simp [Incident.bound?_ended_of_others hlane]

theorem Bound.takes {operations : Nat} (h : Bound operations kept told s)
    (hholds : Lane.node.Holds operations told s) (hp : s.permission = some (p, places))
    (hkeeps : p.KeepsSelection) (hs : Takes s s' new) (howns : Lane.node.Owns operations (told ++ new)) :
    Bound operations kept (told ++ new) s' := by
  cases hs with
  | command c => exact h.command hp hkeeps c howns
  | moved hm hg =>
    refine h.quiet rfl rfl fun e he n hn => ?_
    obtain rfl | he := mem_setMachine he
    · obtain ⟨a, hselects, hspares⟩ := h.running hm hn
      exact ⟨a, hselects, fun key hkey => hg.spares (hspares key hkey)⟩
    · exact h.running he hn
  | concluded hm hover => exact h.concluded hholds hm
  | elsewhere b => exact h.quiet rfl rfl fun e he n hn => h.running he hn
  | nothing => exact h.quiet rfl rfl fun e he n hn => h.running he hn

theorem bound_after {menu operations : Nat} (hmachines : s.machines = [])
    (hp : s.permission = some (p, menu, operations)) (hvalid : operations < s.handles.cells.length)
    (hkeeps : p.KeepsSelection) (cues : List Cue) (howns : Lane.node.Owns operations (s.told cues)) :
    Bound operations (s.handleAt operations).committed (s.told cues) (s.after cues) := by
  have hlane : s.laneAt .node = some operations := by simp [laneAt, hp]
  have hstart : Bound operations (s.handleAt operations).committed [] s :=
    ⟨fun he => by simp [hmachines] at he, fun {n} hn => absurd hn.symm (Option.some_ne_none n), fun _ => rfl⟩
  -- The three invariants go together: what is bound at an ending depends on who is superseded.
  have hcourse := after_of_takes (s := s) (P := fun told s' =>
    (Accounts told s' ∧ s'.permission = some (p.after told, menu, operations)) ∧
      (Lane.node.Owns operations told → Lane.node.Holds operations told s' ∧
        Bound operations (s.handleAt operations).committed told s'))
    ?_ ⟨⟨accounts_nil hmachines, hp⟩, fun _ => ⟨Lane.holds_start hmachines hlane hvalid, hstart⟩⟩ cues
  · exact (hcourse.2 howns).2
  rintro told s₁ s₂ new htakes ⟨⟨haccounts, hscreen⟩, hlanes⟩
  refine ⟨⟨haccounts.shifts (Rehearsal.shifts htakes), permission_takes hscreen htakes⟩, fun howns => ?_⟩
  obtain ⟨hholds, hbound⟩ := hlanes howns.of_append
  have hkeeps' : (p.after told).KeepsSelection := by
    rw [PermissionScreen.KeepsSelection, PermissionScreen.graph_after]
    exact hkeeps
  exact ⟨hholds.shifts haccounts (Rehearsal.shifts htakes) howns,
    hbound.takes hholds hscreen hkeeps' htakes howns⟩

/-- The write of a flag begins with what the handle of the selections has kept. -/
theorem values_of_toggle {menu operations : Nat} {roleId commandId : String} {flag : OperationFlag}
    (hp : s.permission = some (p, menu, operations)) {e : Nat × Machine}
    (he : e ∈ s.newMachines (.toggle roleId commandId flag)) {c : Context} (hc : c ∈ e.2.graph.contexts) :
    c.values = (s.handleAt operations).committed.values := by
  cases hflip : p.flip roleId commandId flag with
  | error refusal => simp [newMachines, command, withPermission, hp, hflip] at he
  | ok flipped =>
    obtain ⟨w, p'⟩ := flipped
    obtain ⟨place, counter, run, hrun, hmachines⟩ : ∃ place counter run,
        run.context.values = (s.allocHandle.2.handleAt operations).committed.values ∧
          (s.command (.toggle roleId commandId flag)).1.machines =
            s.machines ++ [(s.tickets, ⟨place, .write w, .start s.rules counter (.ofStep w.step) run⟩)] := by
      simp only [command, withPermission, hp, hflip]
      exact ⟨_, _, _, rfl, rfl⟩
    rw [newMachines, hmachines, List.drop_left, List.mem_singleton] at he
    subst he
    rw [GraphRun.eq_of_mem_contexts_start hc, hrun, handleAt_allocHandle]

/-- What a write of a flag reads as the selection is the entry of the last selection that was not superseded, if
the group that loads matrices leaves it alone and nothing else works on its handle. If that selection was accepted,
its entry is shown as selected, and if it was refused, the entry that was shown before is still shown. -/
theorem last_selection_is_bound {menu operations : Nat} (hmachines : s.machines = [])
    (hp : s.permission = some (p, menu, operations)) (hvalid : operations < s.handles.cells.length)
    (hkeeps : p.KeepsSelection) (cues : List Cue) (howns : Lane.node.Owns operations (s.told cues)) :
    ∃ q, (s.after cues).permission = some (q, menu, operations) ∧
      ((s.told cues).filterMap Incident.bound? = [] →
        ((s.after cues).handleAt operations).committed = (s.handleAt operations).committed ∧
          q.selected = p.selected) ∧
      ∀ before ticket n r rest, s.told cues = before ++ .ended ticket (.node n) r :: rest →
        r ≠ .refused .stale → rest.filterMap Incident.bound? = [] →
          ((s.after cues).handleAt operations).committed.Selects n ∧
          (∀ roleId commandId flag, ∀ e ∈ (s.after cues).newMachines (.toggle roleId commandId flag),
            ∀ c ∈ e.2.graph.contexts, c.Selects n) ∧
          (∀ loaded, r = .matrix loaded → q.selected = some n) ∧
          ∀ e, r = .refused e → q.selected = (p.after before).selected := by
  have hscreen := permission_after hp cues
  have hbound := bound_after hmachines hp hvalid hkeeps cues howns
  -- What was not bound was not accepted either.
  have hselections {told : List Incident} (h : told.filterMap Incident.bound? = []) :
      told.filterMap Incident.selection? = [] := by
    rw [List.filterMap_eq_nil_iff] at h ⊢
    exact fun i hi => Incident.selection?_of_bound? (h i hi)
  refine ⟨_, hscreen, fun hnone => ?_, fun before ticket n r rest htold hr hrest => ?_⟩
  · exact ⟨hbound.none hnone, (PermissionScreen.after_of_no_selection (hselections hnone)).1⟩
  have hlast : ((s.told cues).filterMap Incident.bound?).getLast? = some n := by
    rw [htold, List.filterMap_append, List.filterMap_cons_some (Incident.bound?_ended hr), hrest]
    exact List.getLast?_concat
  have hselects := hbound.last hlast
  refine ⟨hselects, fun roleId commandId flag e he c hc => ?_, fun loaded hloaded => ?_, fun e he => ?_⟩
  · have hvalues := values_of_toggle hscreen he hc
    exact hselects.congr fun key _ => by rw [hvalues]
  · rw [htold, hloaded]
    exact (PermissionScreen.after_of_selection rfl (hselections hrest)).1
  · have hnone : (Incident.ended ticket (.node n) r :: rest).filterMap Incident.selection? = [] := by
      rw [he, List.filterMap_cons_none rfl]
      exact hselections hrest
    rw [htold, PermissionScreen.after_append]
    exact (PermissionScreen.after_of_no_selection hnone).1

/-- A cell as a backend lists it. -/
def cellItem : Json := .obj [("role_id", .str "r"), ("role_name", .str "Role"), ("command_id", .str "c")]

/-- A selection that brings one cell, and then another. -/
def selectedInTurn (second : Json) : List Cue :=
  [.ask (.selectNode (some firstEntry))] ++ roundTrip 0 (itemsPayload [cellItem]) ++
    [.ask (.selectNode (some secondEntry))] ++ roundTrip 1 second

theorem told_selectedInTurn : loadingShown.told (selectedInTurn (itemsPayload [])) =
    [.asked (.selectNode (some firstEntry)) (some 1), .began (.selectNode (some firstEntry)) 0 (.node firstEntry),
      .ended 0 (.node firstEntry) (.matrix (.ofItems [cellItem])),
      .asked (.selectNode (some secondEntry)) (some 1),
      .began (.selectNode (some secondEntry)) 1 (.node secondEntry),
      .ended 1 (.node secondEntry) (.matrix {})] := by
  cbv

theorem keepsSelection_loadingScreen : loadingScreen.KeepsSelection := by
  intro group hgroup
  obtain rfl := Option.some.inj hgroup
  decide

/-- A second selection that is accepted is bound and shown. -/
theorem second_selection_is_bound :
    Lane.node.Owns 1 (loadingShown.told (selectedInTurn (itemsPayload []))) ∧
      ∃ q, (loadingShown.after (selectedInTurn (itemsPayload []))).permission = some (q, 0, 1) ∧
        ((loadingShown.after (selectedInTurn (itemsPayload []))).handleAt 1).committed.Selects secondEntry ∧
        q.selected = some secondEntry := by
  have howns : Lane.node.Owns 1 (loadingShown.told (selectedInTurn (itemsPayload []))) := by
    rw [told_selectedInTurn]
    decide
  have hvalid : 1 < loadingShown.handles.cells.length := by decide
  obtain ⟨q, hq, -, hlast⟩ := last_selection_is_bound (s := loadingShown) rfl rfl hvalid
    keepsSelection_loadingScreen (selectedInTurn (itemsPayload [])) howns
  obtain ⟨hselects, -, hselected, -⟩ :=
    hlast [_, _, _, _, _] 1 secondEntry (.matrix {}) [] told_selectedInTurn nofun rfl
  exact ⟨howns, q, hq, hselects, hselected {} rfl⟩

/-- A second selection is refused. The first is still shown with its cell, and yet a flag of the cell would be
written for the second. -/
theorem refused_selection_is_bound :
    loadingScreen.KeepsSelection ∧
      (loadingShown.after (selectedInTurn failurePayload)).permission.map
          (fun e => (e.1.selected, (e.1.matrix.cell? "r" "c").isSome)) = some (some firstEntry, true) ∧
      ((loadingShown.after (selectedInTurn failurePayload)).handleAt 1).committed.get? "selectedMenuId" =
        some (.str secondEntry.id) ∧
      ((loadingShown.after (selectedInTurn failurePayload)).handleAt 1).committed.get? "selectedServiceId" =
        some (.str secondEntry.serviceId) := by
  refine ⟨keepsSelection_loadingScreen, ?_, ?_, ?_⟩
  · cbv
  · cbv
  · cbv

end Rehearsal

end BackOffice
