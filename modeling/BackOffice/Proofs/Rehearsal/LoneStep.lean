import BackOffice.Proofs.Rehearsal.Course
import BackOffice.Proofs.Workflow.Replay

/-!
A step that runs on its own. Its group sends one request at the most, and comes to its end with the answer. When
nothing else is under way and no hook does anything, the rounds of a rehearsal carry the step to its end: the call
is made at once if it is awaited, and between two rounds if it is not.
-/

namespace BackOffice

namespace GroupRun

variable {rules : RunRules} {name : String} {epoch : Nat} {step : Step} {c : Context} {t : Trace}

/-- Whether a group waits for one answer, and comes to its end with it. -/
structure AwaitsOne (rules : RunRules) (g : GroupRun) : Prop where
  unfinished : g.isFinished = false
  ends (answer : Answer) (t : Trace) : ∃ g' t', (g.deliver 0 answer).poll rules true t = (g', t') ∧
    g'.isFinished = true ∧ t'.calls = t.calls

/-- What the first stretch of a group of one step can come to: the step fails unsent, or it is sent. -/
inductive Opens (rules : RunRules) (step : Step) (c : Context) (t : Trace) (p : GroupRun × Trace) : Prop
  | unsent {e : BindingError} (hbind : (step.bind c t.surroundings).1 = .error e)
      (hfinished : p.1.isFinished = true) (hcalls : p.2.calls = t.calls)
      (hfailed : ∀ o ∈ p.1.stepOutcomes, o.isSuccess = false)
  | sent {r : Request} (hbind : (step.bind c t.surroundings).1 = .ok r)
      (hcalls : p.2.calls = t.calls ++ [⟨0, r, step.awaited⟩]) (hawaits : p.1.AwaitsOne rules)

/-- A group that was sent one request, and waits for its answer at once or at its end, comes to its end with it. -/
theorem awaitsOne_of_stage {g : GroupRun} {s : Step} (hanswers : g.answers = [])
    (hstage : g.stage = .awaiting 0 s [] ∧ g.detached = [] ∨ g.stage = .joining [(0, s)]) :
    g.AwaitsOne rules := by
  have hanswer (answer : Answer) : (g.deliver 0 answer).answers.lookup 0 = some answer := by
    simp [deliver, hanswers]
  have hpoll (answer : Answer) (t : Trace) : (g.deliver 0 answer).poll rules true t =
      join rules true [] ((g.deliver 0 answer).settle rules 0 s answer t).1
        ((g.deliver 0 answer).settle rules 0 s answer t).2 := by
    obtain ⟨hstage, hdetached⟩ | hstage := hstage
    · have hnone : ((g.deliver 0 answer).settle rules 0 s answer t).1.detached = [] :=
        (detached_settle 0 s answer t).trans hdetached
      rw [poll, show (g.deliver 0 answer).stage = .awaiting 0 s [] from hstage]
      simp only [hanswer, if_true, start, hnone]
    · rw [poll, show (g.deliver 0 answer).stage = .joining [(0, s)] from hstage]
      simp only [join, hanswer, if_true]
  refine ⟨?_, fun answer t => ⟨_, _, hpoll answer t, rfl, calls_settle⟩⟩
  obtain ⟨hstage, -⟩ | hstage := hstage
  · rw [isFinished, hstage]
  · rw [isFinished, hstage]

theorem opens (rules : RunRules) (name : String) (epoch : Nat) (step : Step) (c : Context) (t : Trace) :
    Opens rules step c t ((GroupRun.of name epoch ⟨[step]⟩ c).poll rules true t) := by
  simp only [poll, of, List.zipIdx_cons, List.zipIdx_nil, List.map_cons, List.map_nil, start,
    Bool.false_eq_true, if_false]
  rcases hbind : step.bind c t.surroundings with ⟨e | r, around⟩
  · refine .unsent (congrArg Prod.fst hbind) rfl rfl fun o ho => ?_
    rw [List.mem_singleton.1 ho]
    rfl
  · cases hawaited : step.awaited with
    | true =>
      exact .sent (congrArg Prod.fst hbind) (by rw [hawaited]; rfl)
        (awaitsOne_of_stage rfl (.inl ⟨rfl, rfl⟩))
    | false =>
      exact .sent (congrArg Prod.fst hbind) (by rw [hawaited]; rfl) (awaitsOne_of_stage rfl (.inr rfl))

end GroupRun

/-- The machine whose graph is at work on its only group. -/
def Machine.atWork (m : Machine) (g : GroupRun) : Machine :=
  { m with graph := { m.graph with stage := .alone 0 g [] [] } }

theorem Machine.poll_atWork {m : Machine} {counter : EpochCounter} (rules : RunRules) (g : GroupRun) (t : Trace)
    (hnewest : counter.isCurrent m.graph.run.epoch = true) :
    (m.atWork g).graph.poll rules counter 0 t =
      ((m.atWork (g.poll rules true t).1).graph, (g.poll rules true t).2) := by
  simp [atWork, GraphRun.poll, GraphRun.running?, GraphRun.put, hnewest]

theorem Machine.active_atWork (m : Machine) (g : GroupRun) :
    (m.atWork g).graph.active = if g.isFinished then [] else [0] := rfl

namespace Rehearsal

variable {s s' : Rehearsal} {ticket n d : Nat} {m : Machine} {g g' : GroupRun}
  {answer : Answer} {calls calls' : List (Nat × PendingCall)} {t : Trace}

/-- The rehearsal with one machine and no other. -/
def withOnly (s : Rehearsal) (ticket : Nat) (m : Machine) : Rehearsal := { s with machines := [(ticket, m)] }

/-- The rehearsal with no machine. -/
def withNone (s : Rehearsal) : Rehearsal := { s with machines := [] }

/-- Whether the run of a machine is the newest of its handle. -/
def IsNewest (s : Rehearsal) (m : Machine) : Prop :=
  (s.counterAt m.handle).isCurrent m.graph.run.epoch = true

/-- The machine once its only group has come to its end. -/
def closed (s : Rehearsal) (m : Machine) (g : GroupRun) : Machine :=
  { m with graph := (m.atWork g).graph.close s.rules (s.counterAt m.handle) }

/-- What comes of a machine whose only group has come to its end, when there is no other. -/
def ending (s : Rehearsal) (m : Machine) (g : GroupRun) : Rehearsal × Reply := s.withNone.finish (s.closed m g)

/-- The outcome of the machine's only group is that of its graph. -/
theorem only_closed {name : String} {group : StepGroup} (hgroups : m.graph.groups = [(name, group)])
    (hresults : m.graph.results = []) (hg : g.isFinished = true) (counter : EpochCounter) (other : String) :
    ((s.closed m g).graph.outcome counter).only other = g.outcome := by
  simp [closed, Machine.atWork, GraphRun.close, hg, GraphRun.goOn, GraphRun.record, GraphRun.outcome,
    GraphOutcome.only, hgroups, hresults]

/-- A group none of whose steps has succeeded tells of no success. -/
theorem isSuccess_onlyStep_closed {name : String} {group : StepGroup} {step : Step}
    (hgroups : m.graph.groups = [(name, group)]) (hresults : m.graph.results = []) (hg : g.isFinished = true)
    (hfailed : ∀ o ∈ g.stepOutcomes, o.isSuccess = false) (counter : EpochCounter) :
    (((s.closed m g).graph.outcome counter).onlyStep step).isSuccess = false := by
  rw [GraphOutcome.onlyStep, only_closed hgroups hresults hg]
  cases hlast : g.outcome.steps.getLast? with
  | none =>
    rw [Option.getD_none]
    split <;> rfl
  | some o => exact hfailed o (List.mem_of_getLast? hlast)

/-! ### One machine and no other -/

@[simp]
theorem machine?_withOnly (s : Rehearsal) (ticket : Nat) (m : Machine) :
    (s.withOnly ticket m).machine? ticket = some m := by
  simp [machine?, withOnly]

@[simp]
theorem setMachine_withOnly (s : Rehearsal) (ticket : Nat) (m m' : Machine) :
    (s.withOnly ticket m).setMachine ticket m' = s.withOnly ticket m' := by
  simp [setMachine, withOnly]

theorem deliver_withOnly (s : Rehearsal) (ticket : Nat) (m : Machine) (g : GroupRun) (index : Nat)
    (answer : Answer) :
    (s.withOnly ticket (m.atWork g)).deliver ticket 0 index answer =
      s.withOnly ticket (m.atWork (g.deliver index answer)) := by
  rw [deliver, machine?_withOnly]
  exact setMachine_withOnly ..

theorem conclude_withOnly (s : Rehearsal) (ticket : Nat) (m m' : Machine) :
    (s.withOnly ticket m).conclude ticket m' =
      ((s.withNone.finish m').1, .done (s.withNone.finish m').2) := by
  simp [conclude, withOnly, withNone]

/-! ### One round of a group -/

/-- The group goes on, and a call that it awaits is made at once. -/
theorem pollGroup_withOnly (n ticket : Nat) (hnewest : s.IsNewest m)
    (hpoll : g.poll s.rules true { surroundings := s.surroundings } = (g', t)) :
    pollGroup (n + 1) (s.withOnly ticket (m.atWork g)) ticket 0 [] =
      match t.calls.find? (·.awaited) with
      | none => ((s.takeTrace ticket 0 t).withOnly ticket (m.atWork g'), [])
      | some c =>
        pollGroup n (((s.takeTrace ticket 0 t).call c).1.withOnly ticket (m.atWork g')) ticket 0
          [(0, ((s.takeTrace ticket 0 t).call c).2)] := by
  have hgraph : (m.atWork g).graph.poll (s.withOnly ticket (m.atWork g)).rules
      ((s.withOnly ticket (m.atWork g)).counterAt (m.atWork g).handle) 0
      { surroundings := (s.withOnly ticket (m.atWork g)).surroundings } = ((m.atWork g').graph, t) := by
    have hgraph := Machine.poll_atWork s.rules g { surroundings := s.surroundings } hnewest
    rwa [hpoll] at hgraph
  simp only [pollGroup, List.lookup_nil, machine?_withOnly, hgraph, setMachine_withOnly]
  cases t.calls.find? (·.awaited) <;> rfl

/-- The answer of a call that is out has come. -/
theorem pollGroup_answered (n ticket : Nat) (answer : Answer) (hnewest : s.IsNewest m)
    (hawaits : g.AwaitsOne s.rules) :
    ∃ t g', g'.isFinished = true ∧
      pollGroup (n + 3) (s.withOnly ticket (m.atWork g)) ticket 0 [(0, .mk 0 [] 0 answer)] =
        ((s.takeTrace ticket 0 t).withOnly ticket (m.atWork g'), []) := by
  obtain ⟨g', t, hpoll, hfinished, hcalls⟩ := hawaits.ends answer { surroundings := s.surroundings }
  refine ⟨t, g', hfinished, ?_⟩
  have hnext := pollGroup_withOnly (n + 1) ticket hnewest hpoll
  rw [hcalls] at hnext
  have hcall : pollCall (n + 2) (s.withOnly ticket (m.atWork g)) (.mk 0 [] 0 answer) =
      (s.withOnly ticket (m.atWork g), .mk 0 [] 0 answer, true) := by
    simp only [pollCall]
  rw [pollGroup]
  simp only [List.lookup_cons_self, hcall, deliver_withOnly]
  exact hnext

/-- The answer of a call that is out has still to come. -/
theorem pollGroup_out :
    pollGroup (n + 2) (s.withOnly ticket (m.atWork g)) ticket 0 [(0, .mk 0 [] (d + 1) answer)] =
      (s.withOnly ticket (m.atWork g), [(0, .mk 0 [] d answer)]) := by
  rw [pollGroup]
  simp [pollCall]

/-! ### One round of the machine -/

/-- A group that waits lets the machine wait. -/
theorem poll_of_waiting (hg : g.isFinished = false)
    (hgroup : pollGroup (n + 1) (s.withOnly ticket (m.atWork g)) ticket 0 calls =
      (s'.withOnly ticket (m.atWork g'), calls'))
    (hg' : g'.isFinished = false) :
    poll (n + 3) (s.withOnly ticket (m.atWork g)) (.running ticket calls) =
      (s'.withOnly ticket (m.atWork g'), .running ticket calls') := by
  have hover : (m.atWork g).graph.isFinished = false := rfl
  simp [poll, pollMachine, machine?_withOnly, hover, Machine.active_atWork, hg, hgroup, hg']

/-- A group that has come to its end is the end of the machine. -/
theorem poll_of_finished (hg : g.isFinished = false)
    (hgroup : pollGroup (n + 1) (s.withOnly ticket (m.atWork g)) ticket 0 calls =
      (s'.withOnly ticket (m.atWork g'), calls'))
    (hg' : g'.isFinished = true) :
    poll (n + 3) (s.withOnly ticket (m.atWork g)) (.running ticket calls) =
      ((s'.ending m g').1, .done (s'.ending m g').2) := by
  have hover : (m.atWork g).graph.isFinished = false := rfl
  have hclosed : (s'.closed m g').graph.isFinished = true := by
    simp [closed, Machine.atWork, GraphRun.close, hg', GraphRun.goOn, GraphRun.isFinished]
  have hconclude : pollMachine (n + 1) (s'.withOnly ticket (s'.closed m g')) ticket [] =
      ((s'.ending m g').1, .done (s'.ending m g').2) := by
    simp only [ending, pollMachine, machine?_withOnly, hclosed, if_true, conclude_withOnly]
  rw [poll, pollMachine]
  simp only [machine?_withOnly, hover, Machine.active_atWork, hg, Bool.false_eq_true, if_false,
    List.foldl_cons, List.foldl_nil, hgroup, hg', if_true, List.isEmpty_nil, setMachine_withOnly]
  exact hconclude

/-! ### Calls that are made -/

/-- Whether no more has happened than that some requests were sent. -/
structure Sends (s s' : Rehearsal) (sent : List Request) : Prop where
  elsewhere : ∃ b, s' = s.take (.elsewhere b)
  calls : s'.backend.calls = s.backend.calls ++ sent

theorem Sends.trans {s'' : Rehearsal} {sent more : List Request} (h : s.Sends s' sent)
    (h' : s'.Sends s'' more) : s.Sends s'' (sent ++ more) where
  elsewhere := by
    obtain ⟨_, hs⟩ := h.elsewhere
    obtain ⟨b, hs'⟩ := h'.elsewhere
    exact ⟨b, by rw [hs', hs]; rfl⟩
  calls := by rw [h'.calls, h.calls, List.append_assoc]

theorem Sends.rules {sent : List Request} (h : s.Sends s' sent) : s'.rules = s.rules := by
  obtain ⟨_, rfl⟩ := h.elsewhere
  rfl

theorem Sends.isNewest {sent : List Request} (h : s.Sends s' sent) (hnewest : s.IsNewest m) :
    s'.IsNewest m := by
  obtain ⟨_, rfl⟩ := h.elsewhere
  exact hnewest

theorem sends_takeTrace (s : Rehearsal) (ticket group : Nat) (t : Trace) :
    s.Sends (s.takeTrace ticket group t) [] where
  elsewhere := ⟨⟨t.surroundings, s.backend, s.hooks, (s.takeTrace ticket group t).events, s.asides,
    (s.takeTrace ticket group t).queue⟩, rfl⟩
  calls := (List.append_nil _).symm

theorem sends_call (s : Rehearsal) (c : Call) : s.Sends (s.call c).1 [c.request] where
  elsewhere := ⟨⟨s.surroundings, (s.call c).1.backend, (s.call c).1.hooks, s.events, s.asides, s.queue⟩, rfl⟩
  calls := s.backend.calls_invoke c.request

theorem sends_queue (s : Rehearsal) (queue : List QueuedCall) : s.Sends { s with queue } [] where
  elsewhere := ⟨⟨s.surroundings, s.backend, s.hooks, s.events, s.asides, queue⟩, rfl⟩
  calls := (List.append_nil _).symm

/-- Whether nothing is asked for while calls are out. They may take their time, and fail. -/
def Quiet (s : Rehearsal) : Prop := ∀ e ∈ s.hooks, ∀ h ∈ e.2, h.during = []

theorem delay_le_hookWeight {e : String × List Hook} {h : Hook} (he : e ∈ s.hooks) (hh : h ∈ e.2) :
    h.delay ≤ s.hookWeight := by
  have hfold (l : List Hook) (n : Nat) :
      n ≤ l.foldl (fun n h => n + 1 + h.delay + Command.weights h.during) n ∧
        ∀ h ∈ l, h.delay ≤ l.foldl (fun n h => n + 1 + h.delay + Command.weights h.during) n := by
    induction l generalizing n with
    | nil => exact ⟨Nat.le_refl n, nofun⟩
    | cons first rest ih =>
      obtain ⟨hle, hrest⟩ := ih (n + 1 + first.delay + Command.weights first.during)
      rw [List.foldl_cons]
      refine ⟨by omega, fun h hh => ?_⟩
      obtain rfl | hh := List.mem_cons.1 hh
      · omega
      · exact hrest h hh
  exact (hfold _ 0).2 h (List.mem_flatMap.2 ⟨e, he, hh⟩)

/-- What happens while the next call of a workflow is out. -/
def nextHook (s : Rehearsal) (workflow : String) : Hook := ((s.hooks.find? workflow).getD []).head?.getD {}

theorem nextHook_of_quiet (hquiet : s.Quiet) (workflow : String) :
    (s.nextHook workflow).during = [] ∧ (s.nextHook workflow).delay ≤ s.hookWeight := by
  rw [nextHook]
  rcases hfind : s.hooks.find? workflow with _ | _ | ⟨h, rest⟩
  · exact ⟨rfl, Nat.zero_le _⟩
  · exact ⟨rfl, Nat.zero_le _⟩
  · have hmem : (workflow, h :: rest) ∈ s.hooks := by
      obtain ⟨front, back, hsplit, -⟩ := List.lookup_eq_some_iff.1 hfind
      simp [hsplit]
    exact ⟨hquiet _ hmem h List.mem_cons_self, delay_le_hookWeight hmem List.mem_cons_self⟩

/-- Nothing happens while a call is out, and its answer comes after a while. -/
theorem call_of_quiet (hquiet : s.Quiet) (c : Call) :
    ∃ d answer, (s.call c).2 = .mk c.index [] d answer ∧ d ≤ s.hookWeight := by
  obtain ⟨hduring, hdelay⟩ := nextHook_of_quiet hquiet c.request.workflow
  obtain ⟨answer, hcall⟩ : ∃ answer, (s.call c).2 =
      .mk c.index ((s.nextHook c.request.workflow).during.map .ready) (s.nextHook c.request.workflow).delay answer :=
    ⟨_, rfl⟩
  rw [hduring] at hcall
  exact ⟨_, _, hcall, hdelay⟩

/-! ### The rounds -/

theorem makeQueued_of_empty (h : s.queue = []) : makeQueued n s = s := by
  cases n with
  | zero => rfl
  | succ n => simp only [makeQueued, h]

theorem settleCall_answered (s : Rehearsal) (q : QueuedCall) (index : Nat) (answer : Answer) :
    settleCall (n + 2) s q (.mk index [] 0 answer) = s.deliver q.ticket q.group index answer := by
  simp only [settleCall, pollCall]

theorem call_withOnly (s : Rehearsal) (ticket : Nat) (m : Machine) (c : Call) :
    (s.withOnly ticket m).call c = ((s.call c).1.withOnly ticket m, (s.call c).2) := rfl

/-- A call that nobody awaits is made between two rounds, and its answer comes at once. -/
theorem makeQueued_withOnly {c : Call} {around : Rehearsal} (hqueue : s.queue = [⟨ticket, 0, c⟩])
    (hg : g.isFinished = false)
    (hcall : ({ s with queue := [] } : Rehearsal).call c = (around, .mk 0 [] d answer)) :
    makeQueued (n + 3) (s.withOnly ticket (m.atWork g)) =
      around.withOnly ticket (m.atWork (g.deliver 0 answer)) := by
  have hqueue' : (s.withOnly ticket (m.atWork g)).queue = [⟨ticket, 0, c⟩] := hqueue
  have hwants : ({ s.withOnly ticket (m.atWork g) with queue := [] } : Rehearsal).wants ⟨ticket, 0, c⟩ = true := by
    simp [wants, machine?, withOnly, Machine.atWork, GraphRun.running?, hg]
  have hcall' : ({ s.withOnly ticket (m.atWork g) with queue := [] } : Rehearsal).call c =
      (around.withOnly ticket (m.atWork g), .mk 0 [] d answer) :=
    (call_withOnly { s with queue := [] } ticket (m.atWork g) c).trans (by rw [hcall])
  have hempty : (around.withOnly ticket (m.atWork (g.deliver 0 answer))).queue = [] :=
    (congrArg (fun p => p.1.queue) hcall).symm
  rw [makeQueued]
  simp only [hqueue', hwants, if_true, hcall', settleCall_answered, deliver_withOnly]
  exact makeQueued_of_empty hempty

theorem rounds_of_done {a : Activity} {r : Reply} (h : poll n s a = (s', .done r)) :
    s.rounds (n + 1) a = (s', some r) := by
  rw [rounds, h]

theorem rounds_of_running {a : Activity} (h : poll n s a = (s', .running ticket calls)) :
    s.rounds (n + 1) a = (makeQueued n s').rounds n (.running ticket calls) := by
  rw [rounds, h]

/-- Whether the rounds carry a machine that is alone to its end. -/
def Ends (s : Rehearsal) (n ticket : Nat) (m : Machine) (g : GroupRun) (calls : List (Nat × PendingCall))
    (sent : List Request) : Prop :=
  ∃ s' g', s.Sends s' sent ∧ (s.withOnly ticket (m.atWork g)).rounds n (.running ticket calls) =
    ((s'.ending m g').1, some (s'.ending m g').2)

/-- A call that is out is answered. -/
theorem ends_out (ticket : Nat) (answer : Answer) (hnewest : s.IsNewest m) (hqueue : s.queue = [])
    (hawaits : g.AwaitsOne s.rules) (hn : d + 6 ≤ n) : s.Ends n ticket m g [(0, .mk 0 [] d answer)] [] := by
  induction d generalizing n with
  | zero =>
    obtain ⟨k, rfl⟩ := Nat.exists_eq_add_of_le' hn
    obtain ⟨t, g', hfinished, hgroup⟩ := pollGroup_answered k ticket answer hnewest hawaits
    exact ⟨_, g', sends_takeTrace s ticket 0 t,
      rounds_of_done (poll_of_finished hawaits.unfinished hgroup hfinished)⟩
  | succ d ih =>
    obtain ⟨k, rfl⟩ := Nat.exists_eq_add_of_le' (show 6 ≤ n by omega)
    obtain ⟨s', g', hsends, hrounds⟩ := ih (n := k + 5) (by omega)
    refine ⟨s', g', hsends, ?_⟩
    rw [rounds_of_running (poll_of_waiting hawaits.unfinished pollGroup_out hawaits.unfinished),
      makeQueued_of_empty (by exact hqueue)]
    exact hrounds

/-- A call that the group awaits is made at once, and is answered. -/
theorem ends_of_awaited {c : Call} (hquiet : s.Quiet) (hnewest : s.IsNewest m) (hqueue : s.queue = [])
    (hn : s.hookWeight + 7 ≤ n) (hg : g.isFinished = false)
    (hpoll : g.poll s.rules true { surroundings := s.surroundings } = (g', t)) (hcalls : t.calls = [c])
    (hindex : c.index = 0) (hawaited : c.awaited = true) (hawaits : g'.AwaitsOne s.rules) :
    s.Ends n ticket m g [] [c.request] := by
  obtain ⟨k, rfl⟩ := Nat.exists_eq_add_of_le' (show 7 ≤ n by omega)
  have hgroup := pollGroup_withOnly (k + 3) ticket hnewest hpoll
  obtain ⟨d, answer, hcall, hd⟩ := call_of_quiet (s := s.takeTrace ticket 0 t) hquiet c
  rw [hindex] at hcall
  simp only [hcalls, List.find?_singleton, hawaited, if_true, hcall] at hgroup
  have hsent := (sends_takeTrace s ticket 0 t).trans (sends_call (s.takeTrace ticket 0 t) c)
  have hqueue' : ((s.takeTrace ticket 0 t).call c).1.queue = [] := by
    simp [call, takeTrace, hcalls, hawaited, hqueue]
  cases d with
  | zero =>
    obtain ⟨t', g'', hfinished, hanswered⟩ :=
      pollGroup_answered k ticket answer (s := ((s.takeTrace ticket 0 t).call c).1) hnewest hawaits
    exact ⟨_, g'', hsent.trans (sends_takeTrace _ ticket 0 t'),
      rounds_of_done (poll_of_finished hg (hgroup.trans hanswered) hfinished)⟩
  | succ d =>
    have hd : d + 1 ≤ s.hookWeight := hd
    obtain ⟨s', g'', hsends, hrounds⟩ := ends_out ticket answer (s := ((s.takeTrace ticket 0 t).call c).1)
      (n := k + 6) (d := d) hnewest hqueue' hawaits (by omega)
    refine ⟨s', g'', hsent.trans hsends, ?_⟩
    rw [rounds_of_running (poll_of_waiting hg (hgroup.trans pollGroup_out) hawaits.unfinished),
      makeQueued_of_empty (by exact hqueue')]
    exact hrounds

/-- A call that the group does not await is made behind the round, and its answer ends the group in the next. -/
theorem ends_of_detached {c : Call} (hquiet : s.Quiet) (hnewest : s.IsNewest m) (hqueue : s.queue = [])
    (hn : 7 ≤ n) (hg : g.isFinished = false)
    (hpoll : g.poll s.rules true { surroundings := s.surroundings } = (g', t)) (hcalls : t.calls = [c])
    (hindex : c.index = 0) (hawaited : c.awaited = false) (hawaits : g'.AwaitsOne s.rules) :
    s.Ends n ticket m g [] [c.request] := by
  obtain ⟨k, rfl⟩ := Nat.exists_eq_add_of_le' hn
  have hgroup := pollGroup_withOnly (k + 3) ticket hnewest hpoll
  simp only [hcalls, List.find?_singleton, hawaited, Bool.false_eq_true, if_false] at hgroup
  have hqueue' : (s.takeTrace ticket 0 t).queue = [⟨ticket, 0, c⟩] := by
    simp [takeTrace, hcalls, hawaited, hqueue]
  obtain ⟨d, answer, hcall, -⟩ := call_of_quiet (s := { s.takeTrace ticket 0 t with queue := [] }) hquiet c
  rw [hindex] at hcall
  rcases hmade : ({ s.takeTrace ticket 0 t with queue := [] } : Rehearsal).call c with ⟨around, pending⟩
  rw [hmade] at hcall
  obtain rfl : pending = .mk 0 [] d answer := hcall
  have hsent := ((sends_takeTrace s ticket 0 t).trans (sends_queue _ [])).trans
    (sends_call { s.takeTrace ticket 0 t with queue := [] } c)
  rw [hmade] at hsent
  rw [← hsent.rules] at hawaits
  obtain ⟨g'', t', hnext, hfinished, hsilent⟩ := hawaits.ends answer { surroundings := around.surroundings }
  have hanswered := pollGroup_withOnly (k + 2) ticket (hsent.isNewest hnewest) hnext
  simp only [hsilent, List.find?_nil] at hanswered
  refine ⟨_, g'', hsent.trans (sends_takeTrace around ticket 0 t'), ?_⟩
  rw [rounds_of_running (poll_of_waiting hg hgroup hawaits.unfinished),
    makeQueued_withOnly hqueue' hawaits.unfinished hmade]
  exact rounds_of_done (poll_of_finished hawaits.unfinished hanswered hfinished)

/-- What a run of one step comes to when it is alone: it sends its request, if that can be bound, and no more. -/
theorem ends_of_loneStep (ticket : Nat) (name : String) (epoch : Nat) (step : Step) (c : Context)
    (hquiet : s.Quiet) (hnewest : s.IsNewest m) (hqueue : s.queue = []) (hn : s.hookWeight + 7 ≤ n) :
    ∃ s' g' sent, s.Sends s' sent ∧
      (s.withOnly ticket (m.atWork (.of name epoch ⟨[step]⟩ c))).rounds n (.running ticket []) =
        ((s'.ending m g').1, some (s'.ending m g').2) ∧
      ((∃ r, (step.bind c s.surroundings).1 = .ok r ∧ sent = [r]) ∨
        sent = [] ∧ g'.isFinished = true ∧ ∀ o ∈ g'.stepOutcomes, o.isSuccess = false) := by
  have hunfinished : (GroupRun.of name epoch ⟨[step]⟩ c).isFinished = false := rfl
  have hopens := GroupRun.opens s.rules name epoch step c { surroundings := s.surroundings }
  rcases hpoll : (GroupRun.of name epoch ⟨[step]⟩ c).poll s.rules true { surroundings := s.surroundings }
    with ⟨g, t⟩
  rw [hpoll] at hopens
  cases hopens with
  | @sent r hbind hcalls hawaits =>
    have hends : s.Ends n ticket m (.of name epoch ⟨[step]⟩ c) [] [r] := by
      cases hawaited : step.awaited with
      | true =>
        exact ends_of_awaited hquiet hnewest hqueue hn hunfinished hpoll hcalls rfl hawaited hawaits
      | false =>
        exact ends_of_detached hquiet hnewest hqueue (by omega) hunfinished hpoll hcalls rfl hawaited hawaits
    obtain ⟨s', g', hsends, hrounds⟩ := hends
    exact ⟨s', g', [r], hsends, hrounds, .inl ⟨r, hbind, rfl⟩⟩
  | unsent hbind hfinished hcalls hfailed =>
    obtain ⟨k, rfl⟩ := Nat.exists_eq_add_of_le' (show 7 ≤ n by omega)
    have hcalls : t.calls = [] := hcalls
    have hgroup := pollGroup_withOnly (k + 3) ticket hnewest hpoll
    simp only [hcalls, List.find?_nil] at hgroup
    exact ⟨_, g, [], sends_takeTrace s ticket 0 t,
      rounds_of_done (poll_of_finished hunfinished hgroup hfinished), .inr ⟨rfl, hfinished, hfailed⟩⟩

end Rehearsal

end BackOffice
