import BackOffice.Proofs.Run.Passage

/-!
What holds of a graph at work as long as no newer run begins. Every group at work is where a course of its own has
led it from its beginning, every group that has ended was taken up with what became of it, the context holds what
was written so far, and what is told of the end of the session is told where it should be.
-/

namespace BackOffice

/-- Rules and a count of runs, with surroundings and a transport that do not matter. -/
def Conditions.under (rules : RunRules) (counter : EpochCounter) : Conditions :=
  ⟨rules, counter, ⟨.epoch, ⟨"", 0⟩⟩, fun _ => .ok .null⟩

namespace Passage

variable {rules : RunRules} {graph : WorkflowGraph} {start : Context} {p : Passage} {due rest : List Nat}
  {waves : List (List Nat)} {place : Nat} {group group' : GroupRun} {calls : List Call} {events : List Event}

/-- What holds of a graph that has not been superseded, when some groups and some waves are still to come. -/
structure Stands (rules : RunRules) (graph : WorkflowGraph) (start : Context) (due : List Nat)
    (waves : List (List Nat)) (p : Passage) : Prop where
  epoch : p.graph.run.epoch = p.counter.current
  unstale : p.graph.run.stale = false
  paced : p.graph.Paced rules graph due waves
  clear : p.graph.Clear due
  context : p.graph.run.context = start.apply (p.log.flatMap Milestone.writes)
  chronicle : Chronicle graph p.counter.current start p.log
  working : ∀ e ∈ p.graph.atWork, ∃ first, .began e.1 first ∈ p.log ∧ first.context = p.graph.base ∧
    GroupRun.Course rules first e.2 (p.sentBy e.1) (p.toldBy e.1)
  ended : ∀ place last writes, .ended place last writes ∈ p.log → last.isFinished = true ∧
    (place, last.outcome) ∈ p.graph.results ∧
    ∃ first, .began place first ∈ p.log ∧ GroupRun.Course rules first last (p.sentBy place) (p.toldBy place)
  /-- A group that has been judged was given up, or has ended. -/
  judged : ∀ e ∈ p.graph.results, e.2.status = .skipped ∨
    ∃ last writes, .ended e.1 last writes ∈ p.log ∧ e.2 = last.outcome
  /-- A group that has begun is at work, or has ended. -/
  noted : ∀ m ∈ p.log, m.place ∈ p.graph.atWork.map Prod.fst ∨ ∃ last writes, .ended m.place last writes ∈ p.log
  silent : ∀ place, (∀ m ∈ p.log, m.place ≠ place) → p.sentBy place = [] ∧ p.toldBy place = []
  orderly : Event.Paired (p.told.map Prod.snd)
  own : ∀ e ∈ p.told, e.2.epoch = p.counter.current

/-- What holds of a graph that has not been superseded. -/
def Sound (rules : RunRules) (graph : WorkflowGraph) (start : Context) (p : Passage) : Prop :=
  Stands rules graph start (p.graph.atWork.map Prod.fst ++ p.graph.rest) p.graph.waves p

namespace Stands

theorem current (h : Stands rules graph start due waves p) : p.Current := by
  rw [Current, h.epoch, EpochCounter.isCurrent, beq_self_eq_true]

/-- A group that has begun is one of the graph, on its way from the start. -/
theorem first (h : Stands rules graph start due waves p) {first : GroupRun} (hbegan : .began place first ∈ p.log) :
    ∃ name group, graph.groups[place]? = some (name, group) ∧
      first = .of name p.counter.current group first.context := by
  obtain ⟨front, back, hlog⟩ := List.append_of_mem hbegan
  exact (h.chronicle.begins hlog).group

theorem ledger (h : Stands rules graph start due waves p) {first : GroupRun} (hbegan : .began place first ∈ p.log)
    {sent : List Call} {told : List Event} (hcourse : GroupRun.Course rules first group sent told) :
    ∃ name steps, graph.groups[place]? = some (name, steps) ∧
      group.Ledger rules name steps.steps group.unsettled := by
  obtain ⟨name, steps, hat, hfirst⟩ := h.first hbegan
  refine ⟨name, steps, hat, hcourse.ledger ?_⟩
  rw [hfirst]
  exact GroupRun.ledger_of name p.counter.current steps first.context

theorem unstaleCourse (h : Stands rules graph start due waves p) {first : GroupRun}
    (hbegan : .began place first ∈ p.log) {sent : List Call} {told : List Event}
    (hcourse : GroupRun.Course rules first group sent told) : group.stale = false := by
  obtain ⟨name, steps, -, hfirst⟩ := h.first hbegan
  rw [hcourse.stale, hfirst]
  rfl

theorem unstaleGraph (h : Stands rules graph start due waves p) : p.graph.Unstale := by
  refine ⟨h.unstale, fun e he => ?_⟩
  obtain ⟨first, hbegan, -, hcourse⟩ := h.working e he
  exact h.unstaleCourse hbegan hcourse

theorem names (h : Stands rules graph start due waves p) {e : Nat × GroupRun} (he : e ∈ p.graph.atWork) :
    e.2.name = (p.graph.groupAt e.1).1 := by
  obtain ⟨first, hbegan, -, hcourse⟩ := h.working e he
  obtain ⟨name, steps, hat, hledger⟩ := h.ledger hbegan hcourse
  rw [hledger.named, GraphRun.groupAt, h.paced.groups, hat, Option.getD_some]

end Stands

namespace Sound

theorem nodup (h : Sound rules graph start p) :
    (p.graph.results.map Prod.fst ++ p.graph.atWork.map Prod.fst).Nodup := h.paced.nodup_front

/-- A group at work has not ended. -/
theorem notEnded (h : Sound rules graph start p) (hplace : place ∈ p.graph.atWork.map Prod.fst) (last : GroupRun)
    (writes : List Write) : .ended place last writes ∉ p.log := by
  intro hended
  have hresult := (h.ended place last writes hended).2.1
  exact (List.nodup_append.1 h.nodup).2.2 place (List.mem_map_of_mem hresult) place hplace rfl

/-- A group goes on its way. -/
theorem put (h : Sound rules graph start p) (hrunning : p.graph.running? place = some group)
    (hcourse : ∀ {first sent told}, GroupRun.Course rules first group sent told →
      GroupRun.Course rules first group' (sent ++ calls) (told ++ events))
    (hpaired : Event.Paired events) (hown : ∀ e ∈ events, e.epoch = p.counter.current) :
    Sound rules graph start (p.put place group' calls events) := by
  have hwork := GraphRun.mem_atWork_of_running? hrunning
  have hplace : place ∈ p.graph.atWork.map Prod.fst := List.mem_map_of_mem hwork
  obtain ⟨first, hbegan, hcontext, hgroup⟩ := h.working _ hwork
  have halike := @GraphRun.alike_put p.graph place group'
  have hsentSelf : (p.put place group' calls events).sentBy place = p.sentBy place ++ calls :=
    ofPlace_append_self _ _ _
  have htoldSelf : (p.put place group' calls events).toldBy place = p.toldBy place ++ events :=
    ofPlace_append_self _ _ _
  have hsent {q : Nat} (hq : q ≠ place) : (p.put place group' calls events).sentBy q = p.sentBy q :=
    ofPlace_append_of_ne _ _ hq
  have htold {q : Nat} (hq : q ≠ place) : (p.put place group' calls events).toldBy q = p.toldBy q :=
    ofPlace_append_of_ne _ _ hq
  have hkeys : (p.put place group' calls events).graph.atWork.map Prod.fst = p.graph.atWork.map Prod.fst :=
    halike.keys
  have hdue : (p.put place group' calls events).graph.atWork.map Prod.fst ++
      (p.put place group' calls events).graph.rest = p.graph.atWork.map Prod.fst ++ p.graph.rest := by
    rw [hkeys, show (p.put place group' calls events).graph.rest = p.graph.rest from halike.rest]
  have hwaves : (p.put place group' calls events).graph.waves = p.graph.waves := halike.waves
  unfold Sound
  rw [hdue, hwaves]
  exact {
    epoch := h.epoch
    unstale := h.unstale
    paced := { h.paced with }
    clear := h.clear
    context := h.context
    chronicle := h.chronicle
    working := by
      intro e he
      have hbase : (p.put place group' calls events).graph.base = p.graph.base := GraphRun.base_put place group'
      rw [hbase]
      rw [show (p.put place group' calls events).graph.atWork = _ from GraphRun.atWork_put _ _ _] at he
      obtain ⟨old, hold, rfl⟩ := List.mem_map.1 he
      split
      next =>
        rw [hsentSelf, htoldSelf]
        exact ⟨first, hbegan, hcontext, hcourse hgroup⟩
      next hne =>
        rw [hsent hne, htold hne]
        exact h.working old hold
    ended := by
      intro q last writes hended
      have hq : q ≠ place := by
        rintro rfl
        exact h.notEnded hplace last writes hended
      rw [hsent hq, htold hq]
      exact h.ended q last writes hended
    judged := h.judged
    noted := by
      rw [hkeys]
      exact h.noted
    silent := by
      intro q hq
      have hne : q ≠ place := fun heq => hq _ hbegan heq.symm
      rw [hsent hne, htold hne]
      exact h.silent q hq
    orderly := by
      have hmap : (p.put place group' calls events).told.map Prod.snd = p.told.map Prod.snd ++ events := by
        rw [Passage.put, List.map_append, List.map_map]
        exact congrArg _ events.map_id
      rw [hmap]
      exact h.orderly.append hpaired
    own := by
      refine List.forall_mem_append.2 ⟨h.own, ?_⟩
      intro e he
      obtain ⟨event, hevent, rfl⟩ := List.mem_map.1 he
      exact hown event hevent }

theorem go (h : Sound rules graph start p) (hrunning : p.graph.running? place = some group)
    (around : Surroundings) :
    Sound rules graph start (p.put place (group.poll rules true { surroundings := around }).1
      (group.poll rules true { surroundings := around }).2.calls
      (group.poll rules true { surroundings := around }).2.events) := by
  obtain ⟨first, hbegan, -, hcourse⟩ := h.working _ (GraphRun.mem_atWork_of_running? hrunning)
  obtain ⟨name, steps, -, hfirst⟩ := h.first hbegan
  have hepoch : group.epoch = p.counter.current := by
    rw [hcourse.keeps.1, hfirst]
    rfl
  have hkept : GroupRun.Keeps p.counter.current (group, { surroundings := around }) :=
    ⟨hepoch, Trace.orderly_empty _ around⟩
  obtain ⟨-, horderly⟩ := @GroupRun.keeps_poll rules group _ p.counter.current true hkept
  exact h.put hrunning (fun hcourse => hcourse.went around) horderly.paired horderly.epoch

/-- What is still to be answered has no part in what holds of a graph. -/
theorem withOut (h : Sound rules graph start p) (out : List (Nat × Call)) :
    Sound rules graph start { p with out } := { h with }

theorem arrive (h : Sound rules graph start p) (place index : Nat) (answer : Answer) :
    Sound rules graph start { p.settled place index with graph := p.graph.deliver place index answer } := by
  rw [GraphRun.deliver]
  cases hrunning : p.graph.running? place with
  | none => exact h.withOut _
  | some group =>
    have hput : Sound rules graph start (p.put place (group.deliver index answer) [] []) :=
      h.put hrunning (fun hcourse => by simpa using hcourse.answered index answer) .nil
        (fun e he => absurd he List.not_mem_nil)
    simpa [Passage.put, Passage.settled] using hput.withOut _

end Sound

/-! ### From stage to stage -/

/-- The next groups begin, where no group is at work. -/
theorem Stands.goOn (h : Stands rules graph start rest waves p) (hstage : p.graph.stage = .finished) :
    Sound rules graph start
      { p with
        graph := .goOn rules p.counter rest waves p.graph
        log := p.log ++ (GraphRun.goOn rules p.counter rest waves p.graph).beginnings } := by
  have hopened := h.paced.goOn (GraphRun.isStale_eq_false h.current h.unstale) h.clear
  generalize GraphRun.goOn rules p.counter rest waves p.graph = g at hopened ⊢
  obtain ⟨more, hresults, hmore⟩ := hopened.results
  have hidle : p.graph.atWork = [] := by rw [GraphRun.atWork, hstage]
  have hepoch : g.run.epoch = p.counter.current := by rw [hopened.run, h.epoch]
  have hnodup : (g.results.map Prod.fst ++ g.atWork.map Prod.fst).Nodup := hopened.paced.nodup_front
  have hjudged : ∀ m ∈ p.log, m.place ∈ g.results.map Prod.fst := by
    intro m hm
    obtain hplace | ⟨last, writes, hended⟩ := h.noted m hm
    · rw [hidle] at hplace
      cases hplace
    · rw [hresults, List.map_append]
      exact List.mem_append_left _ (List.mem_map_of_mem (h.ended _ _ _ hended).2.1)
  have hnew : ∀ e ∈ g.atWork, ∀ m ∈ p.log, m.place ≠ e.1 := fun e he m hm =>
    (List.nodup_append.1 hnodup).2.2 _ (hjudged m hm) _ (List.mem_map_of_mem he)
  have hgroup : ∀ e ∈ g.atWork, ∃ name group, graph.groups[e.1]? = some (name, group) ∧
      e.2 = .of name p.counter.current group g.base := fun e he => hepoch ▸ hopened.exists_group he
  have hafter : ∀ e ∈ g.atWork, ∀ d ∈ (Plan.of graph).dependenciesAt e.1,
      ∃ last writes, .ended d last writes ∈ p.log := by
    intro e he d hd
    obtain ⟨o, ho, hskipped⟩ := hopened.exists_judged he hd
    obtain ⟨last, writes, hended, -⟩ := (h.judged _ ho).resolve_left hskipped
    exact ⟨last, writes, hended⟩
  have hcontext : g.base.values = start.values.putAll (p.log.flatMap Milestone.writes) := by
    rw [GraphRun.values_base, hopened.run, h.context, Context.values_apply]
  exact {
    epoch := hepoch
    unstale := by rw [hopened.run]; exact h.unstale
    paced := hopened.paced
    clear := hopened.clear
    context := by
      have hnone : g.beginnings.flatMap Milestone.writes = [] := by
        rw [GraphRun.beginnings, List.flatMap_map]
        exact List.flatMap_eq_nil_iff.2 fun _ _ => rfl
      rw [hopened.run, h.context, List.flatMap_append, hnone, List.append_nil]
    chronicle := h.chronicle.append_began (List.nodup_append.1 hnodup).2.1 hnew hgroup hafter hcontext
    working := by
      intro e he
      obtain ⟨hsent, htold⟩ := h.silent e.1 (hnew e he)
      obtain ⟨name, group, -, hfirst⟩ := hgroup e he
      refine ⟨e.2, List.mem_append_right _ (List.mem_map_of_mem he), by rw [hfirst]; rfl, ?_⟩
      rw [show ({ p with graph := g, log := p.log ++ g.beginnings } : Passage).sentBy e.1 = [] from hsent,
        show ({ p with graph := g, log := p.log ++ g.beginnings } : Passage).toldBy e.1 = [] from htold]
      exact .begun
    ended := by
      intro place last writes hended
      obtain hended | hended := List.mem_append.1 hended
      · obtain ⟨hfin, hresult, first, hbegan, hcourse⟩ := h.ended place last writes hended
        refine ⟨hfin, ?_, first, List.mem_append_left _ hbegan, hcourse⟩
        rw [hresults]
        exact List.mem_append_left _ hresult
      · obtain ⟨e, -, he⟩ := List.mem_map.1 hended
        cases he
    judged := by
      intro e he
      rw [hresults] at he
      obtain he | he := List.mem_append.1 he
      · refine (h.judged e he).imp_right ?_
        rintro ⟨last, writes, hended, ho⟩
        exact ⟨last, writes, List.mem_append_left _ hended, ho⟩
      · exact .inl (hmore e he)
    noted := by
      intro m hm
      obtain hm | hm := List.mem_append.1 hm
      · obtain hplace | ⟨last, writes, hended⟩ := h.noted m hm
        · rw [hidle] at hplace
          cases hplace
        · exact .inr ⟨last, writes, List.mem_append_left _ hended⟩
      · obtain ⟨e, he, rfl⟩ := List.mem_map.1 hm
        exact .inl (List.mem_map_of_mem he)
    silent := fun place hnone => h.silent place fun m hm => hnone m (List.mem_append_left _ hm)
    orderly := h.orderly
    own := h.own }

namespace Sound

/-- When the groups at work have all finished, they are taken up. -/
theorem takeUp (h : Sound rules graph start p) (hactive : p.graph.active = []) :
    Stands rules graph start p.graph.rest p.graph.waves
      { p with
        graph := p.graph.closed (.under rules p.counter) p.graph.atWork
        log := p.log ++ p.graph.endings } := by
  have htaken := GraphRun.Paced.closed (c := .under rules p.counter) h.paced h.clear
    (fun e he => h.names he) h.unstaleGraph
  have hidle := @GraphRun.stage_closed (.under rules p.counter) p.graph p.graph.atWork
  have hwrites : ∀ e ∈ p.graph.atWork, ∃ first, .began e.1 first ∈ p.log ∧
      e.2.context = first.context.apply (e.2.context.writesSince p.graph.base.mark) := by
    intro e he
    obtain ⟨first, hbegan, hbase, hcourse⟩ := h.working e he
    obtain ⟨writes, hcontext⟩ := hcourse.exists_writes
    refine ⟨first, hbegan, ?_⟩
    rw [hcontext, hbase, Context.writesSince_apply]
  have hcontext := @GraphRun.context_closed (.under rules p.counter) p.graph fun e he => by
    obtain ⟨first, hbegan, hbase, hcourse⟩ := h.working e he
    obtain ⟨writes, hcontext⟩ := hcourse.exists_writes
    exact ⟨writes, by rw [hcontext, hbase]⟩
  have hepoch := @GraphRun.epoch_closed (.under rules p.counter) p.graph p.graph.atWork
  generalize p.graph.closed (.under rules p.counter) p.graph.atWork = g at htaken hidle hcontext hepoch ⊢
  have hwork : g.atWork = [] := by rw [GraphRun.atWork, hidle]
  exact {
    epoch := hepoch.trans h.epoch
    unstale := htaken.unstale
    paced := htaken.paced
    clear := htaken.clear
    context := by
      rw [List.flatMap_append, Context.apply_append, ← h.context, GraphRun.endings, List.flatMap_map]
      exact hcontext
    chronicle := by
      refine h.chronicle.append_ended (fun group => group.context.writesSince p.graph.base.mark)
        (List.nodup_append.1 h.nodup).2.1 fun e he => ?_
      obtain ⟨first, hbegan, hwritten⟩ := hwrites e he
      obtain ⟨front, back, hlog, hothers⟩ := h.chronicle.underway hbegan
        (h.notEnded (List.mem_map_of_mem he))
      exact ⟨front, back, first, hlog, hothers, hwritten⟩
    working := fun e he => by rw [hwork] at he; cases he
    ended := by
      intro place last writes hended
      rw [htaken.results]
      obtain hended | hended := List.mem_append.1 hended
      · obtain ⟨hfin, hresult, first, hbegan, hcourse⟩ := h.ended place last writes hended
        exact ⟨hfin, List.mem_append_left _ hresult, first, List.mem_append_left _ hbegan, hcourse⟩
      · obtain ⟨e, he, heq⟩ := List.mem_map.1 hended
        cases heq
        obtain ⟨first, hbegan, -, hcourse⟩ := h.working e he
        refine ⟨GraphRun.isFinished_of_active_eq_nil hactive he, ?_, first, List.mem_append_left _ hbegan, hcourse⟩
        exact List.mem_append_right _ (List.mem_map.2 ⟨e, he, rfl⟩)
    judged := by
      intro e he
      rw [htaken.results] at he
      obtain he | he := List.mem_append.1 he
      · refine (h.judged e he).imp_right ?_
        rintro ⟨last, writes, hended, ho⟩
        exact ⟨last, writes, List.mem_append_left _ hended, ho⟩
      · obtain ⟨last, hlast, rfl⟩ := List.mem_map.1 he
        exact .inr ⟨last.2, _, List.mem_append_right _ (List.mem_map.2 ⟨last, hlast, rfl⟩), rfl⟩
    noted := by
      intro m hm
      right
      obtain hm | hm := List.mem_append.1 hm
      · obtain hplace | ⟨last, writes, hended⟩ := h.noted m hm
        · obtain ⟨e, he, heq⟩ := List.mem_map.1 hplace
          exact ⟨e.2, _, List.mem_append_right _ (List.mem_map.2 ⟨e, he, by rw [heq]⟩)⟩
        · exact ⟨last, writes, List.mem_append_left _ hended⟩
      · obtain ⟨e, he, rfl⟩ := List.mem_map.1 hm
        exact ⟨e.2, _, List.mem_append_right _ (List.mem_map.2 ⟨e, he, rfl⟩)⟩
    silent := fun place hnone => h.silent place fun m hm => hnone m (List.mem_append_left _ hm)
    orderly := h.orderly
    own := h.own }

theorem close (h : Sound rules graph start p) (hactive : p.graph.active = []) :
    Sound rules graph start
      { p with
        graph := p.graph.close rules p.counter
        log := p.log ++ p.graph.endings ++ (p.graph.close rules p.counter).beginnings } := by
  have hclose := @GraphRun.close_eq (.under rules p.counter) p.graph h.current hactive
  rw [show p.graph.close rules p.counter = _ from hclose]
  exact (h.takeUp hactive).goOn (GraphRun.stage_closed _)

end Sound

/-- A graph before its first stage is opened. -/
def unopened (counter : EpochCounter) (graph : WorkflowGraph) (context : Context) : Passage where
  counter := counter
  graph :=
    { groups := graph.groups
      plan := .of graph
      run := { epoch := counter.current, context }
      stage := .finished }
  log := []

theorem stands_unopened (rules : RunRules) (counter : EpochCounter) (graph : WorkflowGraph) (context : Context) :
    Stands rules graph context [] (Plan.of graph).waves (unopened counter graph context) where
  epoch := rfl
  unstale := rfl
  paced := {
    groups := rfl
    plan := rfl
    places := ⟨[], rfl, .nil⟩
    judged := fun _ hi => absurd hi List.not_mem_nil
    founded := .nil
    named := fun _ he => absurd he List.not_mem_nil
    halted := (Bool.and_false _).symm }
  clear := fun _ hi => absurd hi List.not_mem_nil
  context := rfl
  chronicle := .nil
  working := fun _ he => absurd he List.not_mem_nil
  ended := fun _ _ _ hended => absurd hended List.not_mem_nil
  judged := fun _ he => absurd he List.not_mem_nil
  noted := fun _ hm => absurd hm List.not_mem_nil
  silent := fun _ _ => ⟨rfl, rfl⟩
  orderly := .nil
  own := fun _ he => absurd he List.not_mem_nil

theorem sound_opening (rules : RunRules) (counter : EpochCounter) (graph : WorkflowGraph) (context : Context) :
    Sound rules graph context (opening rules counter graph context) :=
  (stands_unopened rules counter graph context).goOn rfl

/-! ### Every course of moves -/

theorem epoch_move (p : Passage) (m : PassageMove) : (p.move rules m).graph.run.epoch = p.graph.run.epoch := by
  cases m with
  | go place around =>
    simp only [move]
    split <;> rfl
  | arrive place index answer =>
    simp only [move]
    split
    · rw [GraphRun.run_deliver]
    · rfl
  | close =>
    simp only [move]
    split
    · rfl
    · exact GraphRun.epoch_close
  | overtake => rfl

/-- Whether a newer run has begun. -/
def Late (p : Passage) : Prop := p.graph.run.epoch < p.counter.current

theorem late_move (h : p.Late) (m : PassageMove) : (p.move rules m).Late := by
  rw [Late, epoch_move]
  cases m with
  | go place around =>
    simp only [move]
    split <;> exact h
  | arrive place index answer =>
    simp only [move]
    split <;> exact h
  | close =>
    simp only [move]
    split <;> exact h
  | overtake => exact Nat.lt_succ_of_lt h

theorem Sound.move (h : Sound rules graph start p) (m : PassageMove) :
    Sound rules graph start (p.move rules m) ∨ (p.move rules m).Late := by
  cases m with
  | go place around =>
    left
    simp only [Passage.move]
    split
    · exact h
    next group hrunning =>
      rw [show p.counter.isCurrent p.graph.run.epoch = true from h.current]
      exact h.go hrunning around
  | arrive place index answer =>
    left
    simp only [Passage.move]
    split
    · exact h.arrive place index answer
    · exact h
  | close =>
    left
    simp only [Passage.move]
    split
    · exact h
    next hopen =>
      rw [Bool.or_eq_true, not_or, Bool.not_eq_true', Bool.not_eq_false, List.isEmpty_iff] at hopen
      exact h.close hopen.2
  | overtake => exact .inr (Nat.lt_succ_of_le (Nat.le_of_eq h.epoch))

theorem not_current_of_late (h : p.Late) : ¬ p.Current := by
  rw [Current, EpochCounter.isCurrent, beq_iff_eq]
  exact fun hcurrent => absurd hcurrent.symm (Nat.ne_of_lt h)

/-- As long as no newer run has begun, a graph stands as it should. -/
theorem sound_follow (counter : EpochCounter) (context : Context) {moves : List PassageMove}
    (hcurrent : ((opening rules counter graph context).follow rules moves).Current) :
    Sound rules graph context ((opening rules counter graph context).follow rules moves) := by
  have hall (p : Passage) (h : Sound rules graph context p ∨ p.Late) :
      Sound rules graph context (p.follow rules moves) ∨ (p.follow rules moves).Late := by
    clear hcurrent
    induction moves generalizing p with
    | nil => exact h
    | cons m rest ih => exact ih _ (h.elim (fun h => h.move m) fun h => .inr (late_move h m))
  exact (hall _ (.inl (sound_opening rules counter graph context))).resolve_right fun hlate =>
    not_current_of_late hlate hcurrent

/-! ### A finished graph -/

/-- What became of the graph. -/
def outcome (p : Passage) : GraphOutcome := p.graph.outcome p.counter

theorem length_outcome (p : Passage) : p.outcome.groups.length = p.graph.groups.length := by
  rw [outcome, GraphRun.outcome, List.length_map, List.length_zipIdx]

theorem getElem?_outcome (p : Passage) (i : Nat) :
    p.outcome.groups[i]? = p.graph.groups[i]?.map fun e =>
      (p.graph.results.lookup i).getD (.notStarted e.1 .skipped) := by
  simp only [outcome, GraphRun.outcome, List.getElem?_map, List.getElem?_zipIdx, Option.map_map]
  rw [Nat.zero_add]
  rfl

/-- How a group has run: once, behind all that it comes after and on what these have written, and to its end. -/
structure Ran (rules : RunRules) (graph : WorkflowGraph) (start : Context) (p : Passage) (place : Nat)
    (first last : GroupRun) : Prop where
  once : ∃ front middle back writes, RunsOnce p.log front middle back place first last writes ∧
    Begins graph p.counter.current start front place first
  course : GroupRun.Course rules first last (p.sentBy place) (p.toldBy place)
  finished : last.isFinished = true
  /-- Its steps were bound in the context that it began with, and what it had written there itself. -/
  bound : ∀ call ∈ p.sentBy place, ∃ s written around, first.steps[call.index]? = some s ∧
    (s.bind (first.context.apply written) around).1 = .ok call.request

namespace Sound

variable (h : Sound rules graph start p)

include h

/-- Every group has been judged once. -/
theorem perm_results (hfin : p.graph.isFinished = true) :
    (p.graph.results.map Prod.fst).Perm (List.range graph.groups.length) := by
  have hstage := GraphRun.stage_of_isFinished hfin
  have hdue : p.graph.atWork.map Prod.fst ++ p.graph.rest = [] := by
    simp only [GraphRun.atWork, GraphRun.rest, hstage, List.map_nil, List.append_nil]
  have hwaves : p.graph.waves = [] := by simp only [GraphRun.waves, hstage]
  obtain ⟨front, hfront, hperm⟩ := h.paced.places
  rw [hdue, List.append_nil] at hperm
  rw [hwaves, List.append_nil, h.paced.plan] at hfront
  rw [← hfront] at hperm
  exact hperm.trans (Plan.perm_flatten_waves graph)

theorem lt_of_mem_results (hfin : p.graph.isFinished = true) {e : Nat × GroupOutcome} (he : e ∈ p.graph.results) :
    e.1 < graph.groups.length :=
  List.mem_range.1 ((h.perm_results hfin).mem_iff.1 (List.mem_map_of_mem he))

theorem stale_outcome : p.outcome.stale = false := GraphRun.isStale_eq_false h.current h.unstale

/-- The outcomes stand in the order of declaration. -/
theorem getElem?_groups (hfin : p.graph.isFinished = true) {i : Nat} {o : GroupOutcome} :
    p.outcome.groups[i]? = some o ↔ (i, o) ∈ p.graph.results := by
  rw [getElem?_outcome, h.paced.groups]
  constructor
  · intro ho
    obtain ⟨e, he, rfl⟩ := Option.map_eq_some_iff.1 ho
    have hlt : i < graph.groups.length := (List.getElem?_eq_some_iff.1 he).1
    obtain ⟨⟨_, o⟩, hmem, rfl⟩ := List.mem_map.1 ((h.perm_results hfin).mem_iff.2 (List.mem_range.2 hlt))
    rwa [lookup_of_mem h.nodup.of_append_left hmem, Option.getD_some]
  · intro ho
    have hlt : i < graph.groups.length := h.lt_of_mem_results hfin ho
    rw [List.getElem?_eq_getElem hlt, lookup_of_mem h.nodup.of_append_left ho]
    rfl

theorem names_outcome (hfin : p.graph.isFinished = true) :
    p.outcome.groups.map GroupOutcome.name = graph.groups.map Prod.fst := by
  apply List.ext_getElem?
  intro i
  rw [List.getElem?_map, List.getElem?_map]
  cases ho : p.outcome.groups[i]? with
  | none =>
    rw [List.getElem?_eq_none_iff, length_outcome, h.paced.groups, ← List.getElem?_eq_none_iff] at ho
    rw [ho]
    rfl
  | some o =>
    have hmem := (h.getElem?_groups hfin).1 ho
    have hlt : i < graph.groups.length := h.lt_of_mem_results hfin hmem
    have hname := h.paced.named _ hmem
    rw [GraphRun.groupAt, h.paced.groups, List.getElem?_eq_getElem hlt, Option.getD_some] at hname
    rw [List.getElem?_eq_getElem hlt, Option.map_some, Option.map_some, ← hname]

/-- Every group that was not given up has run. -/
theorem ran {e : Nat × GroupOutcome} (he : e ∈ p.graph.results) (hrun : e.2.status ≠ .skipped) :
    ∃ first last, Ran rules graph start p e.1 first last ∧ e.2 = last.outcome := by
  obtain ⟨last, writes, hended, ho⟩ := (h.judged e he).resolve_left hrun
  obtain ⟨hfinished, -, first, hbegan, hcourse⟩ := h.ended _ _ _ hended
  obtain ⟨front, middle, back, first', honce⟩ := h.chronicle.runsOnce hended
  obtain rfl : first = first' := by
    rw [honce.split] at hbegan
    by_contra hne
    refine honce.once (.began e.1 first) ?_ rfl
    simpa [hne] using hbegan
  have hbegins := h.chronicle.begins (honce.split.trans (by rw [List.append_assoc, List.cons_append]))
  obtain ⟨name, group, -, hfirst⟩ := hbegins.group
  refine ⟨first, last, ⟨⟨front, middle, back, writes, honce, hbegins⟩, hcourse, hfinished, fun call hcall => ?_⟩, ho⟩
  have hsteps : first.steps = group.steps := by rw [hfirst]; rfl
  have hledger : first.Ledger rules name group.steps first.unsettled := by
    rw [hfirst]
    exact GroupRun.ledger_of name p.counter.current group first.context
  rw [hsteps]
  exact hcourse.isBound hledger hcall

/-- A group that was given up has never begun, and nothing has come of it. -/
theorem givenUp (hfin : p.graph.isFinished = true) {e : Nat × GroupOutcome} (he : e ∈ p.graph.results)
    (hskipped : e.2.status = .skipped) :
    p.sentBy e.1 = [] ∧ p.toldBy e.1 = [] ∧ ∀ m ∈ p.log, m.place ≠ e.1 := by
  have hidle : p.graph.atWork = [] := by rw [GraphRun.atWork, GraphRun.stage_of_isFinished hfin]
  have hnone : ∀ m ∈ p.log, m.place ≠ e.1 := by
    intro m hm hplace
    obtain hwork | ⟨last, writes, hended⟩ := h.noted m hm
    · rw [hidle] at hwork
      cases hwork
    · rw [hplace] at hended
      have hlookup := lookup_of_mem h.nodup.of_append_left (h.ended _ _ _ hended).2.1
      rw [lookup_of_mem h.nodup.of_append_left he] at hlookup
      rw [Option.some.inj hlookup] at hskipped
      exact last.status_ne_skipped hskipped
  exact ⟨(h.silent e.1 hnone).1, (h.silent e.1 hnone).2, hnone⟩

end Sound

end Passage

end BackOffice
