import BackOffice.Proofs.Plan.Waves
import BackOffice.Proofs.Run.ArrivalOrder
import BackOffice.Proofs.Run.Ledger

/-!
Which groups of a graph are given up. While no newer run begins, every group of a plan is judged once, after all
that it comes after have been judged: it is given up if one of these did not succeed or if the run has halted, and
runs otherwise.
-/

namespace BackOffice

/-- Whether outcomes keep a group from running: a group that it comes after did not succeed. -/
def Blocks (dependencies : List Nat) (results : List (Nat × GroupOutcome)) : Bool :=
  dependencies.any fun d => !(results.lookup d).any fun o => o.status.satisfiesDependents

theorem blocks_append {dependencies : List Nat} {results : List (Nat × GroupOutcome)}
    (h : ∀ d ∈ dependencies, d ∈ results.map Prod.fst) (more : List (Nat × GroupOutcome)) :
    Blocks dependencies (results ++ more) = Blocks dependencies results := by
  simp only [Blocks]
  rw [Bool.eq_iff_iff, List.any_eq_true, List.any_eq_true]
  refine exists_congr fun d => and_congr_right fun hd => ?_
  obtain ⟨e, he, rfl⟩ := List.mem_map.1 (h d hd)
  have hsome : (results.lookup e.1).isSome = true := List.lookup_isSome_iff.2 ⟨e, he, by simp⟩
  rw [List.lookup_append, Option.or_of_isSome hsome]

/-- A group is kept from running by one that it comes after and that did not succeed. -/
theorem blocks_iff {dependencies : List Nat} {results : List (Nat × GroupOutcome)}
    (hnodup : (results.map Prod.fst).Nodup) (h : ∀ d ∈ dependencies, d ∈ results.map Prod.fst) :
    Blocks dependencies results = true ↔
      ∃ d, d ∈ dependencies ∧ ∃ o, (d, o) ∈ results ∧ o.status.satisfiesDependents = false := by
  rw [Blocks, List.any_eq_true]
  refine exists_congr fun d => and_congr_right fun hd => ?_
  obtain ⟨⟨d, o⟩, ho, rfl⟩ := List.mem_map.1 (h d hd)
  rw [lookup_of_mem hnodup ho, Option.any_some, Bool.not_eq_true']
  constructor
  · exact fun hnot => ⟨o, ho, hnot⟩
  · rintro ⟨o', ho', hnot⟩
    have hlookup := lookup_of_mem hnodup ho'
    rw [lookup_of_mem hnodup ho] at hlookup
    rwa [Option.some.inj hlookup]

/-- Whether groups were judged in turn, each by the outcomes of the groups before it. -/
inductive Founded (rules : RunRules) (dependencies : Nat → List Nat) : List (Nat × GroupOutcome) → Prop
  | nil : Founded rules dependencies []
  | ran {results : List (Nat × GroupOutcome)} {place : Nat} {o : GroupOutcome}
      (h : Founded rules dependencies results) (hnew : place ∉ results.map Prod.fst)
      (hjudged : ∀ d ∈ dependencies place, d ∈ results.map Prod.fst)
      (hclear : Blocks (dependencies place) results = false) (ho : o.status ≠ .skipped) :
      Founded rules dependencies (results ++ [(place, o)])
  | givenUp {results : List (Nat × GroupOutcome)} {place : Nat} {name : String}
      (h : Founded rules dependencies results) (hnew : place ∉ results.map Prod.fst)
      (hjudged : ∀ d ∈ dependencies place, d ∈ results.map Prod.fst)
      (hwhy : Blocks (dependencies place) results = true ∨
        rules.haltOnAuth = true ∧ ∃ e ∈ results, e.2.forceLogout = true) :
      Founded rules dependencies (results ++ [(place, .notStarted name .skipped)])

theorem GroupRun.status_ne_skipped (g : GroupRun) : g.status ≠ .skipped := by
  simp only [status]
  split
  · decide
  · split
    · decide
    · split <;> decide

namespace GraphRun

variable {rules : RunRules} {counter : EpochCounter} {graph : WorkflowGraph} {g g' : GraphRun}
  {due due' wave runnable rest : List Nat} {waves : List (List Nat)} {place : Nat} {group : GroupRun}

/-- How far a graph has got with its plan, when some groups are judged, some are due, and some waves are still to
come. -/
structure Paced (rules : RunRules) (graph : WorkflowGraph) (g : GraphRun) (due : List Nat)
    (waves : List (List Nat)) : Prop where
  groups : g.groups = graph.groups
  plan : g.plan = .of graph
  /-- The groups that are judged or due are those of the waves so far. -/
  places : ∃ front, g.plan.waves = front ++ waves ∧ (g.results.map Prod.fst ++ due).Perm front.flatten
  judged : ∀ i ∈ due, ∀ d ∈ g.plan.dependenciesAt i, d ∈ g.results.map Prod.fst
  founded : Founded rules g.plan.dependenciesAt g.results
  named : ∀ e ∈ g.results, e.2.name = (g.groupAt e.1).1
  halted : g.run.halted = (rules.haltOnAuth && g.results.any fun e => e.2.forceLogout)

/-- Whether nothing keeps groups from running. -/
def Clear (g : GraphRun) (due : List Nat) : Prop := ∀ i ∈ due, g.isBlocked i = false

/-- Where nothing keeps a group from running, all that it comes after has succeeded. -/
theorem Clear.satisfied (h : g.Clear due) {i d : Nat} (hi : i ∈ due) (hd : d ∈ g.plan.dependenciesAt i) :
    ∃ o, (d, o) ∈ g.results ∧ o.status.satisfiesDependents = true := by
  have hblocks : Blocks (g.plan.dependenciesAt i) g.results = false := h i hi
  rw [Blocks, List.any_eq_false] at hblocks
  have hany := hblocks d hd
  rw [Bool.not_eq_true, Bool.not_eq_false', Option.any_eq_true] at hany
  obtain ⟨o, hlookup, ho⟩ := hany
  obtain ⟨front, back, hresults, -⟩ := List.lookup_eq_some_iff.1 hlookup
  exact ⟨o, by simp [hresults], ho⟩

namespace Paced

theorem nodup (h : Paced rules graph g due waves) : (g.results.map Prod.fst ++ due).Nodup := by
  obtain ⟨front, hfront, hperm⟩ := h.places
  have hall : g.plan.waves.flatten.Nodup := by
    rw [h.plan]
    exact (Plan.perm_flatten_waves graph).nodup_iff.2 List.nodup_range
  rw [hfront, List.flatten_append] at hall
  exact hperm.nodup_iff.2 hall.of_append_left

/-- What is due is a group of the graph. -/
theorem lt_length (h : Paced rules graph g due waves) {i : Nat} (hi : i ∈ due) : i < graph.groups.length := by
  obtain ⟨front, hfront, hperm⟩ := h.places
  have hmem : i ∈ front.flatten := hperm.mem_iff.1 (List.mem_append_right _ hi)
  have hall : i ∈ g.plan.waves.flatten := by
    rw [hfront, List.flatten_append]
    exact List.mem_append_left _ hmem
  rw [h.plan] at hall
  exact List.mem_range.1 ((Plan.perm_flatten_waves graph).mem_iff.1 hall)

theorem perm (h : Paced rules graph g due waves) (hperm : due.Perm due') : Paced rules graph g due' waves :=
  { h with
    places := by
      obtain ⟨front, hfront, hplaces⟩ := h.places
      exact ⟨front, hfront, (hperm.symm.append_left _).trans hplaces⟩
    judged := fun i hi => h.judged i (hperm.mem_iff.2 hi) }

/-- What a group comes after stays judged. -/
theorem isBlocked_record (h : Paced rules graph g due waves) {i : Nat} (hi : i ∈ due)
    (hplan : g'.plan = g.plan) {more : List (Nat × GroupOutcome)} (hresults : g'.results = g.results ++ more) :
    g'.isBlocked i = g.isBlocked i := by
  have hblocks (g : GraphRun) : g.isBlocked i = Blocks (g.plan.dependenciesAt i) g.results := rfl
  rw [hblocks, hblocks, hplan, hresults, blocks_append (h.judged i hi)]

theorem isBlocked_giveUp (h : Paced rules graph g due waves) {i : Nat} (hi : i ∈ due) (place : Nat)
    (status : GroupStatus) : (g.giveUp place status).isBlocked i = g.isBlocked i :=
  @isBlocked_record _ _ g (g.giveUp place status) _ _ h i hi rfl [(place, .notStarted (g.groupAt place).1 status)] rfl

/-- One of the groups that are due is judged. -/
theorem record (h : Paced rules graph g (place :: due) waves) {o : GroupOutcome}
    (hgroups : g'.groups = g.groups) (hplan : g'.plan = g.plan) (hresults : g'.results = g.results ++ [(place, o)])
    (hname : o.name = (g.groupAt place).1)
    (hfounded : Founded rules g.plan.dependenciesAt (g.results ++ [(place, o)]))
    (hhalted : g'.run.halted = (g.run.halted || rules.haltOnAuth && o.forceLogout)) :
    Paced rules graph g' due waves where
  groups := hgroups.trans h.groups
  plan := hplan.trans h.plan
  places := by
    obtain ⟨front, hfront, hperm⟩ := h.places
    refine ⟨front, by rw [hplan, hfront], ?_⟩
    rwa [hresults, List.map_append, List.map_singleton, List.append_assoc, List.singleton_append]
  judged := by
    intro i hi d hd
    rw [hplan] at hd
    rw [hresults, List.map_append, List.mem_append]
    exact .inl (h.judged i (List.mem_cons_of_mem _ hi) d hd)
  founded := by rwa [hplan, hresults]
  named := by
    have hat (i : Nat) : g'.groupAt i = g.groupAt i := by rw [groupAt, groupAt, hgroups]
    intro e he
    rw [hresults, List.mem_append, List.mem_singleton] at he
    rw [hat]
    obtain he | rfl := he
    · exact h.named e he
    · exact hname
  halted := by
    rw [hhalted, h.halted, hresults, List.any_append, List.any_cons, List.any_nil, Bool.or_false,
      Bool.and_or_distrib_left]

/-- No group of those that are due first has been judged, and none of them is due twice. -/
theorem nodup_front {front back : List Nat} (h : Paced rules graph g (front ++ back) waves) :
    (g.results.map Prod.fst ++ front).Nodup := by
  have hnodup := h.nodup
  rw [← List.append_assoc] at hnodup
  exact hnodup.of_append_left

theorem notMem (h : Paced rules graph g (place :: due) waves) : place ∉ g.results.map Prod.fst := by
  have hnodup := h.nodup
  rw [List.nodup_append] at hnodup
  exact fun hmem => hnodup.2.2 place hmem place List.mem_cons_self rfl

theorem giveUp (h : Paced rules graph g (place :: due) waves)
    (hwhy : g.run.halted = true ∨ g.isBlocked place = true) :
    Paced rules graph (g.giveUp place .skipped) due waves := by
  refine h.record (o := .notStarted (g.groupAt place).1 .skipped) rfl rfl rfl rfl ?_ ?_
  · refine .givenUp h.founded h.notMem (h.judged place List.mem_cons_self) ?_
    obtain hhalted | hblocked := hwhy
    · rw [h.halted, Bool.and_eq_true, List.any_eq_true] at hhalted
      exact .inr hhalted
    · exact .inl hblocked
  · rw [GroupOutcome.notStarted, Bool.and_false, Bool.or_false]
    rfl

/-- A group that has come to its end is judged by what became of it. -/
theorem takeUp (h : Paced rules graph g (place :: due) waves) (hclear : g.isBlocked place = false)
    (hname : group.name = (g.groupAt place).1) (context : Context) :
    Paced rules graph
      ({ g with run := { g.run with context }.absorb rules true group.outcome }.record place group.outcome)
      due waves := by
  refine h.record (o := group.outcome) rfl rfl rfl hname ?_ ?_
  · exact .ran h.founded h.notMem (h.judged place List.mem_cons_self) hclear group.status_ne_skipped
  · rw [Bool.and_comm]
    rfl

/-- All groups of the next wave are due when those of the waves before are judged. -/
theorem nextWave (h : Paced rules graph g [] (wave :: waves)) : Paced rules graph g ([] ++ wave) waves := by
  obtain ⟨front, hfront, hperm⟩ := h.places
  rw [List.append_nil] at hperm
  exact { h with
    places := by
      refine ⟨front ++ [wave], by rw [hfront, List.append_assoc, List.singleton_append], ?_⟩
      rw [List.flatten_append, List.flatten_singleton]
      exact hperm.append_right _
    judged := by
      intro i hi d hd
      rw [h.plan] at hd hfront
      exact hperm.mem_iff.2 (Plan.mem_front_of_dependency hfront hi hd) }

/-- Opening a wave judges the groups that cannot run, and leaves the others. -/
theorem openWave {kept : List Nat} (h : Paced rules graph g (kept ++ wave) waves)
    (hstale : g.run.isStale counter = false) (hclear : g.Clear kept)
    (hopen : openWave counter wave g = (runnable, g')) :
    Paced rules graph g' (kept ++ runnable) waves ∧ g'.Clear (kept ++ runnable) ∧
      ∃ more, g'.results = g.results ++ more ∧ ∀ e ∈ more, e.2.status = .skipped := by
  induction wave generalizing g kept runnable with
  | nil =>
    obtain ⟨rfl, rfl⟩ := Prod.mk.inj hopen
    rw [List.append_nil] at h ⊢
    exact ⟨h, hclear, [], (List.append_nil _).symm, fun e he => absurd he List.not_mem_nil⟩
  | cons place rest ih =>
    simp only [GraphRun.openWave, refusal?, hstale, Bool.false_eq_true, if_false] at hopen
    by_cases hwhy : (g.run.halted || g.isBlocked place) = true
    · rw [if_pos hwhy] at hopen
      have hfirst := h.perm List.perm_middle
      have hclear' : (g.giveUp place .skipped).Clear kept := by
        intro i hi
        rw [h.isBlocked_giveUp (List.mem_append_left _ hi)]
        exact hclear i hi
      obtain ⟨hpaced, hclear'', more, hresults, hmore⟩ :=
        ih (hfirst.giveUp (by simpa using hwhy)) hstale hclear' hopen
      refine ⟨hpaced, hclear'', (place, .notStarted (g.groupAt place).1 .skipped) :: more, ?_, ?_⟩
      · rw [hresults, GraphRun.giveUp, GraphRun.record, List.append_assoc, List.singleton_append]
      · exact List.forall_mem_cons.2 ⟨rfl, hmore⟩
    · rw [if_neg hwhy] at hopen
      obtain ⟨rfl, rfl⟩ := Prod.mk.inj hopen
      rw [Bool.not_eq_true, Bool.or_eq_false_iff] at hwhy
      have hclear' : g.Clear (kept ++ [place]) :=
        List.forall_mem_append.2 ⟨hclear, List.forall_mem_singleton.2 hwhy.2⟩
      have hsplit (more : List Nat) : kept ++ place :: more = kept ++ [place] ++ more := by simp
      rw [hsplit] at h ⊢
      exact ih h hstale hclear' rfl

end Paced

/-- What is known of a graph when its next stage has just been opened. -/
structure Opened (rules : RunRules) (graph : WorkflowGraph) (before g : GraphRun) : Prop where
  paced : Paced rules graph g (g.atWork.map Prod.fst ++ g.rest) g.waves
  clear : g.Clear (g.atWork.map Prod.fst ++ g.rest)
  /-- The groups at work have not begun yet. -/
  fresh : ∀ e ∈ g.atWork, e.2 = g.groupRun e.1 g.base
  run : g.run = before.run
  /-- Nothing but groups that were given up has come to the outcomes. -/
  results : ∃ more, g.results = before.results ++ more ∧ ∀ e ∈ more, e.2.status = .skipped

theorem Paced.goOn (h : Paced rules graph g rest waves) (hstale : g.run.isStale counter = false)
    (hclear : g.Clear rest) : Opened rules graph g (goOn rules counter rest waves g) := by
  fun_induction GraphRun.goOn rules counter rest waves g with
  | case1 place rest waves g hs => rw [hstale] at hs; cases hs
  | case2 place rest waves g hs hhalted ih =>
    have hclear' : (g.giveUp place .skipped).Clear rest := by
      intro i hi
      rw [h.isBlocked_giveUp (List.mem_cons_of_mem _ hi)]
      exact hclear i (List.mem_cons_of_mem _ hi)
    have hopened := ih (h.giveUp (.inl hhalted)) hstale hclear'
    obtain ⟨more, hresults, hmore⟩ := hopened.results
    refine { hopened with results := ⟨(place, .notStarted (g.groupAt place).1 .skipped) :: more, ?_, ?_⟩ }
    · rw [hresults, GraphRun.giveUp, GraphRun.record, List.append_assoc, List.singleton_append]
    · exact List.forall_mem_cons.2 ⟨rfl, hmore⟩
  | case3 place rest waves g hs hhalted =>
    exact {
      paced := { h with }
      clear := hclear
      fresh := by
        intro e he
        obtain rfl := List.mem_singleton.1 he
        rfl
      run := rfl
      results := ⟨[], (List.append_nil _).symm, fun e he => absurd he List.not_mem_nil⟩ }
  | case4 g =>
    exact {
      paced := { h with }
      clear := hclear
      fresh := fun e he => absurd he List.not_mem_nil
      run := rfl
      results := ⟨[], (List.append_nil _).symm, fun e he => absurd he List.not_mem_nil⟩ }
  | case5 wave waves g runnable g' hopen hpar =>
    obtain ⟨hpaced, hclear', hresults⟩ := h.nextWave.openWave hstale hclear hopen
    have hplaces : (runnable.map fun i => (i, g'.groupRun i g'.run.context.snapshot)).map Prod.fst ++ [] =
        runnable := by
      rw [List.append_nil, List.map_map]
      exact List.map_id' runnable
    exact {
      paced := by
        change Paced rules graph _ ((runnable.map _).map Prod.fst ++ []) waves
        rw [hplaces]
        exact { hpaced with }
      clear := by
        change GraphRun.Clear _ ((runnable.map _).map Prod.fst ++ [])
        rw [hplaces]
        exact hclear'
      fresh := by
        intro e he
        obtain ⟨i, -, rfl⟩ := List.mem_map.1 he
        rfl
      run := (openWave_cases hopen).2.1
      results := hresults }
  | case6 wave waves g runnable g' hopen hpar ih =>
    obtain ⟨hpaced, hclear', more, hresults, hmore⟩ := h.nextWave.openWave hstale hclear hopen
    have hrun : g'.run = g.run := (openWave_cases hopen).2.1
    have hopened := ih hpaced (by rwa [hrun]) hclear'
    obtain ⟨more', hresults', hmore'⟩ := hopened.results
    exact { hopened with
      run := hopened.run.trans hrun
      results := ⟨more ++ more', by rw [hresults', hresults, List.append_assoc],
        List.forall_mem_append.2 ⟨hmore, hmore'⟩⟩ }

namespace Opened

variable {before : GraphRun} {e : Nat × GroupRun}

theorem mem_due (he : e ∈ g.atWork) : e.1 ∈ g.atWork.map Prod.fst ++ g.rest :=
  List.mem_append_left _ (List.mem_map_of_mem he)

/-- The groups that are set to work are groups of the graph, and have not begun. -/
theorem exists_group (h : Opened rules graph before g) (he : e ∈ g.atWork) :
    ∃ name group, graph.groups[e.1]? = some (name, group) ∧ e.2 = .of name g.run.epoch group g.base := by
  have hat := List.getElem?_eq_getElem (h.paced.lt_length (mem_due he))
  refine ⟨_, _, hat, ?_⟩
  rw [h.fresh e he, groupRun, groupAt, h.paced.groups, hat]
  rfl

/-- What they come after has run before the stage was opened. -/
theorem exists_judged (h : Opened rules graph before g) (he : e ∈ g.atWork) {d : Nat}
    (hd : d ∈ (Plan.of graph).dependenciesAt e.1) : ∃ o, (d, o) ∈ before.results ∧ o.status ≠ .skipped := by
  obtain ⟨more, hresults, hmore⟩ := h.results
  rw [← h.paced.plan] at hd
  obtain ⟨o, ho, hsatisfies⟩ := h.clear.satisfied (mem_due he) hd
  have hskipped : o.status ≠ .skipped := by
    intro hs
    rw [hs] at hsatisfies
    cases hsatisfies
  rw [hresults] at ho
  exact ⟨o, (List.mem_append.1 ho).resolve_right fun ho => hskipped (hmore _ ho), hskipped⟩

end Opened

/-! ### Closing a stage -/

/-- Whether groups are taken up one by one, each with what it wrote. -/
def TakesUp (rules : RunRules) (f : GraphRun → Nat × GroupRun → GraphRun) : Prop :=
  ∀ g e, ∃ context, f g e =
    { g with run := { g.run with context }.absorb rules true e.2.outcome }.record e.1 e.2.outcome

theorem takesUp_merge (rules : RunRules) : TakesUp rules fun g e => g.merge rules true e.1 e.2 :=
  fun _ _ => ⟨_, rfl⟩

theorem takesUp_takeUp (c : Conditions) : TakesUp c.rules fun g e => g.takeUp c e.1 e.2 :=
  fun _ _ => ⟨_, rfl⟩

/-- What is known of a graph when all groups of a stage have been taken up. -/
structure TakenUp (rules : RunRules) (graph : WorkflowGraph) (before : GraphRun)
    (groups : List (Nat × GroupRun)) (rest : List Nat) (waves : List (List Nat)) (g : GraphRun) : Prop where
  paced : Paced rules graph g rest waves
  clear : g.Clear rest
  results : g.results = before.results ++ groups.map fun e => (e.1, e.2.outcome)
  unstale : g.run.stale = false

theorem Paced.foldl {f : GraphRun → Nat × GroupRun → GraphRun} (hf : TakesUp rules f)
    {groups : List (Nat × GroupRun)} (h : Paced rules graph g (groups.map Prod.fst ++ rest) waves)
    (hclear : g.Clear (groups.map Prod.fst ++ rest)) (hnames : ∀ e ∈ groups, e.2.name = (g.groupAt e.1).1)
    (hstale : g.run.stale = false) (hfresh : ∀ e ∈ groups, e.2.stale = false) :
    TakenUp rules graph g groups rest waves (groups.foldl f g) := by
  induction groups generalizing g with
  | nil => exact ⟨h, hclear, (List.append_nil _).symm, hstale⟩
  | cons e groups ih =>
    obtain ⟨context, hcontext⟩ := hf g e
    rw [List.forall_mem_cons] at hnames hfresh
    have htaken : Paced rules graph (f g e) (groups.map Prod.fst ++ rest) waves := by
      rw [hcontext]
      exact Paced.takeUp h (hclear e.1 List.mem_cons_self) hnames.1 context
    have hresults : (f g e).results = g.results ++ [(e.1, e.2.outcome)] := by rw [hcontext]; rfl
    have hgroups : (f g e).groups = g.groups := by rw [hcontext]; rfl
    have hplan : (f g e).plan = g.plan := by rw [hcontext]; rfl
    have hclear' : (f g e).Clear (groups.map Prod.fst ++ rest) := by
      intro i hi
      rw [h.isBlocked_record (List.mem_cons_of_mem _ hi) hplan hresults]
      exact hclear i (List.mem_cons_of_mem _ hi)
    have hstale' : (f g e).run.stale = false := by
      rw [hcontext]
      exact @stale_absorb rules { g.run with context } e.2 hstale hfresh.1
    have hnames' : ∀ e' ∈ groups, e'.2.name = ((f g e).groupAt e'.1).1 := by
      intro e' he'
      rw [groupAt, hgroups, ← groupAt]
      exact hnames.2 e' he'
    have htail := ih htaken hclear' hnames' hstale' hfresh.2
    exact { htail with
      results := by
        rw [List.foldl_cons, htail.results, hresults, List.append_assoc, List.singleton_append, List.map_cons] }

/-- Once all groups of a stage are taken up, the rest of the wave is due. -/
theorem Paced.closed {c : Conditions} (h : Paced c.rules graph g (g.atWork.map Prod.fst ++ g.rest) g.waves)
    (hclear : g.Clear (g.atWork.map Prod.fst ++ g.rest)) (hnames : ∀ e ∈ g.atWork, e.2.name = (g.groupAt e.1).1)
    (hunstale : g.Unstale) :
    TakenUp c.rules graph g g.atWork g.rest g.waves (g.closed c g.atWork) := by
  have hbetween : Paced c.rules graph g.between (g.atWork.map Prod.fst ++ g.rest) g.waves := { h with }
  have htaken {f : GraphRun → Nat × GroupRun → GraphRun} (hf : TakesUp c.rules f) :
      TakenUp c.rules graph g.between g.atWork g.rest g.waves (g.atWork.foldl f g.between) :=
    hbetween.foldl hf hclear hnames hunstale.1 hunstale.2
  unfold GraphRun.closed
  split
  · exact { htaken (takesUp_merge c.rules) with }
  · exact { htaken (takesUp_takeUp c) with }
  next hs =>
    have hnil : g.atWork = [] := by simp only [atWork, hs]
    rw [hnil] at h hclear ⊢
    exact ⟨h, hclear, (List.append_nil _).symm, hunstale.1⟩

end GraphRun

end BackOffice
