import BackOffice.Proofs.Run.Flight

/-!
The order in which answers arrive does not matter. Whatever happens, a graph can be brought to its end,
and the end is always the same. The groups of a wave do not see each other's writes; once the wave is
over, every key has the last value that the last of them has written.
-/

namespace BackOffice

namespace GraphRun

variable {c : Conditions} {g g' : GraphRun}

/-- The value that the groups of a stage leave under a key: the last one that the last of them has
written. -/
def written? (g : GraphRun) (key : String) : Option Json :=
  g.atWork.reverse.findSome? fun e => (e.2.context.writesSince g.base.mark).reverse.lookup key

theorem context_foldl_merge (groups : List (Nat × GroupRun)) :
    (groups.foldl (fun g e => g.merge c.rules true e.1 e.2) g).run.context =
      g.run.context.apply (groups.flatMap fun e => e.2.context.writesSince 0) := by
  induction groups generalizing g with
  | nil => rfl
  | cons e rest ih =>
    rw [List.foldl_cons, ih, List.flatMap_cons, Context.apply_append]
    rfl

/-- The writes of the groups are made one group after another. -/
theorem context_closed
    (h : ∀ e ∈ g.atWork, ∃ writes, e.2.context = g.base.apply writes) :
    (g.closed c g.atWork).run.context =
      g.run.context.apply (g.atWork.flatMap fun e => e.2.context.writesSince g.base.mark) := by
  cases hs : g.stage with
  | together groups more =>
    simp only [closed, atWork, base, hs]
    exact context_foldl_merge groups
  | alone i group later more =>
    obtain ⟨writes, hwrites⟩ := h (i, group) (by simp [atWork, hs])
    simp only [base, hs] at hwrites
    simp only [closed, atWork, base, hs, List.foldl_cons, List.foldl_nil, List.flatMap_cons,
      List.flatMap_nil, List.append_nil, hwrites, Context.writesSince_apply]
    exact hwrites
  | finished =>
    simp only [closed, atWork, hs]
    rfl

theorem values_base (g : GraphRun) : g.base.values = g.run.context.values := by
  unfold base
  split <;> rfl

/-- A bound on the stages that are still to come, the present one included. -/
def left (g : GraphRun) : Nat :=
  if g.isFinished then 0 else g.rest.length + g.waves.flatten.length + 1

theorem left_goOn (rest : List Nat) (waves : List (List Nat)) :
    (goOn c.rules c.counter rest waves g).left ≤ rest.length + waves.flatten.length := by
  fun_induction goOn c.rules c.counter rest waves g with
  | case1 place rest waves g hstale ih =>
    rw [List.length_cons]
    omega
  | case2 place rest waves g hstale hhalted ih =>
    rw [List.length_cons]
    omega
  | case3 place rest waves g hstale hhalted =>
    have hleft : left { g with stage := .alone place (g.groupRun place g.run.context) rest waves } =
        rest.length + waves.flatten.length + 1 := rfl
    rw [hleft, List.length_cons]
    omega
  | case4 => exact Nat.zero_le _
  | case5 wave waves g runnable g' hopen hpar =>
    have hruns := (openWave_cases hopen).1.length_le
    have htwo : 1 < runnable.length := by
      rw [Bool.and_eq_true, decide_eq_true_eq] at hpar
      exact hpar.1
    rw [List.flatten_cons, List.length_append]
    change 0 + waves.flatten.length + 1 ≤ _
    omega
  | case6 wave waves g runnable g' hopen hpar ih =>
    have hruns := (openWave_cases hopen).1.length_le
    rw [List.flatten_cons, List.length_append]
    omega

/-- Whether a graph is in the same stage as before, with the same groups at work. -/
structure Alike (g g' : GraphRun) : Prop where
  rest : g'.rest = g.rest
  waves : g'.waves = g.waves
  finished : g'.isFinished = g.isFinished
  keys : g'.atWork.map Prod.fst = g.atWork.map Prod.fst

theorem Alike.trans {g'' : GraphRun} (h : Alike g g') (h' : Alike g' g'') : Alike g g'' :=
  ⟨h'.rest.trans h.rest, h'.waves.trans h.waves, h'.finished.trans h.finished, h'.keys.trans h.keys⟩

theorem Alike.left (h : Alike g g') : g'.left = g.left := by
  rw [GraphRun.left, GraphRun.left, h.rest, h.waves, h.finished]

theorem alike_put (place : Nat) (group : GroupRun) : Alike g (g.put place group) := by
  refine ⟨rest_put place group, waves_put place group, ?_, ?_⟩
  · cases h : g.stage with
    | together groups more => simp only [isFinished, put, h]
    | alone i old later more =>
      obtain ⟨group', h'⟩ := @stage_put_alone g i place old group later more h
      simp only [isFinished, h, h']
    | finished => simp only [isFinished, put, h]
  · rw [atWork_put, List.map_map]
    refine List.map_congr_left fun e _ => ?_
    rw [Function.comp_apply]
    split
    next heq => exact heq.symm
    next => rfl

end GraphRun

namespace Flight

variable {c : Conditions} {f : Flight} {place : Nat} {group : GroupRun}

theorem follow_append (moves more : List FlightMove) :
    f.follow c (moves ++ more) = (f.follow c moves).follow c more := List.foldl_append

/-- A group in a graph can do what it can do on its own, and leaves the others alone. -/
theorem follow_group (hf : f.Sound c) (h : f.graph.running? place = some group) (moves : List GroupMove) :
    (f.follow c (moves.map (.group place))).Sound c ∧
      GraphRun.Alike f.graph (f.follow c (moves.map (.group place))).graph ∧
      ∀ q, (f.follow c (moves.map (.group place))).graph.running? q =
        if q = place then some ((f.solo place group).follow c moves).group
        else f.graph.running? q := by
  induction moves generalizing f group with
  | nil =>
    refine ⟨hf, ⟨rfl, rfl, rfl, rfl⟩, fun q => ?_⟩
    split
    next heq => rw [heq]; exact h
    next => rfl
  | cons m rest ih =>
    have hrun := running?_move hf h m
    have hplace := hrun place
    rw [if_pos rfl] at hplace
    have halike : GraphRun.Alike f.graph (f.move c (.group place m)).graph := by
      rw [move_group hf h]
      exact GraphRun.alike_put _ _
    obtain ⟨hsound, halike', hrun'⟩ := ih (sound_group hf place m) hplace
    rw [solo_move_self hf h] at hrun'
    refine ⟨hsound, halike.trans halike', fun q => (hrun' q).trans ?_⟩
    by_cases hq : q = place
    · rw [if_pos hq, if_pos hq]
      rfl
    · rw [if_neg hq, if_neg hq, hrun q, if_neg hq]

/-- Any groups of a stage can be brought to their ends. -/
theorem exists_groups_finished (hf : f.Sound c) (places : List Nat) :
    ∃ moves, (f.follow c moves).Sound c ∧ GraphRun.Alike f.graph (f.follow c moves).graph ∧
      ∀ q ∈ places, ∀ group, (f.follow c moves).graph.running? q = some group →
        group.isFinished = true := by
  induction places with
  | nil => exact ⟨[], hf, ⟨rfl, rfl, rfl, rfl⟩, fun q hq => absurd hq List.not_mem_nil⟩
  | cons place rest ih =>
    obtain ⟨moves, hsound, halike, hfin⟩ := ih
    cases h : (f.follow c moves).graph.running? place with
    | none =>
      refine ⟨moves, hsound, halike, fun q hq group hgroup => ?_⟩
      rcases List.mem_cons.1 hq with rfl | hq
      · rw [h] at hgroup
        cases hgroup
      · exact hfin q hq group hgroup
    | some group =>
      obtain ⟨more, hmore⟩ := GroupFlight.exists_finished (sound_solo hsound h)
      obtain ⟨hsound', halike', hrun⟩ := follow_group hsound h more
      refine ⟨moves ++ more.map (.group place), ?_⟩
      rw [follow_append]
      refine ⟨hsound', halike.trans halike', fun q hq other hother => ?_⟩
      rw [hrun] at hother
      by_cases hp : q = place
      · rw [if_pos hp, Option.some.injEq] at hother
        rw [← hother]
        exact hmore
      · rw [if_neg hp] at hother
        exact hfin q ((List.mem_cons.1 hq).resolve_left hp) other hother

theorem active_eq_nil (hf : f.Sound c)
    (h : ∀ q ∈ f.graph.atWork.map Prod.fst, ∀ group, f.graph.running? q = some group →
      group.isFinished = true) : f.graph.active = [] := by
  rw [GraphRun.active_eq, List.map_eq_nil_iff, List.filter_eq_nil_iff]
  intro e he
  rw [h e.1 (List.mem_map_of_mem he) e.2 ((mem_atWork_iff hf).1 he)]
  exact Bool.false_ne_true

/-- A graph can be brought to its end from wherever it has got to. -/
theorem exists_finished (hf : f.Sound c) : ∃ moves, (f.follow c moves).graph.isFinished = true := by
  -- All groups of a stage can be brought to their ends; then the stage is closed, and fewer are left.
  induction hn : f.graph.left using Nat.strongRecOn generalizing f with
  | ind n ih =>
    by_cases hfin : f.graph.isFinished = true
    · exact ⟨[], hfin⟩
    · obtain ⟨moves, hsound, halike, hdone⟩ := exists_groups_finished hf (f.graph.atWork.map Prod.fst)
      rw [← halike.keys] at hdone
      have hactive := active_eq_nil hsound hdone
      have hleft : ((f.follow c moves).move c .close).graph.left < n := by
        rw [move_close hsound hactive, halike.rest, halike.waves, ← hn, GraphRun.left.eq_1 f.graph,
          if_neg hfin]
        exact Nat.lt_succ_of_le (GraphRun.left_goOn _ _)
      obtain ⟨more, hmore⟩ := ih _ hleft (sound_close hsound) rfl
      refine ⟨moves ++ .close :: more, ?_⟩
      rw [follow_append]
      exact hmore

/-! ### The groups of a wave -/

theorem exists_writes (hf : f.Sound c) (h : f.graph.running? place = some group) :
    ∃ writes, group.context = f.graph.base.apply writes := by
  obtain ⟨moves, hmoves⟩ := hf.solo place group h
  obtain ⟨writes, hwrites⟩ := @GroupFlight.exists_writes_follow c (fresh c f.graph place) moves
  rw [← hmoves] at hwrites
  exact ⟨writes, hwrites⟩

/-- What holds of the groups of a wave at any time. -/
structure Wavewise (c : Conditions) (f : Flight) : Prop where
  /-- The groups at work are all that runs of the wave, in the order of declaration. -/
  whole : f.graph.rest = []
  ordered : (f.graph.atWork.map Prod.fst).Pairwise (· < ·)
  /-- Each group is where some moves would have led it on its own, from the context before the wave. -/
  apart : ∀ q group, f.graph.running? q = some group →
    ∃ moves, f.solo q group = (fresh c f.graph q).follow c moves
  /-- So it sees the values from before the wave and its own writes. -/
  sees : ∀ q group, f.graph.running? q = some group → group.context.values =
    f.graph.run.context.values.putAll (group.context.writesSince f.graph.base.mark)
  /-- The context from before the wave stays as it is until the wave is over. -/
  before : ∀ q m, (f.move c (.group q m)).graph.run = f.graph.run
  /-- After the wave a key has the last value that the last of its writers wrote, or the one before. -/
  merged : f.graph.active = [] → ∀ key, (f.move c .close).graph.run.context.values.find? key =
    (f.graph.written? key).or (f.graph.run.context.values.find? key)

theorem run_move_group (hf : f.Sound c) (q : Nat) (m : GroupMove) :
    (f.move c (.group q m)).graph.run = f.graph.run := by
  cases h : f.graph.running? q with
  | none => rw [(move_group_none h m).1]
  | some group =>
    rw [move_group hf h]
    rfl

theorem find?_close (hf : f.Sound c) (h : f.graph.active = []) (key : String) :
    (f.move c .close).graph.run.context.values.find? key =
      (f.graph.written? key).or (f.graph.run.context.values.find? key) := by
  have hwrites : ∀ e ∈ f.graph.atWork, ∃ writes, e.2.context = f.graph.base.apply writes :=
    fun e he => exists_writes hf ((mem_atWork_iff hf).1 he)
  rw [move_close hf h, next, GraphRun.run_goOn, GraphRun.context_closed hwrites, Context.find?_apply,
    Context.lookup_reverse_flatMap]
  rfl

theorem wavewise (hf : f.Sound c) (hparallel : c.rules.parallel = true) : f.Wavewise c where
  whole := hf.whole hparallel
  ordered := hf.ordered
  apart := hf.solo
  sees := by
    intro q group h
    obtain ⟨writes, hwrites⟩ := exists_writes hf h
    rw [hwrites, Context.writesSince_apply, Context.values_apply, GraphRun.values_base]
  before := run_move_group hf
  merged := find?_close hf

/-- Whether a run can always be brought to its end, and ends in the same way whatever happens on the way:
with the same outcome, the same context, and the same requests of each group. -/
structure EndsIn (c : Conditions) (graph : WorkflowGraph) (run : Run) (outcome : GraphOutcome)
    (context : Context) (sent : Nat → List Call) : Prop where
  reached : ∀ moves, ∃ more, (((opening c graph run).follow c moves).follow c more).graph.isFinished = true
  outcome : ∀ moves, ((opening c graph run).follow c moves).graph.isFinished = true →
    ((opening c graph run).follow c moves).graph.outcome c.counter = outcome
  context : ∀ moves, ((opening c graph run).follow c moves).graph.isFinished = true →
    ((opening c graph run).follow c moves).graph.run.context = context
  sent : ∀ moves, ((opening c graph run).follow c moves).graph.isFinished = true →
    ((opening c graph run).follow c moves).sent = sent

theorem endsIn_fate {graph : WorkflowGraph} {run : Run} (hopening : (opening c graph run).Sound c) :
    EndsIn c graph run (((opening c graph run).fate c).1.outcome c.counter)
      ((opening c graph run).fate c).1.run.context ((opening c graph run).fate c).2 := by
  have hfate (moves : List FlightMove) (h : ((opening c graph run).follow c moves).graph.isFinished = true) :
      (opening c graph run).fate c = (((opening c graph run).follow c moves).graph,
        ((opening c graph run).follow c moves).sent) := by
    rw [← fate_of_isFinished h, fate_follow hopening]
  exact {
    reached := fun moves => exists_finished (sound_follow hopening moves)
    outcome := fun moves h => by rw [hfate moves h]
    context := fun moves h => by rw [hfate moves h]
    sent := fun moves h => by rw [hfate moves h] }

/-- With the groups of a wave side by side, the order in which answers arrive changes neither the outcome
of a graph nor its context, and each wave merges what its groups wrote apart from each other. -/
theorem same_end_in_every_order (c : Conditions) (graph : WorkflowGraph) (run : Run)
    (hparallel : c.rules.parallel = true) (hcurrent : c.counter.isCurrent run.epoch = true)
    (hplain : ∀ e ∈ graph.groups, ∀ s ∈ e.2.steps, s.Plain) :
    (∃ outcome context sent, EndsIn c graph run outcome context sent) ∧
      ∀ moves, ((opening c graph run).follow c moves).Wavewise c := by
  have hopening := sound_opening hcurrent hplain
  exact ⟨⟨_, _, _, endsIn_fate hopening⟩, fun moves => wavewise (sound_follow hopening moves) hparallel⟩

/-- Conditions under which every request succeeds, with the name of its workflow as data. -/
def echoing : Conditions :=
  { rules := {}, counter := ⟨1⟩, surroundings := ⟨.epoch, ⟨"id", 0⟩⟩,
    serve := fun request => .ok (.obj [("status", .ofNat 200),
      ("payload", .obj [("dataresponse", .obj [("data", .str request.workflow)])])]) }

/-- Two groups of one wave that write the same key, one of them with a step that is not awaited. -/
def writersGraph : WorkflowGraph :=
  ⟨[("first", ⟨[
      { workflow := "A", slot := some "k", awaited := false },
      { workflow := "B", slot := some "k" }]⟩),
    ("second", ⟨[{ workflow := "C", slot := some "k" }]⟩)]⟩

theorem writers_end_in_every_order :
    (Plan.of writersGraph).waves = [[0, 1]] ∧
      (∃ outcome context sent,
        EndsIn echoing writersGraph { epoch := 1, context := {} } outcome context sent) ∧
      ∀ moves, ((opening echoing writersGraph { epoch := 1, context := {} }).follow echoing moves).Wavewise
        echoing :=
  ⟨by decide +kernel, same_end_in_every_order echoing writersGraph { epoch := 1, context := {} } rfl rfl
    (by decide +kernel)⟩

end Flight

end BackOffice
