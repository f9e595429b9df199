import BackOffice.Proofs.Plan.Waves
import BackOffice.Proofs.Run.Carry
import BackOffice.Proofs.Run.GroupFlight
import Mathlib.Logic.Function.Basic

/-!
A graph with the requests of its groups out. Answers arrive in any order, the groups go on at any time,
and a stage is closed once its groups have all finished. As for a single group, no move changes where the
graph ends, and it can always be brought there.
-/

namespace BackOffice

/-- A graph on its way, with the requests that are out and those that were sent, group by group. -/
structure Flight where
  graph : GraphRun
  surroundings : Surroundings
  out : Nat → List Call := fun _ => []
  sent : Nat → List Call := fun _ => []

/-- What happens to a graph from outside: something happens to a group, or the stage is closed. -/
inductive FlightMove where
  | group (place : Nat) (move : GroupMove)
  | close

namespace Flight

/-- A graph whose next stage has just been opened. -/
def next (c : Conditions) (rest : List Nat) (waves : List (List Nat)) (g : GraphRun)
    (sent : Nat → List Call) : Flight :=
  { graph := .goOn c.rules c.counter rest waves g, surroundings := c.surroundings, sent }

/-- The graph of a run that is set to work. -/
def opening (c : Conditions) (graph : WorkflowGraph) (run : Run) : Flight :=
  { graph := .start c.rules c.counter graph run, surroundings := c.surroundings }

def move (c : Conditions) (f : Flight) : FlightMove → Flight
  | .group place .go =>
    let (graph, t) := f.graph.poll c.rules c.counter place { surroundings := f.surroundings }
    { graph
      surroundings := t.surroundings
      out := Function.update f.out place (f.out place ++ t.calls)
      sent := Function.update f.sent place (f.sent place ++ t.calls) }
  | .group place (.arrive index) => match (f.out place).find? (·.index = index) with
    | none => f
    | some call =>
      { f with
        graph := f.graph.deliver place index (c.serve call.request)
        out := Function.update f.out place ((f.out place).filter (·.index ≠ index)) }
  | .close =>
    if f.graph.active.isEmpty then
      { f with graph := f.graph.close c.rules c.counter, out := fun _ => [] }
    else f

/-- Moves, one after another. -/
def follow (c : Conditions) (f : Flight) (moves : List FlightMove) : Flight := moves.foldl (move c) f

/-- One group of a graph, as if it were on its own. -/
def solo (f : Flight) (place : Nat) (group : GroupRun) : GroupFlight := ⟨group, f.surroundings, f.out place⟩

/-- A group as it was when its stage was opened. -/
def fresh (c : Conditions) (g : GraphRun) (place : Nat) : GroupFlight :=
  ⟨g.groupRun place g.base, c.surroundings, []⟩

/-- Where the groups of the stage end. -/
def ends (c : Conditions) (f : Flight) : List (Nat × GroupRun) :=
  f.graph.atWork.map fun e => (e.1, ((f.solo e.1 e.2).fate c).1)

/-- What the group at a place still sends in the stage. -/
def future (c : Conditions) (f : Flight) (place : Nat) : List Call :=
  match f.graph.running? place with
  | some group => ((f.solo place group).fate c).2
  | none => []

/-- Where a graph ends, and all that its groups send until then. -/
def fate (c : Conditions) (f : Flight) : GraphRun × (Nat → List Call) :=
  let (g, more) := GraphRun.carry c f.graph.rest f.graph.waves (f.graph.closed c (f.ends c))
  (g, fun q => f.sent q ++ f.future c q ++ more q)

/-- Nothing that a graph waits for gets lost, and the groups of a stage have nothing to do with each
other. -/
structure Sound (c : Conditions) (f : Flight) : Prop where
  current : c.counter.isCurrent f.graph.run.epoch = true
  still : f.surroundings = c.surroundings
  plain : ∀ e ∈ f.graph.groups, ∀ s ∈ e.2.steps, s.Plain
  waves : ∀ wave ∈ f.graph.waves, wave.Pairwise (· < ·)
  ordered : (f.graph.atWork.map Prod.fst).Pairwise (· < ·)
  whole : c.rules.parallel = true → f.graph.rest = []
  solo : ∀ q group, f.graph.running? q = some group →
    ∃ moves, f.solo q group = (fresh c f.graph q).follow c moves

variable {c : Conditions} {f f' : Flight} {place : Nat} {group : GroupRun}

/-! ### One move of a group -/

theorem mem_atWork_iff (hf : f.Sound c) {e : Nat × GroupRun} :
    e ∈ f.graph.atWork ↔ f.graph.running? e.1 = some e.2 := by
  rw [GraphRun.running?_eq]
  refine ⟨lookup_of_mem (hf.ordered.imp Nat.ne_of_lt), fun h => ?_⟩
  rw [← GraphRun.running?_eq] at h
  exact GraphRun.mem_atWork_of_running? h

theorem put_self (hf : f.Sound c) (h : f.graph.running? place = some group) :
    f.graph.put place group = f.graph := GraphRun.put_self (hf.ordered.imp Nat.ne_of_lt) h

/-- A move of a group in a graph is the move of the group on its own. -/
theorem move_group (hf : f.Sound c) (h : f.graph.running? place = some group) (m : GroupMove) :
    f.move c (.group place m) =
      { graph := f.graph.put place ((f.solo place group).move c m).group
        surroundings := ((f.solo place group).move c m).surroundings
        out := Function.update f.out place ((f.solo place group).move c m).out
        sent := Function.update f.sent place (f.sent place ++ (f.solo place group).sends c m) } := by
  cases m with
  | go =>
    simp only [move, GraphRun.poll, h, hf.current]
    rfl
  | arrive index =>
    have hsent : Function.update f.sent place (f.sent place ++ []) = f.sent := by
      rw [List.append_nil, Function.update_eq_self]
    simp only [GroupFlight.sends, hsent]
    cases hfind : (f.out place).find? (·.index = index) with
    | none =>
      have hmove : (f.solo place group).move c (.arrive index) = f.solo place group := by
        simp only [GroupFlight.move, solo, hfind]
      simp only [move, hfind, hmove]
      rw [solo, Function.update_eq_self, put_self hf h]
    | some call =>
      have hmove : (f.solo place group).move c (.arrive index) =
          { f.solo place group with
            group := group.deliver index (c.serve call.request)
            out := (f.out place).filter (·.index ≠ index) } := by
        simp only [GroupFlight.move, solo, hfind]
      simp only [move, hfind, hmove, GraphRun.deliver, h]
      rfl

/-- A place where no group runs is none of a graph's business. -/
theorem move_group_none (h : f.graph.running? place = none) (m : GroupMove) :
    (f.move c (.group place m)).graph = f.graph ∧
      (f.move c (.group place m)).surroundings = f.surroundings ∧
      (f.move c (.group place m)).sent = f.sent ∧
      ∀ q ≠ place, (f.move c (.group place m)).out q = f.out q := by
  cases m with
  | go =>
    simp only [move, GraphRun.poll, h, List.append_nil, Function.update_eq_self]
    exact ⟨trivial, trivial, trivial, fun _ _ => trivial⟩
  | arrive index =>
    cases hfind : (f.out place).find? (·.index = index) with
    | none => simp [move, hfind]
    | some call =>
      simp only [move, hfind, GraphRun.deliver, h]
      exact ⟨trivial, trivial, trivial, fun q hq => Function.update_of_ne hq _ _⟩

theorem sound_fresh {g : GraphRun} (h : ∀ e ∈ g.groups, ∀ s ∈ e.2.steps, s.Plain) (place : Nat) :
    (fresh c g place).Sound c := by
  have hplain : ∀ s ∈ (g.groupAt place).2.steps, s.Plain := by
    intro s hs
    rw [GraphRun.groupAt] at hs
    cases hg : g.groups[place]? with
    | none => simp [hg] at hs
    | some e =>
      rw [hg] at hs
      exact h e (List.mem_of_getElem? hg) s hs
  refine ⟨rfl, fun e he => ?_, fun i hi => absurd hi List.not_mem_nil⟩
  obtain ⟨s, hs, rfl⟩ := List.mem_map.1 he
  exact hplain s.1 (List.fst_mem_of_mem_zipIdx hs)

theorem sound_solo (hf : f.Sound c) (h : f.graph.running? place = some group) :
    (f.solo place group).Sound c := by
  obtain ⟨moves, hmoves⟩ := hf.solo place group h
  rw [hmoves]
  exact GroupFlight.sound_follow (sound_fresh hf.plain place) moves

theorem solo_move_self (hf : f.Sound c) (h : f.graph.running? place = some group) (m : GroupMove) :
    (f.move c (.group place m)).solo place ((f.solo place group).move c m).group =
      (f.solo place group).move c m := by
  rw [move_group hf h, solo]
  simp only [Function.update_self]

theorem solo_move_of_ne (hf : f.Sound c) (h : f.graph.running? place = some group) (m : GroupMove)
    {q : Nat} (hq : q ≠ place) (other : GroupRun) :
    (f.move c (.group place m)).solo q other = f.solo q other := by
  have hstill : ((f.solo place group).move c m).surroundings = f.surroundings := by
    rw [(GroupFlight.sound_move (sound_solo hf h) m).still, hf.still]
  have hout : (f.move c (.group place m)).out q = f.out q := by
    rw [move_group hf h]
    exact Function.update_of_ne hq _ _
  have hsurroundings : (f.move c (.group place m)).surroundings = f.surroundings := by
    rw [move_group hf h]
    exact hstill
  rw [solo, hout, hsurroundings, solo]

theorem running?_move (hf : f.Sound c) (h : f.graph.running? place = some group) (m : GroupMove) (q : Nat) :
    (f.move c (.group place m)).graph.running? q =
      if q = place then some ((f.solo place group).move c m).group else f.graph.running? q := by
  rw [move_group hf h, GraphRun.running?_eq, GraphRun.atWork_put, lookup_replace,
    ← GraphRun.running?_eq, ← GraphRun.running?_eq, h]
  rfl

/-! ### Where a graph ends -/

theorem fate_congr (hrest : f'.graph.rest = f.graph.rest) (hwaves : f'.graph.waves = f.graph.waves)
    (hclosed : f'.graph.closed c (f'.ends c) = f.graph.closed c (f.ends c))
    (hsent : ∀ q, f'.sent q ++ f'.future c q = f.sent q ++ f.future c q) :
    f'.fate c = f.fate c := by
  simp only [fate, hrest, hwaves, hclosed, hsent]

theorem solo_move_none (h : f.graph.running? place = none) (m : GroupMove) {q : Nat} {other : GroupRun}
    (hq : f.graph.running? q = some other) :
    (f.move c (.group place m)).solo q other = f.solo q other := by
  obtain ⟨-, hstill, -, hout⟩ := @move_group_none c f place h m
  have hne : q ≠ place := by
    rintro rfl
    rw [h] at hq
    cases hq
  rw [solo, hstill, hout q hne, solo]

theorem fate_group_none (hf : f.Sound c) (h : f.graph.running? place = none) (m : GroupMove) :
    (f.move c (.group place m)).fate c = f.fate c := by
  obtain ⟨hgraph, -, hsent, -⟩ := @move_group_none c f place h m
  have hends : (f.move c (.group place m)).ends c = f.ends c := by
    rw [ends, hgraph]
    exact List.map_congr_left fun e he => by rw [solo_move_none h m ((mem_atWork_iff hf).1 he)]
  refine fate_congr (by rw [hgraph]) (by rw [hgraph]) (by rw [hgraph, hends]) fun q => ?_
  rw [hsent, future, hgraph, future]
  cases hq : f.graph.running? q with
  | none => rfl
  | some other => simp only [solo_move_none h m hq]

theorem fate_group_some (hf : f.Sound c) (h : f.graph.running? place = some group) (m : GroupMove) :
    (f.move c (.group place m)).fate c = f.fate c := by
  -- The group that moves ends where it did, and no other group has moved.
  have hfate := GroupFlight.fate_move (sound_solo hf h) m
  have hgraph : (f.move c (.group place m)).graph =
      f.graph.put place ((f.solo place group).move c m).group := by rw [move_group hf h]
  have hends : (f.move c (.group place m)).ends c = f.ends c := by
    rw [ends, hgraph, GraphRun.atWork_put, List.map_map]
    refine List.map_congr_left fun e he => ?_
    rw [Function.comp_apply]
    split
    next heq =>
      have hgroup : e.2 = group := by
        rw [mem_atWork_iff hf, heq, h] at he
        exact (Option.some.inj he).symm
      rw [solo_move_self hf h, heq, hgroup, hfate]
    next hne => rw [solo_move_of_ne hf h m hne]
  refine fate_congr (by rw [hgraph, GraphRun.rest_put]) (by rw [hgraph, GraphRun.waves_put])
    (by rw [hgraph, GraphRun.closed_put, hends]) fun q => ?_
  have hsent : (f.move c (.group place m)).sent =
      Function.update f.sent place (f.sent place ++ (f.solo place group).sends c m) := by
    rw [move_group hf h]
  rw [future, running?_move hf h, future, hsent]
  by_cases hq : q = place
  · subst hq
    simp only [if_true, h, Function.update_self]
    rw [solo_move_self hf h, hfate, List.append_assoc]
  · rw [if_neg hq, Function.update_of_ne hq]
    cases f.graph.running? q with
    | none => rfl
    | some other => simp only [solo_move_of_ne hf h m hq]

/-- No move of a group changes where the graph ends, nor what its groups send until then. -/
theorem fate_group (hf : f.Sound c) (place : Nat) (m : GroupMove) :
    (f.move c (.group place m)).fate c = f.fate c := by
  cases h : f.graph.running? place with
  | none => exact fate_group_none hf h m
  | some group => exact fate_group_some hf h m

/-! ### What stays sound -/

theorem fresh_put (other : GroupRun) (q : Nat) : fresh c (f.graph.put place other) q = fresh c f.graph q := by
  rw [fresh, fresh, GraphRun.base_put]
  rfl

theorem sound_group_some (hf : f.Sound c) (h : f.graph.running? place = some group) (m : GroupMove) :
    (f.move c (.group place m)).Sound c := by
  have hgraph : (f.move c (.group place m)).graph =
      f.graph.put place ((f.solo place group).move c m).group := by rw [move_group hf h]
  have hkeys : (f.move c (.group place m)).graph.atWork.map Prod.fst = f.graph.atWork.map Prod.fst := by
    rw [hgraph, GraphRun.atWork_put, List.map_map]
    refine List.map_congr_left fun e _ => ?_
    rw [Function.comp_apply]
    split
    next heq => exact heq.symm
    next => rfl
  exact {
    current := by rw [hgraph]; exact hf.current
    still := by
      rw [move_group hf h]
      exact (GroupFlight.sound_move (sound_solo hf h) m).still
    plain := by rw [hgraph]; exact hf.plain
    waves := by rw [hgraph, GraphRun.waves_put]; exact hf.waves
    ordered := by rw [hkeys]; exact hf.ordered
    whole := by rw [hgraph, GraphRun.rest_put]; exact hf.whole
    solo := by
      intro q other hq
      rw [hgraph, fresh_put]
      rw [running?_move hf h] at hq
      by_cases hp : q = place
      · subst hp
        rw [if_pos rfl, Option.some.injEq] at hq
        obtain ⟨moves, hmoves⟩ := hf.solo q group h
        refine ⟨moves ++ [m], ?_⟩
        rw [← hq, solo_move_self hf h, hmoves, GroupFlight.follow, GroupFlight.follow, List.foldl_append]
        rfl
      · rw [if_neg hp] at hq
        obtain ⟨moves, hmoves⟩ := hf.solo q other hq
        exact ⟨moves, by rw [solo_move_of_ne hf h m hp, hmoves]⟩ }

theorem sound_group_none (hf : f.Sound c) (h : f.graph.running? place = none) (m : GroupMove) :
    (f.move c (.group place m)).Sound c := by
  obtain ⟨hgraph, hstill, -, -⟩ := @move_group_none c f place h m
  exact {
    current := by rw [hgraph]; exact hf.current
    still := by rw [hstill]; exact hf.still
    plain := by rw [hgraph]; exact hf.plain
    waves := by rw [hgraph]; exact hf.waves
    ordered := by rw [hgraph]; exact hf.ordered
    whole := by rw [hgraph]; exact hf.whole
    solo := by
      intro q other hq
      rw [hgraph] at hq ⊢
      rw [solo_move_none h m hq]
      exact hf.solo q other hq }

theorem sound_group (hf : f.Sound c) (place : Nat) (m : GroupMove) :
    (f.move c (.group place m)).Sound c := by
  cases h : f.graph.running? place with
  | none => exact sound_group_none hf h m
  | some group => exact sound_group_some hf h m

/-! ### The next stage -/

theorem fate_fresh (group : GroupRun) (around : Surroundings) (h : group.answers = []) :
    (⟨group, around, []⟩ : GroupFlight).fate c = group.ending c .nothing := by
  have hknown : (⟨group, around, []⟩ : GroupFlight).known c = Known.nothing := by
    rw [GroupFlight.known, Known.learn_nil, h]
    rfl
  rw [GroupFlight.fate, hknown]

/-- A stage that has just been opened ends where the graph ends when every answer comes at once. -/
theorem fate_next (rest : List Nat) (waves : List (List Nat)) (g : GraphRun) (sent : Nat → List Call) :
    (next c rest waves g sent).fate c =
      ((GraphRun.carry c rest waves g.between).1,
        fun q => sent q ++ (GraphRun.carry c rest waves g.between).2 q) := by
  unfold next
  fun_induction GraphRun.goOn c.rules c.counter rest waves g with
  | case1 place rest waves g hstale ih =>
    rw [ih, GraphRun.carry, if_pos (show g.between.run.isStale c.counter = true from hstale)]
    rfl
  | case2 place rest waves g hstale hhalted ih =>
    rw [ih, GraphRun.carry, if_neg (show ¬ g.between.run.isStale c.counter = true from hstale),
      if_pos (show g.between.run.halted = true from hhalted)]
    rfl
  | case3 place rest waves g hstale hhalted =>
    rw [GraphRun.carry, if_neg (show ¬ g.between.run.isStale c.counter = true from hstale),
      if_neg (show ¬ g.between.run.halted = true from hhalted)]
    have hsolo := @fate_fresh c (g.groupRun place g.run.context) c.surroundings rfl
    simp only [fate, GraphRun.rest, GraphRun.waves, GraphRun.closed, ends, GraphRun.atWork, solo,
      List.map_cons, List.map_nil, List.foldl_cons, List.foldl_nil, hsolo, future, GraphRun.running?]
    refine Prod.ext rfl (funext fun q => ?_)
    by_cases hq : q = place
    · subst hq
      simp only [if_true, hsolo, List.append_assoc]
      rfl
    · simp only [if_neg hq, if_neg (Ne.symm hq), List.append_nil, List.nil_append]
      rfl
  | case4 =>
    rw [GraphRun.carry]
    simp [fate, GraphRun.rest, GraphRun.waves, GraphRun.closed, future, GraphRun.running?,
      GraphRun.carry, GraphRun.between]
  | case5 wave waves g runnable g' hopen hpar =>
    have hsolo (i : Nat) := @fate_fresh c (g'.groupRun i g'.run.context.snapshot) c.surroundings rfl
    rw [GraphRun.carry]
    simp only [GraphRun.openWave_between, hopen, hpar, if_true]
    simp only [fate, GraphRun.rest, GraphRun.waves, GraphRun.closed, ends, GraphRun.atWork, solo,
      List.map_map, List.foldl_map, Function.comp_def, hsolo, future, GraphRun.running?]
    refine Prod.ext rfl (funext fun q => ?_)
    dsimp only
    rw [lookup_map_self, lookup_map_self, List.append_assoc]
    by_cases hq : q ∈ runnable
    · simp only [if_pos hq, hsolo]
      rfl
    · simp only [if_neg hq]
      rfl
  | case6 wave waves g runnable g' hopen hpar ih =>
    rw [ih, GraphRun.carry]
    simp only [GraphRun.openWave_between, hopen, hpar]
    rfl

theorem sound_alone {g : GraphRun} (hcurrent : c.counter.isCurrent g.run.epoch = true)
    (hplain : ∀ e ∈ g.groups, ∀ s ∈ e.2.steps, s.Plain) {rest : List Nat} {waves : List (List Nat)}
    (hwaves : ∀ wave ∈ waves, wave.Pairwise (· < ·)) (hrest : c.rules.parallel = true → rest = [])
    (place : Nat) (sent : Nat → List Call) :
    Sound c {
      graph := { g with stage := .alone place (g.groupRun place g.run.context) rest waves }
      surroundings := c.surroundings
      sent } where
  current := hcurrent
  still := rfl
  plain := hplain
  waves := hwaves
  ordered := List.pairwise_singleton _ _
  whole := hrest
  solo := by
    intro q group hq
    simp only [GraphRun.running?] at hq
    split at hq
    next heq =>
      cases hq
      subst heq
      exact ⟨[], rfl⟩
    next => cases hq

theorem sound_together {g : GraphRun} (hcurrent : c.counter.isCurrent g.run.epoch = true)
    (hplain : ∀ e ∈ g.groups, ∀ s ∈ e.2.steps, s.Plain) {runnable : List Nat} {waves : List (List Nat)}
    (hwaves : ∀ wave ∈ waves, wave.Pairwise (· < ·)) (hordered : runnable.Pairwise (· < ·))
    (sent : Nat → List Call) :
    Sound c {
      graph := { g with
        stage := .together (runnable.map fun i => (i, g.groupRun i g.run.context.snapshot)) waves }
      surroundings := c.surroundings
      sent } where
  current := hcurrent
  still := rfl
  plain := hplain
  waves := hwaves
  ordered := by
    simp only [GraphRun.atWork, List.map_map, Function.comp_def, List.map_id']
    exact hordered
  whole := fun _ => rfl
  solo := by
    intro q group hq
    simp only [GraphRun.running?, lookup_map_self] at hq
    split at hq
    · cases hq
      exact ⟨[], rfl⟩
    · cases hq

theorem sound_next {g : GraphRun} (hcurrent : c.counter.isCurrent g.run.epoch = true)
    (hplain : ∀ e ∈ g.groups, ∀ s ∈ e.2.steps, s.Plain) (rest : List Nat) (waves : List (List Nat))
    (hwaves : ∀ wave ∈ waves, wave.Pairwise (· < ·)) (hrest : c.rules.parallel = true → rest.length ≤ 1)
    (sent : Nat → List Call) : (next c rest waves g sent).Sound c := by
  -- Side by side, at most one group of a wave is ever left to run alone.
  have hfewer {i : Nat} {rest : List Nat} (h : c.rules.parallel = true → (i :: rest).length ≤ 1)
      (hpar : c.rules.parallel = true) : rest = [] :=
    List.length_eq_zero_iff.1 (Nat.le_zero.1 (Nat.le_of_succ_le_succ (h hpar)))
  unfold next
  fun_induction GraphRun.goOn c.rules c.counter rest waves g with
  | case1 place rest waves g hstale ih =>
    refine ih hcurrent hplain hwaves fun hpar => ?_
    rw [hfewer hrest hpar]
    exact Nat.zero_le 1
  | case2 place rest waves g hstale hhalted ih =>
    refine ih hcurrent hplain hwaves fun hpar => ?_
    rw [hfewer hrest hpar]
    exact Nat.zero_le 1
  | case3 place rest waves g hstale hhalted =>
    exact sound_alone hcurrent hplain hwaves (hfewer hrest) place sent
  | case4 =>
    exact {
      current := hcurrent
      still := rfl
      plain := hplain
      waves := fun _ h => absurd h List.not_mem_nil
      ordered := .nil
      whole := fun _ => rfl
      solo := fun q group hq => by cases hq }
  | case5 wave waves g runnable g' hopen hpar =>
    obtain ⟨hsub, hrun, hgroups⟩ := GraphRun.openWave_cases hopen
    rw [List.forall_mem_cons] at hwaves
    exact sound_together (by rwa [hrun]) (by rwa [hgroups]) hwaves.2 (hwaves.1.sublist hsub) sent
  | case6 wave waves g runnable g' hopen hpar ih =>
    obtain ⟨-, hrun, hgroups⟩ := GraphRun.openWave_cases hopen
    rw [List.forall_mem_cons] at hwaves
    refine ih (by rwa [hrun]) (by rwa [hgroups]) hwaves.2 fun h => ?_
    simp only [h, Bool.and_true, decide_eq_true_eq] at hpar
    omega

/-! ### Closing a stage -/

theorem fate_solo_of_finished (h : group.isFinished = true) (q : Nat) :
    (f.solo q group).fate c = (group.bare, []) := GroupRun.ending_of_isFinished h

theorem ends_of_finished (h : f.graph.active = []) :
    f.ends c = f.graph.atWork.map fun e => (e.1, e.2.bare) := by
  refine List.map_congr_left fun e he => ?_
  rw [fate_solo_of_finished (GraphRun.isFinished_of_active_eq_nil h he)]

theorem future_of_finished (h : f.graph.active = []) (q : Nat) : f.future c q = [] := by
  rw [future]
  cases hq : f.graph.running? q with
  | none => rfl
  | some group =>
    have hfin := GraphRun.isFinished_of_active_eq_nil h (GraphRun.mem_atWork_of_running? hq)
    simp only [fate_solo_of_finished hfin]

theorem move_close (hf : f.Sound c) (h : f.graph.active = []) :
    f.move c .close =
      next c f.graph.rest f.graph.waves (f.graph.closed c f.graph.atWork) f.sent := by
  simp only [move, h, List.isEmpty_nil, if_true, next]
  rw [GraphRun.close_eq hf.current h, hf.still]

/-- Closing a stage does not change where the graph ends, nor what its groups send until then. -/
theorem fate_close (hf : f.Sound c) : (f.move c .close).fate c = f.fate c := by
  by_cases h : f.graph.active = []
  · have hbetween := GraphRun.between_of_finished (@GraphRun.stage_closed c f.graph f.graph.atWork)
    rw [move_close hf h, fate_next, hbetween]
    simp only [fate, ends_of_finished h, future_of_finished h, GraphRun.closed_bare, List.append_nil]
  · have hmove : f.move c .close = f := by
      simp only [move, List.isEmpty_iff, if_neg h]
    rw [hmove]

theorem sound_close (hf : f.Sound c) : (f.move c .close).Sound c := by
  by_cases h : f.graph.active = []
  · rw [move_close hf h]
    apply sound_next
    · rw [GraphRun.epoch_closed]
      exact hf.current
    · rw [GraphRun.groups_closed]
      exact hf.plain
    · exact hf.waves
    · intro hpar
      rw [hf.whole hpar]
      exact Nat.zero_le 1
  · have hmove : f.move c .close = f := by
      simp only [move, List.isEmpty_iff, if_neg h]
    rw [hmove]
    exact hf

/-! ### Every course of moves -/

theorem sound_move (hf : f.Sound c) (m : FlightMove) : (f.move c m).Sound c := by
  cases m with
  | group place m => exact sound_group hf place m
  | close => exact sound_close hf

theorem fate_move (hf : f.Sound c) (m : FlightMove) : (f.move c m).fate c = f.fate c := by
  cases m with
  | group place m => exact fate_group hf place m
  | close => exact fate_close hf

theorem sound_follow (hf : f.Sound c) (moves : List FlightMove) : (f.follow c moves).Sound c := by
  induction moves generalizing f with
  | nil => exact hf
  | cons m rest ih => exact ih (sound_move hf m)

theorem fate_follow (hf : f.Sound c) (moves : List FlightMove) : (f.follow c moves).fate c = f.fate c := by
  induction moves generalizing f with
  | nil => rfl
  | cons m rest ih => exact (ih (sound_move hf m)).trans (fate_move hf m)

/-- A graph that has finished is where it ends. -/
theorem fate_of_isFinished (h : f.graph.isFinished = true) : f.fate c = (f.graph, f.sent) := by
  have hstage := GraphRun.stage_of_isFinished h
  have hbetween := GraphRun.between_of_finished hstage
  simp only [fate, GraphRun.rest, GraphRun.waves, GraphRun.closed, future, GraphRun.running?, hstage]
  rw [GraphRun.carry, hbetween]
  simp

theorem sound_opening {graph : WorkflowGraph} {run : Run}
    (hcurrent : c.counter.isCurrent run.epoch = true)
    (hplain : ∀ e ∈ graph.groups, ∀ s ∈ e.2.steps, s.Plain) : (opening c graph run).Sound c := by
  exact sound_next hcurrent hplain [] (Plan.of graph).waves (fun _ h => Plan.pairwise_lt_of_mem_waves h)
    (fun _ => Nat.zero_le 1) _

end Flight

end BackOffice
