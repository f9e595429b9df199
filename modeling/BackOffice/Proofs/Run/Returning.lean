import BackOffice.Proofs.Run.Underway

/-!
A graph comes to its end. As long as no newer run begins and every request is answered at some time, something can
always happen until the graph is finished, and whatever happens brings it nearer to its end.
-/

namespace BackOffice

namespace GroupRun

/-- Whether a group can go on: it has the answer that it waits for. -/
def isReady (g : GroupRun) : Bool := !g.isFinished && g.needs?.all fun i => (g.answers.lookup i).isSome

variable {rules : RunRules} {g : GroupRun} {t : Trace}

/-- A group that cannot go on stays where it is. -/
theorem poll_of_not_isReady (h : g.isReady = false) : g.poll rules true t = (g, t) := by
  rw [isReady, Bool.and_eq_false_iff, Bool.not_eq_false'] at h
  cases hs : g.stage with
  | starting rest => simp [isFinished, needs?, hs] at h
  | awaiting i s rest =>
    have hnone : g.answers.lookup i = none := by simpa [isFinished, needs?, hs] using h
    simp only [poll, hs, hnone]
  | joining rest =>
    cases rest with
    | nil => simp [isFinished, needs?, hs] at h
    | cons entry rest =>
      have hnone : g.answers.lookup entry.1 = none := by simpa [isFinished, needs?, hs] using h
      simp only [poll, hs, join, hnone]
      rw [← hs]
  | finished => simp only [poll, hs]

end GroupRun

namespace GraphRun

variable {g : GraphRun} {place : Nat} {group group' : GroupRun}

theorem running?_of_mem (hnodup : (g.atWork.map Prod.fst).Nodup) {e : Nat × GroupRun} (he : e ∈ g.atWork) :
    g.running? e.1 = some e.2 := by
  rw [running?_eq]
  exact lookup_of_mem hnodup he

theorem eq_of_running? (hnodup : (g.atWork.map Prod.fst).Nodup) (h : g.running? place = some group)
    {e : Nat × GroupRun} (he : e ∈ g.atWork) (hplace : e.1 = place) : e.2 = group := by
  rw [← hplace, running?_of_mem hnodup he] at h
  exact Option.some.inj h

theorem mem_put {e : Nat × GroupRun} (he : e ∈ (g.put place group').atWork) :
    e = (place, group') ∨ e ∈ g.atWork ∧ e.1 ≠ place := by
  rw [atWork_put] at he
  obtain ⟨old, hold, rfl⟩ := List.mem_map.1 he
  split
  next => exact .inl rfl
  next hne => exact .inr ⟨hold, hne⟩

/-- A bound on the stretches that the groups at work have before them. -/
def workLeft (g : GraphRun) : Nat := (g.atWork.map fun e => e.2.weight).sum

theorem workLeft_put_lt (hnodup : (g.atWork.map Prod.fst).Nodup) (h : g.running? place = some group)
    (hlt : group'.weight < group.weight) : (g.put place group').workLeft < g.workLeft := by
  rw [workLeft, workLeft, atWork_put, List.map_map]
  apply List.sum_lt_sum
  · intro e he
    rw [Function.comp_apply]
    split
    next heq => exact Nat.le_of_lt (eq_of_running? hnodup h he heq ▸ hlt)
    next => exact Nat.le_refl _
  · exact ⟨_, mem_atWork_of_running? h, by simpa using hlt⟩

theorem workLeft_put_of_eq (hnodup : (g.atWork.map Prod.fst).Nodup) (h : g.running? place = some group)
    (heq : group'.weight = group.weight) : (g.put place group').workLeft = g.workLeft := by
  rw [workLeft, workLeft, atWork_put, List.map_map]
  congr 1
  refine List.map_congr_left fun e he => ?_
  rw [Function.comp_apply]
  split
  next hplace => rw [heq, eq_of_running? hnodup h he hplace]
  next => rfl

end GraphRun

namespace Passage

variable {rules : RunRules} {graph : WorkflowGraph} {start : Context} {p : Passage} {m : PassageMove} {place : Nat}
  {group : GroupRun}

/-- Whether something can happen to a graph that is not overtaken. -/
def admits (p : Passage) : PassageMove → Bool
  | .go place _ => (p.graph.running? place).any GroupRun.isReady
  | .arrive place index _ => p.isOut place index
  | .close => !p.graph.isFinished && p.graph.active.isEmpty
  | .overtake => false

/-- Whether a graph comes to its end if it is not overtaken: something can happen until it has finished, and nothing
can go on happening for ever. -/
inductive Returns (rules : RunRules) : Passage → Prop
  | over {p : Passage} (h : p.graph.isFinished = true) : Returns rules p
  | on {p : Passage} (hsome : ∃ m, p.admits m = true)
      (hall : ∀ m, p.admits m = true → Returns rules (p.move rules m)) : Returns rules p

/-- Whether all that the groups at work wait for has come or is out. -/
def Attended (p : Passage) : Prop :=
  ∀ e ∈ p.graph.atWork, ∀ i ∈ e.2.expected, (e.2.answers.lookup i).isSome = true ∨ p.isOut e.1 i = true

theorem isOut_put (calls : List Call) (events : List Event) (q i : Nat) :
    (p.put place group calls events).isOut q i =
      (p.isOut q i || (decide (place = q) && calls.any fun call => decide (call.index = i))) := by
  simp only [isOut, put, List.any_append, List.any_map]
  congr 1
  by_cases hplace : place = q
  · simp [hplace, Function.comp_def]
  · simp [hplace, Function.comp_def]

theorem isOut_settled (index q i : Nat) :
    (p.settled place index).isOut q i = (p.isOut q i && !(decide (q = place) && decide (i = index))) := by
  simp only [isOut, settled, List.any_filter]
  rw [Bool.eq_iff_iff]
  simp only [List.any_eq_true, Bool.and_eq_true, decide_eq_true_eq, Bool.not_eq_true', Bool.and_eq_false_iff,
    decide_eq_false_iff_not]
  constructor
  · rintro ⟨e, he, hnot, rfl, rfl⟩
    exact ⟨⟨e, he, rfl, rfl⟩, by tauto⟩
  · rintro ⟨⟨e, he, rfl, rfl⟩, hnot⟩
    exact ⟨e, he, by tauto, rfl, rfl⟩

/-- A group that has just begun waits for nothing. -/
theorem Stands.expected_goOn {rest : List Nat} {waves : List (List Nat)} (h : Stands rules graph start rest waves p)
    {e : Nat × GroupRun} (he : e ∈ (GraphRun.goOn rules p.counter rest waves p.graph).atWork) :
    e.2.expected = [] := by
  have hopened := h.paced.goOn (GraphRun.isStale_eq_false h.current h.unstale) h.clear
  rw [hopened.fresh e he]
  rfl

namespace Sound

theorem nodupWork (h : Sound rules graph start p) : (p.graph.atWork.map Prod.fst).Nodup :=
  (List.nodup_append.1 h.nodup).2.1

/-- What can happen leaves a graph as it should stand. -/
theorem admitted (h : Sound rules graph start p) (hm : p.admits m = true) :
    Sound rules graph start (p.move rules m) := by
  have hcounter : (p.move rules m).counter = p.counter := by
    cases m with
    | go place around => simp only [Passage.move]; split <;> rfl
    | arrive place index answer => simp only [Passage.move]; split <;> rfl
    | close => simp only [Passage.move]; split <;> rfl
    | overtake => cases hm
  refine (h.move m).resolve_right fun hlate => ?_
  rw [Late, epoch_move, hcounter, h.epoch] at hlate
  exact Nat.lt_irrefl _ hlate

/-- What happens to a graph, when it can happen. -/
theorem move_go (h : Sound rules graph start p) (hrunning : p.graph.running? place = some group)
    (around : Surroundings) :
    p.move rules (.go place around) = p.put place (group.poll rules true { surroundings := around }).1
      (group.poll rules true { surroundings := around }).2.calls
      (group.poll rules true { surroundings := around }).2.events := by
  simp only [Passage.move, hrunning, show p.counter.isCurrent p.graph.run.epoch = true from h.current]

theorem move_arrive {index : Nat} (answer : Answer) (hout : p.isOut place index = true) :
    p.move rules (.arrive place index answer) =
      { p.settled place index with graph := p.graph.deliver place index answer } := by
  simp only [Passage.move, hout, if_true]

theorem move_close (hm : p.admits .close = true) :
    p.move rules .close =
      { p with
        graph := p.graph.close rules p.counter
        log := p.log ++ p.graph.endings ++ (p.graph.close rules p.counter).beginnings } := by
  rw [admits, Bool.and_eq_true, Bool.not_eq_true'] at hm
  simp only [Passage.move, hm.1, hm.2, Bool.false_or, Bool.not_true, Bool.false_eq_true, if_false]

/-- What cannot happen changes nothing. -/
theorem move_of_not_admits (h : Sound rules graph start p) (hm : p.admits m = false) (hne : m ≠ .overtake) :
    p.move rules m = p := by
  cases m with
  | go place around =>
    cases hrunning : p.graph.running? place with
    | none => simp only [Passage.move, hrunning]
    | some group =>
      rw [admits, hrunning, Option.any_some] at hm
      rw [h.move_go hrunning around, GroupRun.poll_of_not_isReady hm, Passage.put,
        GraphRun.put_self h.nodupWork hrunning]
      simp only [List.map_nil, List.append_nil]
  | arrive place index answer =>
    rw [admits] at hm
    simp only [Passage.move, hm, Bool.false_eq_true, if_false]
  | close =>
    rw [admits, Bool.and_eq_false_iff, Bool.not_eq_false', ← Bool.not_eq_true'] at hm
    simp only [Passage.move]
    rw [if_pos (by rwa [Bool.or_eq_true])]
  | overtake => exact absurd rfl hne

/-! ### Something can happen -/

theorem exists_admits (h : Sound rules graph start p) (hattended : p.Attended)
    (hfin : p.graph.isFinished = false) : ∃ m, p.admits m = true := by
  by_cases hactive : p.graph.active = []
  · exact ⟨.close, by rw [admits, hfin, hactive]; rfl⟩
  · rw [GraphRun.active_eq, List.map_eq_nil_iff, List.filter_eq_nil_iff] at hactive
    push Not at hactive
    obtain ⟨e, he, hopen⟩ := hactive
    have hrunning := GraphRun.running?_of_mem h.nodupWork he
    cases hready : e.2.isReady with
    | true => exact ⟨.go e.1 ⟨.epoch, ⟨"", 0⟩⟩, by rw [admits, hrunning]; exact hready⟩
    | false =>
      -- What the group waits for has not come, so it is out.
      rw [GroupRun.isReady, hopen, Bool.true_and] at hready
      cases hneeds : e.2.needs? with
      | none => simp [hneeds] at hready
      | some i =>
        rw [hneeds, Option.all_some] at hready
        have hexpected : i ∈ e.2.expected := GroupRun.mem_expected_of_needs? hneeds
        have hout := (hattended e he i hexpected).resolve_left (by rw [hready]; exact Bool.false_ne_true)
        exact ⟨.arrive e.1 i (.ok .null), hout⟩

/-- What a group waits for when it has gone on, it has waited for before, or it has asked for it now. -/
theorem attended_go (hattended : p.Attended) (hrunning : p.graph.running? place = some group)
    (around : Surroundings) :
    (p.put place (group.poll rules true { surroundings := around }).1
      (group.poll rules true { surroundings := around }).2.calls
      (group.poll rules true { surroundings := around }).2.events).Attended := by
  intro e he i hi
  rw [isOut_put]
  obtain rfl | ⟨he, -⟩ := GraphRun.mem_put he
  · have hanswers := @GroupRun.answers_poll (.under rules p.counter) group { surroundings := around }
    rw [show (group.poll rules true { surroundings := around }).1.answers = group.answers from hanswers]
    obtain hi | ⟨call, hcall, hindex⟩ := @GroupRun.expected_poll (.under rules p.counter) group
      { surroundings := around } i hi
    · refine (hattended _ (GraphRun.mem_atWork_of_running? hrunning) i hi).imp_right fun hout => ?_
      rw [hout, Bool.true_or]
    · have hany : (group.poll rules true { surroundings := around }).2.calls.any
          (fun call => decide (call.index = i)) = true := List.any_eq_true.2 ⟨call, hcall, decide_eq_true hindex⟩
      exact .inr (by rw [hany, decide_eq_true rfl, Bool.and_self, Bool.or_true])
  · refine (hattended e he i hi).imp_right fun hout => ?_
    rw [hout, Bool.true_or]

/-- An answer that comes is that of a request that was out. -/
theorem attended_arrive (h : Sound rules graph start p) (hattended : p.Attended) (place index : Nat)
    (answer : Answer) : Attended { p.settled place index with graph := p.graph.deliver place index answer } := by
  intro e he i hi
  change _ ∨ (p.settled place index).isOut e.1 i = true
  rw [isOut_settled]
  have hothers (he : e ∈ p.graph.atWork) (hne : e.1 ≠ place) : (e.2.answers.lookup i).isSome = true ∨
      (p.isOut e.1 i && !(decide (e.1 = place) && decide (i = index))) = true := by
    rw [decide_eq_false hne, Bool.false_and, Bool.not_false, Bool.and_true]
    exact hattended e he i hi
  cases hrunning : p.graph.running? place with
  | none =>
    have hgraph : p.graph.deliver place index answer = p.graph := by simp only [GraphRun.deliver, hrunning]
    rw [hgraph] at he
    refine hothers he fun hplace => ?_
    rw [← hplace, GraphRun.running?_of_mem h.nodupWork he] at hrunning
    cases hrunning
  | some group =>
    have hgraph : p.graph.deliver place index answer = p.graph.put place (group.deliver index answer) := by
      simp only [GraphRun.deliver, hrunning]
    rw [hgraph] at he
    obtain rfl | ⟨he, hne⟩ := GraphRun.mem_put he
    · have hlookup : (group.deliver index answer).answers.lookup i =
          (group.answers.lookup i).or (List.lookup i [(index, answer)]) := List.lookup_append
      rw [hlookup, Option.isSome_or]
      by_cases hindex : i = index
      · left
        rw [hindex, List.lookup_cons_self, Option.isSome_some, Bool.or_true]
      · refine (hattended _ (GraphRun.mem_atWork_of_running? hrunning) i hi).imp (fun hcome => ?_) fun hout => ?_
        · rw [hcome, Bool.true_or]
        · rw [decide_eq_false hindex, Bool.and_false, Bool.not_false, Bool.and_true]
          exact hout
    · exact hothers he hne

/-- The groups of a stage that is just opened wait for nothing. -/
theorem attended_close (h : Sound rules graph start p) (hactive : p.graph.active = []) :
    Attended
      { p with
        graph := p.graph.close rules p.counter
        log := p.log ++ p.graph.endings ++ (p.graph.close rules p.counter).beginnings } := by
  intro e he i hi
  have hclose := @GraphRun.close_eq (.under rules p.counter) p.graph h.current hactive
  rw [show p.graph.close rules p.counter = _ from hclose] at he
  rw [(h.takeUp hactive).expected_goOn he] at hi
  cases hi

/-- What the groups wait for is never lost. -/
theorem attended_admitted (h : Sound rules graph start p) (hattended : p.Attended) (hm : p.admits m = true) :
    (p.move rules m).Attended := by
  cases m with
  | go place around =>
    obtain ⟨group, hrunning, -⟩ := (Option.any_eq_true _ _).1 hm
    rw [h.move_go hrunning around]
    exact attended_go hattended hrunning around
  | arrive place index answer =>
    rw [move_arrive answer hm]
    exact h.attended_arrive hattended place index answer
  | close =>
    rw [move_close hm]
    rw [admits, Bool.and_eq_true, List.isEmpty_iff] at hm
    exact h.attended_close hm.2
  | overtake => cases hm

/-! ### Nothing goes on for ever -/

/-- Whatever can happen brings a graph nearer to its end: a stage is over, or a group has got further, or an answer has
come. -/
theorem nearer (h : Sound rules graph start p) (hm : p.admits m = true) :
    (p.move rules m).graph.left < p.graph.left ∨ (p.move rules m).graph.left = p.graph.left ∧
      ((p.move rules m).graph.workLeft < p.graph.workLeft ∨
        (p.move rules m).graph.workLeft = p.graph.workLeft ∧ (p.move rules m).out.length < p.out.length) := by
  cases m with
  | go place around =>
    obtain ⟨group, hrunning, hready⟩ := (Option.any_eq_true _ _).1 hm
    rw [GroupRun.isReady, Bool.and_eq_true, Bool.not_eq_true'] at hready
    rw [h.move_go hrunning around]
    have hlt := @GroupRun.weight_poll_lt (.under rules p.counter) group { surroundings := around } hready.1
      fun i hi => by
        have hall := hready.2
        rw [Option.mem_def.1 hi, Option.all_some] at hall
        exact hall
    exact .inr ⟨(GraphRun.alike_put _ _).left, .inl (GraphRun.workLeft_put_lt h.nodupWork hrunning hlt)⟩
  | arrive place index answer =>
    rw [move_arrive answer hm]
    have hout : (p.settled place index).out.length < p.out.length := by
      rw [settled]
      refine List.length_filter_lt_length_iff_exists.2 ?_
      obtain ⟨e, he, hmatch⟩ := List.any_eq_true.1 hm
      exact ⟨e, he, by simpa using hmatch⟩
    right
    cases hrunning : p.graph.running? place with
    | none =>
      have hgraph : p.graph.deliver place index answer = p.graph := by simp only [GraphRun.deliver, hrunning]
      rw [hgraph]
      exact ⟨rfl, .inr ⟨rfl, hout⟩⟩
    | some group =>
      have hgraph : p.graph.deliver place index answer = p.graph.put place (group.deliver index answer) := by
        simp only [GraphRun.deliver, hrunning]
      rw [hgraph]
      exact ⟨(GraphRun.alike_put _ _).left, .inr ⟨GraphRun.workLeft_put_of_eq h.nodupWork hrunning rfl, hout⟩⟩
  | close =>
    left
    rw [move_close hm]
    rw [admits, Bool.and_eq_true, Bool.not_eq_true', List.isEmpty_iff] at hm
    have hclose := @GraphRun.close_eq (.under rules p.counter) p.graph h.current hm.2
    have hleft := @GraphRun.left_goOn (.under rules p.counter)
      (p.graph.closed (.under rules p.counter) p.graph.atWork) p.graph.rest p.graph.waves
    change (p.graph.close rules p.counter).left < p.graph.left
    rw [show p.graph.close rules p.counter = _ from hclose, GraphRun.left.eq_1 p.graph, hm.1,
      if_neg Bool.false_ne_true]
    exact Nat.lt_succ_of_le hleft
  | overtake => cases hm

end Sound

/-- As long as no newer run begins, a graph comes to its end. -/
theorem returns {p : Passage} (h : Sound rules graph start p) (hattended : p.Attended) : p.Returns rules := by
  by_cases hfin : p.graph.isFinished = true
  · exact .over hfin
  · refine .on (h.exists_admits hattended (Bool.eq_false_iff.2 hfin)) fun m hm => ?_
    exact returns (h.admitted hm) (h.attended_admitted hattended hm)
termination_by (p.graph.left, p.graph.workLeft, p.out.length)
decreasing_by simpa only [Prod.lex_def] using h.nearer hm

theorem attended_opening (rules : RunRules) (counter : EpochCounter) (graph : WorkflowGraph) (context : Context) :
    (opening rules counter graph context).Attended := by
  intro e he i hi
  rw [(stands_unopened rules counter graph context).expected_goOn he] at hi
  cases hi

/-- A graph of a run that is not superseded comes to its end, wherever it has got to. -/
theorem returns_follow {counter : EpochCounter} {context : Context} {moves : List PassageMove}
    (hcurrent : ((opening rules counter graph context).follow rules moves).Current) :
    ((opening rules counter graph context).follow rules moves).Returns rules := by
  have hall (p : Passage) (h : Sound rules graph context p ∧ p.Attended ∨ p.Late) :
      Sound rules graph context (p.follow rules moves) ∧ (p.follow rules moves).Attended ∨
        (p.follow rules moves).Late := by
    clear hcurrent
    induction moves generalizing p with
    | nil => exact h
    | cons m rest ih =>
      refine ih _ (h.elim (fun h => ?_) fun h => .inr (late_move h m))
      refine (h.1.move m).imp_left fun hsound => ⟨hsound, ?_⟩
      cases hm : p.admits m with
      | true => exact h.1.attended_admitted h.2 hm
      | false =>
        rw [h.1.move_of_not_admits hm]
        · exact h.2
        · rintro rfl
          exact not_current_of_late (p := p.move rules .overtake) (Nat.lt_succ_of_le (Nat.le_of_eq h.1.epoch))
            hsound.current
  obtain ⟨hsound, hattended⟩ := (hall _ (.inl ⟨sound_opening rules counter graph context,
    attended_opening rules counter graph context⟩)).resolve_right fun hlate => not_current_of_late hlate hcurrent
  exact returns hsound hattended

end Passage

end BackOffice
