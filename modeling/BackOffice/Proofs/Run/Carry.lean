import BackOffice.Proofs.Run.Ending

/-!
Where a graph ends, told from the start: the groups of each stage end where they would if all answers
came at once, and what became of them is taken up in the order of their places.
-/

namespace BackOffice

/-- Before anything was sent. -/
def Known.nothing : Known := fun _ => none

namespace GraphRun

variable {c : Conditions} {rules : RunRules} {counter : EpochCounter} {g : GraphRun}

/-- A graph between two stages. -/
def between (g : GraphRun) : GraphRun := { g with stage := .finished }

/-- What is left of a wave behind the stage. -/
def rest (g : GraphRun) : List Nat :=
  match g.stage with
  | .alone _ _ rest _ => rest
  | _ => []

/-- The waves behind the stage. -/
def waves (g : GraphRun) : List (List Nat) :=
  match g.stage with
  | .together _ waves | .alone _ _ _ waves => waves
  | .finished => []

/-- The context that the groups of a stage started from. -/
def base (g : GraphRun) : Context :=
  match g.stage with
  | .together _ _ => g.run.context.snapshot
  | _ => g.run.context

/-- Takes up a group that ran alone. -/
def takeUp (c : Conditions) (g : GraphRun) (place : Nat) (group : GroupRun) : GraphRun :=
  { g with
    run := { g.run with context := group.context }.absorb c.rules true group.outcome
  }.record place group.outcome

/-- Takes up what became of the groups of a stage. -/
def closed (c : Conditions) (g : GraphRun) (groups : List (Nat × GroupRun)) : GraphRun :=
  match g.stage with
  | .together _ _ => groups.foldl (fun g e => g.merge c.rules true e.1 e.2) g.between
  | .alone _ _ _ _ => groups.foldl (fun g e => g.takeUp c e.1 e.2) g.between
  | .finished => g

/-- Carries a graph to its end when every answer comes at once, with the requests of each group. -/
def carry (c : Conditions) : List Nat → List (List Nat) → GraphRun → GraphRun × (Nat → List Call)
  | place :: rest, waves, g =>
    if g.run.isStale c.counter then carry c rest waves (g.giveUp place .stale)
    else if g.run.halted then carry c rest waves (g.giveUp place .skipped)
    else
      let (group, calls) := (g.groupRun place g.run.context).ending c .nothing
      let (g, more) := carry c rest waves (g.takeUp c place group)
      (g, fun q => (if q = place then calls else []) ++ more q)
  | [], [], g => (g.between, fun _ => [])
  | [], wave :: waves, g =>
    let (runnable, g) := openWave c.counter wave g
    if 1 < runnable.length && c.rules.parallel then
      let ends := runnable.map fun i => (i, (g.groupRun i g.run.context.snapshot).ending c .nothing)
      let (g, more) := carry c [] waves (ends.foldl (fun g e => g.merge c.rules true e.1 e.2.1) g)
      (g, fun q => ((ends.lookup q).map Prod.snd).getD [] ++ more q)
    else carry c runnable waves g
termination_by rest waves => (waves.length, rest.length)

/-! ### The stage does not matter between two stages -/

theorem openWave_between (wave : List Nat) (g : GraphRun) :
    openWave counter wave g.between =
      ((openWave counter wave g).1, (openWave counter wave g).2.between) := by
  induction wave generalizing g with
  | nil => rfl
  | cons place rest ih =>
    have hrefusal : g.between.refusal? counter place = g.refusal? counter place := rfl
    have hgiveUp (status : GroupStatus) : g.between.giveUp place status = (g.giveUp place status).between := rfl
    simp only [openWave, hrefusal]
    split
    · rw [hgiveUp, ih]
    · rw [ih]

theorem sublist_openWave (wave : List Nat) (g : GraphRun) : (openWave counter wave g).1.Sublist wave := by
  induction wave generalizing g with
  | nil => exact .slnil
  | cons place rest ih =>
    simp only [openWave]
    split
    · exact (ih _).cons _
    · exact (ih _).cons_cons _

theorem groups_openWave (wave : List Nat) (g : GraphRun) : (openWave counter wave g).2.groups = g.groups := by
  induction wave generalizing g with
  | nil => rfl
  | cons place rest ih =>
    simp only [openWave]
    split
    · exact ih _
    · exact ih _

/-- Opening a wave leaves some of its groups, and changes neither the run nor the groups of the graph. -/
theorem openWave_cases {wave runnable : List Nat} {g' : GraphRun}
    (h : openWave counter wave g = (runnable, g')) :
    runnable.Sublist wave ∧ g'.run = g.run ∧ g'.groups = g.groups := by
  have hsub := @sublist_openWave counter wave g
  have hrun := @run_openWave counter g wave
  have hgroups := @groups_openWave counter wave g
  rw [h] at hsub hrun hgroups
  exact ⟨hsub, hrun, hgroups⟩

theorem groups_goOn (rest : List Nat) (waves : List (List Nat)) :
    (goOn rules counter rest waves g).groups = g.groups := by
  fun_induction goOn rules counter rest waves g with
  | case1 _ _ _ _ _ ih | case2 _ _ _ _ _ _ ih => exact ih
  | case3 | case4 => rfl
  | case5 wave waves g runnable g' hopen _ => exact (openWave_cases hopen).2.2
  | case6 wave waves g runnable g' hopen _ ih => exact ih.trans (openWave_cases hopen).2.2

theorem goOn_between (rest : List Nat) (waves : List (List Nat)) :
    goOn rules counter rest waves g.between = goOn rules counter rest waves g := by
  fun_induction goOn rules counter rest waves g with
  | case1 place rest waves g hstale ih =>
    rw [goOn, if_pos (show g.between.run.isStale counter = true from hstale)]
    exact ih
  | case2 place rest waves g hstale hhalted ih =>
    rw [goOn, if_neg (show ¬ g.between.run.isStale counter = true from hstale),
      if_pos (show g.between.run.halted = true from hhalted)]
    exact ih
  | case3 place rest waves g hstale hhalted =>
    rw [goOn, if_neg (show ¬ g.between.run.isStale counter = true from hstale),
      if_neg (show ¬ g.between.run.halted = true from hhalted)]
    rfl
  | case4 => rw [goOn]; rfl
  | case5 wave waves g runnable g' hopen hpar =>
    simp only [goOn, openWave_between, hopen, hpar, if_true]
    rfl
  | case6 wave waves g runnable g' hopen hpar ih =>
    simp only [goOn, openWave_between, hopen, hpar]
    exact ih

theorem between_of_finished (h : g.stage = .finished) : g.between = g := by
  rw [between, ← h]

theorem stage_closed (groups : List (Nat × GroupRun)) : (g.closed c groups).stage = .finished := by
  unfold closed
  split
  · refine (apply_foldl stage ?_ groups).trans rfl
    exact fun _ _ => rfl
  · refine (apply_foldl stage ?_ groups).trans rfl
    exact fun _ _ => rfl
  next h => exact h

theorem epoch_closed (groups : List (Nat × GroupRun)) : (g.closed c groups).run.epoch = g.run.epoch := by
  unfold closed
  split
  · exact epoch_foldl_merge groups
  · refine (apply_foldl (fun g => g.run.epoch) ?_ groups).trans rfl
    exact fun _ _ => rfl
  · rfl

theorem groups_closed (groups : List (Nat × GroupRun)) : (g.closed c groups).groups = g.groups := by
  unfold closed
  split
  · refine (apply_foldl GraphRun.groups ?_ groups).trans rfl
    exact fun _ _ => rfl
  · refine (apply_foldl GraphRun.groups ?_ groups).trans rfl
    exact fun _ _ => rfl
  · rfl

/-! ### Replacing a group -/

theorem stage_put_alone {i place : Nat} {old group : GroupRun} {later : List Nat} {more : List (List Nat)}
    (h : g.stage = .alone i old later more) :
    ∃ group', (g.put place group).stage = .alone i group' later more := by
  simp only [put, h]
  split
  · exact ⟨group, rfl⟩
  · exact ⟨old, rfl⟩

theorem rest_put (place : Nat) (group : GroupRun) : (g.put place group).rest = g.rest := by
  cases h : g.stage with
  | together groups more => simp only [rest, put, h]
  | alone i old later more =>
    obtain ⟨group', h'⟩ := @stage_put_alone g i place old group later more h
    simp only [rest, h, h']
  | finished => simp only [rest, put, h]

theorem waves_put (place : Nat) (group : GroupRun) : (g.put place group).waves = g.waves := by
  cases h : g.stage with
  | together groups more => simp only [waves, put, h]
  | alone i old later more =>
    obtain ⟨group', h'⟩ := @stage_put_alone g i place old group later more h
    simp only [waves, h, h']
  | finished => simp only [waves, put, h]

theorem base_put (place : Nat) (group : GroupRun) : (g.put place group).base = g.base := by
  cases h : g.stage with
  | together groups more => simp only [base, put, h]
  | alone i old later more =>
    obtain ⟨group', h'⟩ := @stage_put_alone g i place old group later more h
    simp only [base, h, h']
    rfl
  | finished => simp only [base, put, h]

/-- A group that is replaced by itself. -/
theorem put_self {place : Nat} {group : GroupRun} (hnodup : (g.atWork.map Prod.fst).Nodup)
    (h : g.running? place = some group) : g.put place group = g := by
  have hmap : (g.atWork.map fun e => if e.1 = place then (place, group) else e) = g.atWork := by
    refine (List.map_congr_left fun e he => ?_).trans g.atWork.map_id
    split
    next heq =>
      have hlookup : g.running? e.1 = some e.2 := by
        rw [running?_eq]
        exact lookup_of_mem hnodup he
      rw [heq, h] at hlookup
      rw [id, ← heq, Option.some.inj hlookup]
    · rfl
  rw [← atWork_put] at hmap
  have hstage : (g.put place group).stage = g.stage := by
    cases hs : g.stage with
    | together groups waves =>
      simp only [put, atWork, hs] at hmap ⊢
      rw [hmap]
    | alone i old rest waves =>
      simp only [put, running?, hs] at h ⊢
      split at h
      next heq => rw [if_pos heq, Option.some.inj h]
      · cases h
    | finished => simp only [put, hs]
  calc g.put place group = { g with stage := (g.put place group).stage } := rfl
    _ = g := by rw [hstage]

theorem closed_put (place : Nat) (group : GroupRun) (groups : List (Nat × GroupRun)) :
    (g.put place group).closed c groups = g.closed c groups := by
  have hbetween : (g.put place group).between = g.between := rfl
  cases h : g.stage with
  | together old more =>
    have h' : (g.put place group).stage =
        .together (old.map fun e => if e.1 = place then (place, group) else e) more := by
      simp only [put, h]
    simp only [closed, h, h', hbetween]
  | alone i old later more =>
    obtain ⟨group', h'⟩ := @stage_put_alone g i place old group later more h
    simp only [closed, h, h', hbetween]
  | finished =>
    have h' : (g.put place group).stage = .finished := by simp only [put, h]
    simp only [closed, h, h']
    exact (between_of_finished h').symm.trans (hbetween.trans (between_of_finished h))

/-! ### Closing a stage -/

theorem between_foldl {f : GraphRun → Nat × GroupRun → GraphRun}
    (hf : ∀ g e, (f g e).between = f g.between e) (groups : List (Nat × GroupRun)) :
    (groups.foldl f g).between = groups.foldl f g.between := by
  induction groups generalizing g with
  | nil => rfl
  | cons e rest ih => rw [List.foldl_cons, List.foldl_cons, ih, hf]

theorem closed_bare (groups : List (Nat × GroupRun)) :
    g.closed c (groups.map fun e => (e.1, e.2.bare)) = g.closed c groups := by
  unfold closed
  split
  · rw [List.foldl_map]
    rfl
  · rw [List.foldl_map]
    rfl
  · rfl

/-- When all groups of a stage have finished, the next stage is opened behind what became of them. -/
theorem close_eq (hc : c.counter.isCurrent g.run.epoch = true) (h : g.active = []) :
    g.close c.rules c.counter =
      goOn c.rules c.counter g.rest g.waves (g.closed c g.atWork) := by
  have hfin : ∀ e ∈ g.atWork, e.2.isFinished = true := fun e => isFinished_of_active_eq_nil h
  unfold atWork at hfin
  cases hs : g.stage with
  | together groups more =>
    simp only [hs] at hfin
    simp only [close, rest, waves, closed, atWork, hs, hc]
    rw [if_pos (List.all_eq_true.2 hfin), ← goOn_between, between_foldl fun _ _ => rfl]
  | alone i group later more =>
    simp only [hs, List.mem_singleton, forall_eq] at hfin
    simp only [close, rest, waves, closed, atWork, hs, hc]
    rw [if_pos hfin, ← goOn_between]
    rfl
  | finished =>
    simp only [close, rest, waves, closed, hs]
    rw [goOn]
    exact (between_of_finished hs).symm

end GraphRun

end BackOffice
