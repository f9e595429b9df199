import BackOffice.Run.Graph

/-!
One stretch of a run: what it leaves as it is, and what is left of it when a newer run has begun. A
superseded stretch tells of nothing, and no answer reaches a context. It sends requests only in a group
that has not begun yet: the first stretch of a group does not look at the count of runs.
-/

namespace BackOffice

section Lookup

variable {α : Type} {entries : List (Nat × α)} {p q : Nat} {v : α}

theorem lookup_of_mem (h : (entries.map Prod.fst).Nodup) (he : (p, v) ∈ entries) :
    entries.lookup p = some v := by
  induction entries with
  | nil => simp at he
  | cons e rest ih =>
    obtain ⟨k, w⟩ := e
    rw [List.map_cons, List.nodup_cons] at h
    rcases List.mem_cons.1 he with heq | he
    · cases heq
      simp
    · have hmem : p ∈ rest.map Prod.fst := List.mem_map_of_mem he
      have hbeq : (p == k) = false := by
        rw [beq_eq_false_iff_ne]
        rintro rfl
        exact h.1 hmem
      rw [List.lookup_cons, hbeq]
      exact ih h.2 he

theorem lookup_replace (entries : List (Nat × α)) (p q : Nat) (v : α) :
    (entries.map fun e => if e.1 = p then (p, v) else e).lookup q =
      if q = p then (entries.lookup p).map fun _ => v else entries.lookup q := by
  induction entries with
  | nil => simp
  | cons e rest ih =>
    obtain ⟨k, w⟩ := e
    rw [List.map_cons, List.lookup_cons, ih]
    by_cases hk : k = p
    · subst hk
      by_cases hq : q = k
      · simp [hq]
      · have hbeq : (q == k) = false := by simpa using hq
        simp [hq, hbeq, List.lookup_cons]
    · by_cases hq : q = k
      · subst hq
        simp [hk]
      · have hbeq : (q == k) = false := by simpa using hq
        have hbeq' : (p == k) = false := by simpa using Ne.symm hk
        simp [hk, hbeq, hbeq', List.lookup_cons]

theorem lookup_map_self (places : List Nat) (F : Nat → α) (q : Nat) :
    (places.map fun i => (i, F i)).lookup q = if q ∈ places then some (F q) else none := by
  induction places with
  | nil => rfl
  | cons i rest ih =>
    rw [List.map_cons, List.lookup_cons, ih]
    by_cases hq : q = i
    · simp [hq]
    · have hbeq : (q == i) = false := by simpa using hq
      simp [hq, hbeq]

end Lookup

namespace GroupRun

variable {rules : RunRules} {current : Bool} {g : GroupRun} {t t' : Trace} {index : Nat} {s : Step}
  {answer : Answer} {rest : List (Nat × Step)}

/-! ### Single steps -/

theorem calls_fail {envelope : Option Envelope} {e : StepError} :
    (g.fail rules index s envelope e t current).2.calls = t.calls := by
  simp only [fail, Trace.tell]
  split <;> rfl

theorem surroundings_fail {envelope : Option Envelope} {e : StepError} :
    (g.fail rules index s envelope e t current).2.surroundings = t.surroundings := by
  simp only [fail, Trace.tell]
  split <;> rfl

theorem calls_settle : (g.settle rules index s answer t).2.calls = t.calls := by
  simp only [settle]
  split
  · rfl
  · exact calls_fail

theorem surroundings_settle : (g.settle rules index s answer t).2.surroundings = t.surroundings := by
  simp only [settle]
  split
  · rfl
  · exact surroundings_fail

theorem stale_settle : (g.settle rules index s answer t).1.stale = g.stale := by
  simp only [settle]
  split <;> rfl

theorem detached_settle (index : Nat) (s : Step) (answer : Answer) (t : Trace) :
    (g.settle rules index s answer t).1.detached = g.detached := by
  simp only [settle]
  split <;> rfl

/-! ### Whole stretches -/

theorem calls_join : (join rules current rest g t).2.calls = t.calls := by
  fun_induction join rules current rest g t with
  | case1 => rfl
  | case2 => rfl
  | case3 i s rest g t answer _ _ g' t' hs ih =>
    rw [ih, ← calls_settle (g := g) (t := t), hs]
  | case4 _ _ _ _ _ _ _ _ ih => exact ih

theorem surroundings_join : (join rules current rest g t).2.surroundings = t.surroundings := by
  fun_induction join rules current rest g t with
  | case1 => rfl
  | case2 => rfl
  | case3 i s rest g t answer _ _ g' t' hs ih =>
    rw [ih, ← surroundings_settle (g := g) (t := t), hs]
  | case4 _ _ _ _ _ _ _ _ ih => exact ih

theorem stale_join : (join rules true rest g t).1.stale = g.stale := by
  induction rest generalizing g t with
  | nil => rfl
  | cons entry rest ih =>
    simp only [join]
    split
    · rfl
    · exact ih.trans stale_settle

theorem stale_start : (start rules true rest g t).1.stale = g.stale := by
  induction rest generalizing g t with
  | nil => exact stale_join
  | cons entry rest ih =>
    simp only [start]
    split
    · exact ih
    · split
      · exact ih
      · split
        · rfl
        · exact ih

/-- A group learns only from a newer run that it is superseded. -/
theorem stale_poll : (g.poll rules true t).1.stale = g.stale := by
  simp only [poll]
  split
  · exact stale_start
  · split
    · rfl
    · exact stale_start.trans stale_settle
  · exact stale_join
  · rfl

/-! ### Superseded stretches -/

theorem join_superseded :
    (join rules false rest g t).1.context = g.context ∧ (join rules false rest g t).2 = t := by
  induction rest generalizing g with
  | nil => exact ⟨rfl, rfl⟩
  | cons entry rest ih =>
    simp only [join]
    split
    · exact ⟨rfl, rfl⟩
    · exact ih

theorem start_superseded :
    (start rules false rest g t).1.context = g.context ∧
      (start rules false rest g t).2.events = t.events := by
  induction rest generalizing g t with
  | nil => exact ⟨join_superseded.1, by rw [start, join_superseded.2]⟩
  | cons entry rest ih =>
    simp only [start]
    split
    · exact ih
    · split
      · exact ih
      · split
        · exact ⟨rfl, rfl⟩
        · exact ih

/-- What a stretch of starting steps sends does not depend on the count of runs. -/
theorem calls_start {other : Bool} (hc : t.calls = t'.calls) (hs : t.surroundings = t'.surroundings) :
    (start rules current rest g t).2.calls = (start rules other rest g t').2.calls := by
  -- The two stretches stay in step: they differ only in what they tell.
  induction rest generalizing g t t' with
  | nil => rw [start, start, calls_join, calls_join, hc]
  | cons entry rest ih =>
    have hcalls (k : List EventKind) (surroundings : Surroundings) :
        ({ t with surroundings }.tell current g.epoch k).calls =
          ({ t' with surroundings }.tell other g.epoch k).calls := by
      simp only [Trace.tell]
      split <;> split <;> exact hc
    have hrest (k : List EventKind) (surroundings : Surroundings) :
        ({ t with surroundings }.tell current g.epoch k).surroundings =
          ({ t' with surroundings }.tell other g.epoch k).surroundings := by
      simp only [Trace.tell]
      split <;> split <;> rfl
    simp only [start, hs]
    split
    · exact ih hc hs
    · split
      · exact ih (hcalls _ _) (hrest _ _)
      · split
        · simp only [Trace.send, hcalls]
        · exact ih (by simp only [Trace.send, hcalls]) (hrest _ _)

/-- Whether nothing of a group has been done yet. -/
def isUnbegun (g : GroupRun) : Bool :=
  match g.stage with
  | .starting _ => true
  | _ => false

theorem isUnbegun_join : (join rules current rest g t).1.isUnbegun = false := by
  fun_induction join rules current rest g t with
  | case1 => rfl
  | case2 => rfl
  | case3 _ _ _ _ _ _ _ _ _ _ _ ih => exact ih
  | case4 _ _ _ _ _ _ _ _ ih => exact ih

theorem isUnbegun_start : (start rules current rest g t).1.isUnbegun = false := by
  fun_induction start rules current rest g t with
  | case1 => exact isUnbegun_join
  | case2 _ _ _ _ _ _ ih => exact ih
  | case3 _ _ _ _ _ _ _ _ _ _ _ _ ih => exact ih
  | case4 => rfl
  | case5 _ _ _ _ _ _ _ _ _ _ _ ih => exact ih

/-- After its first stretch a group has begun. -/
theorem isUnbegun_poll : (g.poll rules current t).1.isUnbegun = false := by
  simp only [poll]
  split
  · exact isUnbegun_start
  next h =>
    split
    · simp [isUnbegun, h]
    · split
      · exact isUnbegun_start
      · rfl
  · exact isUnbegun_join
  next h => simp [isUnbegun, h]

theorem context_poll_superseded : (g.poll rules false t).1.context = g.context := by
  simp only [poll]
  split
  · exact start_superseded.1
  · split <;> rfl
  · exact join_superseded.1
  · rfl

theorem events_poll_superseded : (g.poll rules false t).2.events = t.events := by
  simp only [poll]
  split
  · exact start_superseded.2
  · split <;> rfl
  · rw [join_superseded.2]
  · rfl

/-- A superseded group sends nothing unless it has not begun yet; then it sends what it would have sent
otherwise. -/
theorem calls_poll_superseded : (g.poll rules false t).2.calls =
    if g.isUnbegun then (g.poll rules true t).2.calls else t.calls := by
  simp only [poll, isUnbegun]
  split
  next h =>
    rw [h]
    exact calls_start rfl rfl
  next h =>
    rw [h]
    split <;> rfl
  next h => rw [h, join_superseded.2, if_neg Bool.false_ne_true]
  next h => rw [h, if_neg Bool.false_ne_true]

theorem stage_of_isFinished (h : g.isFinished = true) : g.stage = .finished := by
  unfold isFinished at h
  split at h
  · assumption
  · cases h

theorem status_ne_stale (h : g.stale = false) : g.status ≠ .stale := by
  simp only [status, h]
  split
  · contradiction
  · split
    · simp
    · split <;> simp

end GroupRun

namespace GraphRun

variable {rules : RunRules} {counter : EpochCounter} {g : GraphRun} {t : Trace} {place : Nat}

/-- The groups that run, with their places. -/
def atWork (g : GraphRun) : List (Nat × GroupRun) :=
  match g.stage with
  | .together groups _ => groups
  | .alone place group _ _ => [(place, group)]
  | .finished => []

theorem running?_eq (g : GraphRun) (place : Nat) : g.running? place = g.atWork.lookup place := by
  unfold running? atWork
  cases g.stage with
  | together groups waves => rfl
  | alone i group rest waves =>
    by_cases h : i = place
    · simp [h]
    · have : (place == i) = false := by simpa using Ne.symm h
      simp [h, List.lookup_cons, this]
  | finished => rfl

theorem atWork_put (g : GraphRun) (place : Nat) (group : GroupRun) :
    (g.put place group).atWork = g.atWork.map fun e => if e.1 = place then (place, group) else e := by
  unfold put atWork
  cases g.stage with
  | together groups waves => rfl
  | alone i old rest waves => by_cases h : i = place <;> simp [h]
  | finished => rfl

theorem active_eq (g : GraphRun) :
    g.active = (g.atWork.filter fun e => !e.2.isFinished).map Prod.fst := by
  unfold active atWork
  cases g.stage with
  | together groups waves => rfl
  | alone i group rest waves => cases h : group.isFinished <;> simp [h]
  | finished => rfl

theorem isFinished_of_active_eq_nil (h : g.active = []) {e : Nat × GroupRun} (he : e ∈ g.atWork) :
    e.2.isFinished = true := by
  rw [active_eq, List.map_eq_nil_iff, List.filter_eq_nil_iff] at h
  simpa using h e he

theorem stage_of_isFinished (h : g.isFinished = true) : g.stage = .finished := by
  unfold isFinished at h
  split at h
  · assumption
  · cases h

/-! ### What stays as it is -/

theorem run_put (g : GraphRun) (place : Nat) (group : GroupRun) : (g.put place group).run = g.run := rfl

theorem run_poll : (g.poll rules counter place t).1.run = g.run := by
  unfold poll
  split <;> rfl

theorem run_deliver {index : Nat} {answer : Answer} : (g.deliver place index answer).run = g.run := by
  unfold deliver
  split <;> rfl

theorem run_openWave (wave : List Nat) : (openWave counter wave g).2.run = g.run := by
  induction wave generalizing g with
  | nil => rfl
  | cons place rest ih =>
    simp only [openWave]
    split
    · exact ih
    · exact ih

theorem run_goOn (rest : List Nat) (waves : List (List Nat)) :
    (goOn rules counter rest waves g).run = g.run := by
  fun_induction goOn rules counter rest waves g with
  | case1 _ _ _ _ _ ih => exact ih
  | case2 _ _ _ _ _ _ ih => exact ih
  | case3 => rfl
  | case4 => rfl
  | case5 wave waves g runnable g' h _ =>
    have hr := @run_openWave counter g wave
    rwa [h] at hr
  | case6 wave waves g runnable g' h _ ih =>
    have hr := @run_openWave counter g wave
    rw [h] at hr
    exact ih.trans hr

theorem run_start {graph : WorkflowGraph} {run : Run} : (start rules counter graph run).run = run :=
  run_goOn _ _

/-- What no group changes, a list of groups does not change. -/
theorem apply_foldl {α : Type} (p : GraphRun → α) {f : GraphRun → Nat × GroupRun → GraphRun}
    (hf : ∀ g e, p (f g e) = p g) (groups : List (Nat × GroupRun)) : p (groups.foldl f g) = p g := by
  induction groups generalizing g with
  | nil => rfl
  | cons e rest ih => exact ih.trans (hf g e)

theorem epoch_foldl_merge {current : Bool} (groups : List (Nat × GroupRun)) :
    (groups.foldl (fun g e => g.merge rules current e.1 e.2) g).run.epoch = g.run.epoch := by
  apply apply_foldl (fun g => g.run.epoch)
  exact fun _ _ => rfl

theorem epoch_close : (g.close rules counter).run.epoch = g.run.epoch := by
  simp only [close]
  split
  · split
    · rw [run_goOn, epoch_foldl_merge]
    · rfl
  · split
    · rw [run_goOn]
      rfl
    · rfl
  · rfl

/-! ### What is known to be superseded -/

/-- Whether nothing in a graph is known to be superseded. -/
def Unstale (g : GraphRun) : Prop := g.run.stale = false ∧ ∀ e ∈ g.atWork, e.2.stale = false

theorem unstale_goOn (h : g.run.stale = false) (rest : List Nat) (waves : List (List Nat)) :
    (goOn rules counter rest waves g).Unstale := by
  refine ⟨by rwa [run_goOn], ?_⟩
  fun_induction goOn rules counter rest waves g with
  | case1 _ _ _ _ _ ih => exact ih h
  | case2 _ _ _ _ _ _ ih => exact ih h
  | case3 => simp [atWork, groupRun, GroupRun.of]
  | case4 => simp [atWork]
  | case5 => simp [atWork, groupRun, GroupRun.of]
  | case6 wave waves g runnable g' ho _ ih =>
    have hrun := @run_openWave counter g wave
    rw [ho] at hrun
    exact ih (by rwa [show g'.run = g.run from hrun])

theorem mem_atWork_of_running? {group : GroupRun} (h : g.running? place = some group) :
    (place, group) ∈ g.atWork := by
  rw [running?_eq] at h
  obtain ⟨front, back, hsplit, -⟩ := List.lookup_eq_some_iff.1 h
  simp [hsplit]

theorem mem_atWork_put {group : GroupRun} {e : Nat × GroupRun} (he : e ∈ (g.put place group).atWork) :
    e = (place, group) ∨ e ∈ g.atWork := by
  rw [atWork_put] at he
  obtain ⟨e', he', rfl⟩ := List.mem_map.1 he
  split
  · exact .inl rfl
  · exact .inr he'

theorem unstale_poll (hc : counter.isCurrent g.run.epoch = true) (h : g.Unstale) :
    (g.poll rules counter place t).1.Unstale := by
  refine ⟨by rw [run_poll]; exact h.1, fun e he => ?_⟩
  simp only [poll] at he
  split at he
  · exact h.2 e he
  next group hg =>
    rw [hc] at he
    obtain rfl | he := mem_atWork_put he
    · exact GroupRun.stale_poll.trans (h.2 _ (mem_atWork_of_running? hg))
    · exact h.2 e he

theorem unstale_deliver {index : Nat} {answer : Answer} (h : g.Unstale) :
    (g.deliver place index answer).Unstale := by
  refine ⟨by rw [run_deliver]; exact h.1, fun e he => ?_⟩
  simp only [deliver] at he
  split at he
  · exact h.2 e he
  next group hg =>
    obtain rfl | he := mem_atWork_put he
    · exact h.2 (place, group) (mem_atWork_of_running? hg)
    · exact h.2 e he

theorem stale_absorb {r : Run} {group : GroupRun} (hr : r.stale = false) (hg : group.stale = false) :
    (r.absorb rules true group.outcome).stale = false := by
  have := GroupRun.status_ne_stale hg
  simp [Run.absorb, hr, GroupRun.outcome, this]

theorem stale_foldl_merge {groups : List (Nat × GroupRun)} (hr : g.run.stale = false)
    (hg : ∀ e ∈ groups, e.2.stale = false) :
    (groups.foldl (fun g e => g.merge rules true e.1 e.2) g).run.stale = false := by
  induction groups generalizing g with
  | nil => exact hr
  | cons e rest ih =>
    rw [List.forall_mem_cons] at hg
    exact ih (stale_absorb hr hg.1) hg.2

theorem unstale_close (hc : counter.isCurrent g.run.epoch = true) (h : g.Unstale) :
    (g.close rules counter).Unstale := by
  have hwork := h.2
  simp only [close, hc]
  unfold atWork at hwork
  cases hs : g.stage with
  | together groups waves =>
    simp only [hs] at hwork ⊢
    split
    · exact unstale_goOn (stale_foldl_merge h.1 hwork) _ _
    · exact h
  | alone i group rest waves =>
    simp only [hs, List.mem_singleton, forall_eq] at hwork ⊢
    split
    · exact unstale_goOn (@stale_absorb rules _ _ h.1 hwork) _ _
    · exact h
  | finished => exact h

/-! ### What is told of a run that is not superseded -/

/-- Whether nothing in a graph is known to be superseded, and no group is told of as superseded. -/
def Fresh (g : GraphRun) : Prop := g.Unstale ∧ ∀ e ∈ g.results, e.2.status ≠ .stale

section Judged

variable {P : GroupOutcome → Prop}

theorem results_record {o : GroupOutcome} (ho : P o) (h : ∀ e ∈ g.results, P e.2) :
    ∀ e ∈ (g.record place o).results, P e.2 := by
  intro e he
  obtain he | he := List.mem_append.1 he
  · exact h e he
  · rw [List.mem_singleton.1 he]
    exact ho

theorem results_openWave (hP : ∀ name, P (.notStarted name .skipped)) (hrun : g.run.isStale counter = false)
    (h : ∀ e ∈ g.results, P e.2) (wave : List Nat) : ∀ e ∈ (openWave counter wave g).2.results, P e.2 := by
  induction wave generalizing g with
  | nil => exact h
  | cons place rest ih =>
    simp only [openWave, refusal?, hrun, Bool.false_eq_true, if_false]
    split
    next status hstatus =>
      have hskipped : status = .skipped := by
        split at hstatus
        · exact (Option.some.inj hstatus).symm
        · cases hstatus
      rw [hskipped]
      exact ih hrun (results_record (hP _) h)
    next => exact ih hrun h

/-- What holds of all groups that have been judged, and of any that is passed over, holds of all that are passed over on
the way to the next stage. -/
theorem results_goOn (hP : ∀ name, P (.notStarted name .skipped)) (hrun : g.run.isStale counter = false)
    (h : ∀ e ∈ g.results, P e.2) (rest : List Nat) (waves : List (List Nat)) :
    ∀ e ∈ (goOn rules counter rest waves g).results, P e.2 := by
  fun_induction goOn rules counter rest waves g with
  | case1 _ _ _ _ hs => simp [hrun] at hs
  | case2 _ _ _ _ _ _ ih => exact ih hrun (results_record (hP _) h)
  | case3 => exact h
  | case4 => exact h
  | case5 wave waves g runnable g' ho _ =>
    have hopened := results_openWave hP hrun h wave
    rwa [ho] at hopened
  | case6 wave waves g runnable g' ho _ ih =>
    have hopened := results_openWave hP hrun h wave
    have hrun' := @run_openWave counter g wave
    rw [ho] at hopened hrun'
    exact ih (by rwa [show g'.run = g.run from hrun']) hopened

end Judged

theorem fresh_goOn (hrun : g.run.isStale counter = false) (h : ∀ e ∈ g.results, e.2.status ≠ .stale)
    (rest : List Nat) (waves : List (List Nat)) :
    ∀ e ∈ (goOn rules counter rest waves g).results, e.2.status ≠ .stale :=
  results_goOn (P := (·.status ≠ .stale)) (fun _ => by simp [GroupOutcome.notStarted]) hrun h rest waves

theorem isStale_eq_false {r : Run} (hc : counter.isCurrent r.epoch = true) (h : r.stale = false) :
    r.isStale counter = false := by
  simp [Run.isStale, h, hc]

theorem fresh_start {graph : WorkflowGraph} {run : Run} (hc : counter.isCurrent run.epoch = true)
    (h : run.stale = false) : (start rules counter graph run).Fresh :=
  ⟨unstale_goOn h _ _, fresh_goOn (isStale_eq_false hc h) (fun _ he => absurd he List.not_mem_nil) _ _⟩

theorem fresh_poll (hc : counter.isCurrent g.run.epoch = true) (h : g.Fresh) :
    (g.poll rules counter place t).1.Fresh := by
  refine ⟨unstale_poll hc h.1, ?_⟩
  have hresults : (g.poll rules counter place t).1.results = g.results := by
    unfold poll
    split <;> rfl
  rw [hresults]
  exact h.2

theorem fresh_deliver {index : Nat} {answer : Answer} (h : g.Fresh) :
    (g.deliver place index answer).Fresh := by
  refine ⟨unstale_deliver h.1, ?_⟩
  have hresults : (g.deliver place index answer).results = g.results := by
    unfold deliver
    split <;> rfl
  rw [hresults]
  exact h.2

theorem results_foldl_merge {groups : List (Nat × GroupRun)} (h : ∀ e ∈ g.results, e.2.status ≠ .stale)
    (hg : ∀ e ∈ groups, e.2.stale = false) :
    ∀ e ∈ (groups.foldl (fun g e => g.merge rules true e.1 e.2) g).results, e.2.status ≠ .stale := by
  induction groups generalizing g with
  | nil => exact h
  | cons e rest ih =>
    rw [List.forall_mem_cons] at hg
    exact ih (results_record (P := (·.status ≠ .stale)) (GroupRun.status_ne_stale hg.1) h) hg.2

theorem fresh_close (hc : counter.isCurrent g.run.epoch = true) (h : g.Fresh) :
    (g.close rules counter).Fresh := by
  refine ⟨unstale_close hc h.1, ?_⟩
  have hwork := h.1.2
  simp only [close, hc]
  unfold atWork at hwork
  cases hs : g.stage with
  | together groups waves =>
    simp only [hs] at hwork ⊢
    split
    · apply fresh_goOn _ (results_foldl_merge h.2 hwork)
      exact isStale_eq_false (by rwa [epoch_foldl_merge]) (stale_foldl_merge h.1.1 hwork)
    · exact h.2
  | alone i group rest waves =>
    simp only [hs, List.mem_singleton, forall_eq] at hwork ⊢
    split
    · apply fresh_goOn
      · exact isStale_eq_false hc (@stale_absorb rules { g.run with context := group.context } _ h.1.1 hwork)
      · exact results_record (P := (·.status ≠ .stale)) (GroupRun.status_ne_stale hwork) h.2
    · exact h.2
  | finished => exact h.2

/-- A run that is not superseded tells of no group as superseded. -/
theorem Fresh.status_ne_stale (h : g.Fresh) (counter : EpochCounter) {o : GroupOutcome}
    (ho : o ∈ (g.outcome counter).groups) : o.status ≠ .stale := by
  obtain ⟨⟨⟨name, group⟩, place⟩, -, rfl⟩ := List.mem_map.1 ho
  cases hlookup : g.results.lookup place with
  | none => simp [GroupOutcome.notStarted]
  | some o =>
    obtain ⟨front, back, hsplit, -⟩ := List.lookup_eq_some_iff.1 hlookup
    exact h.2 (place, o) (by simp [hsplit])

theorem Fresh.status_only (h : g.Fresh) (counter : EpochCounter) (name : String) :
    ((g.outcome counter).only name).status ≠ .stale := by
  rw [GraphOutcome.only, List.head?_eq_getElem?]
  cases ho : (g.outcome counter).groups[0]? with
  | none => simp [GroupOutcome.notStarted]
  | some o => exact h.status_ne_stale counter (List.mem_of_getElem? ho)

/-! ### Superseded stretches -/

/-- The contexts that a graph works on: its run's, and those of the groups that run. -/
def contexts (g : GraphRun) : List Context := g.run.context :: g.atWork.map fun e => e.2.context

/-- A run that is superseded or halted begins no further group. -/
theorem goOn_refused (h : g.run.isStale counter = true ∨ g.run.halted = true) (rest : List Nat)
    (waves : List (List Nat)) : (goOn rules counter rest waves g).stage = .finished := by
  -- No group of a wave is let through, so every wave goes by without a stage.
  have hopen (wave : List Nat) (g : GraphRun) (h : g.run.isStale counter = true ∨ g.run.halted = true) :
      (openWave counter wave g).1 = [] := by
    induction wave generalizing g with
    | nil => rfl
    | cons place rest ih =>
      by_cases hstale : g.run.isStale counter = true
      · simp only [openWave, refusal?, hstale, if_true]
        exact ih _ (.inl hstale)
      · simp only [openWave, refusal?, if_neg hstale, h.resolve_left hstale, Bool.true_or, if_true]
        exact ih _ (.inr (h.resolve_left hstale))
  fun_induction goOn rules counter rest waves g with
  | case1 _ _ _ _ _ ih => exact ih h
  | case2 _ _ _ _ _ _ ih => exact ih h
  | case3 _ _ _ _ hs hh => exact absurd (h.resolve_left hs) hh
  | case4 => rfl
  | case5 wave waves g runnable g' ho hr =>
    have hnil := hopen wave g h
    rw [ho] at hnil
    simp [show runnable = [] from hnil] at hr
  | case6 wave waves g runnable g' ho _ ih =>
    have hrun := @run_openWave counter g wave
    rw [ho] at hrun
    exact ih (by rwa [show g'.run = g.run from hrun])

theorem goOn_superseded (h : g.run.isStale counter = true) (rest : List Nat) (waves : List (List Nat)) :
    (goOn rules counter rest waves g).stage = .finished := goOn_refused (.inl h) rest waves

/-- The graph of one group, before the group begins. -/
def ofGroup (name : String) (group : StepGroup) (run : Run) : GraphRun :=
  { groups := [(name, group)], plan := ⟨[[0]], [[]], false⟩, run, stage := .finished }

theorem active_of_finished (h : g.stage = .finished) : g.active = [] := by simp [active, h]

theorem contexts_of_finished (h : g.stage = .finished) : g.contexts = [g.run.context] := by
  simp [contexts, atWork, h]

theorem contexts_poll_superseded (hc : counter.isCurrent g.run.epoch = false) :
    (g.poll rules counter place t).1.contexts ⊆ g.contexts := by
  intro c hmem
  simp only [poll] at hmem
  split at hmem
  · exact hmem
  next group hg =>
    rw [hc] at hmem
    simp only [contexts, run_put, List.mem_cons, List.mem_map] at hmem ⊢
    obtain rfl | ⟨e, he, rfl⟩ := hmem
    · exact .inl rfl
    · obtain rfl | he := mem_atWork_put he
      · exact .inr ⟨_, mem_atWork_of_running? hg, GroupRun.context_poll_superseded.symm⟩
      · exact .inr ⟨e, he, rfl⟩

theorem contexts_deliver {index : Nat} {answer : Answer} :
    (g.deliver place index answer).contexts ⊆ g.contexts := by
  intro c hmem
  simp only [deliver] at hmem
  split at hmem
  · exact hmem
  next group hg =>
    simp only [contexts, run_put, List.mem_cons, List.mem_map] at hmem ⊢
    obtain rfl | ⟨e, he, rfl⟩ := hmem
    · exact .inl rfl
    · obtain rfl | he := mem_atWork_put he
      · exact .inr ⟨_, mem_atWork_of_running? hg, rfl⟩
      · exact .inr ⟨e, he, rfl⟩

theorem events_poll_superseded (hc : counter.isCurrent g.run.epoch = false) :
    (g.poll rules counter place t).2.events = t.events := by
  simp only [poll, hc]
  split
  · rfl
  · exact GroupRun.events_poll_superseded

theorem calls_poll_superseded (hc : counter.isCurrent g.run.epoch = false) :
    (g.poll rules counter place t).2.calls = match (g.running? place).filter GroupRun.isUnbegun with
      | some group => (group.poll rules true t).2.calls
      | none => t.calls := by
  simp only [poll, hc]
  split
  next h => simp [h]
  next group h =>
    rw [GroupRun.calls_poll_superseded, h, Option.filter_some]
    split <;> rfl

theorem isStale_absorb {r : Run} {o : GroupOutcome} : (r.absorb rules false o).isStale counter = true := by
  simp [Run.absorb, Run.isStale]

theorem context_foldl_merge_superseded (groups : List (Nat × GroupRun)) :
    (groups.foldl (fun g e => g.merge rules false e.1 e.2) g).run.context = g.run.context := by
  apply apply_foldl (fun g => g.run.context)
  exact fun _ _ => rfl

/-- When the groups of a superseded graph have all finished, the graph is over, and nothing new has come
into its context. -/
theorem close_superseded (hc : counter.isCurrent g.run.epoch = false) (ha : g.active = []) :
    (g.close rules counter).stage = .finished ∧
      (g.close rules counter).run.context ∈ g.contexts := by
  have hfin : ∀ e ∈ g.atWork, e.2.isFinished = true := fun e => isFinished_of_active_eq_nil ha
  simp only [close, hc]
  unfold atWork at hfin
  cases hs : g.stage with
  | together groups waves =>
    simp only [hs] at hfin ⊢
    rw [if_pos (List.all_eq_true.2 hfin), run_goOn, context_foldl_merge_superseded]
    refine ⟨goOn_superseded ?_ _ _, List.mem_cons_self⟩
    simp [Run.isStale, epoch_foldl_merge, hc]
  | alone i group rest waves =>
    simp only [hs, List.mem_singleton, forall_eq] at hfin ⊢
    rw [if_pos hfin, run_goOn]
    refine ⟨goOn_superseded isStale_absorb _ _, ?_⟩
    simp [contexts, atWork, hs, record, Run.absorb]
  | finished => exact ⟨hs, List.mem_cons_self⟩

end GraphRun

end BackOffice
