import BackOffice.Proofs.Run.Epochs
import Mathlib

/-!
What the count of runs protects. Only the newest run of a handle is kept, and nothing that was kept
before gets lost; a superseded run takes up no answer and tells of nothing; and handles do not touch each
other. One thing slips through: a superseded run still starts the groups of an open wave that have not
begun yet.
-/

namespace BackOffice

namespace GraphRun

variable {rules : RunRules} {counter : EpochCounter} {g : GraphRun} {t : Trace} {place : Nat}

theorem enter_of_finished (h : g.stage = .finished) : g.enter rules counter t = (g, t) := by
  simp only [enter, active_of_finished h]

/-- A superseded run that is set to work comes to its end at once. -/
theorem start_superseded {graph : WorkflowGraph} {r : Run} (h : r.isStale counter = true) :
    ((start rules counter graph r).enter rules counter t).1.contexts = [r.context] ∧
      (start rules counter graph r).enter rules counter t = (start rules counter graph r, t) := by
  have hstage : (start rules counter graph r).stage = .finished := goOn_superseded h _ _
  rw [enter_of_finished hstage, contexts_of_finished hstage, run_start]
  exact ⟨rfl, rfl⟩

theorem resume_superseded (hc : counter.isCurrent g.run.epoch = false) :
    (g.resume rules counter place t).1.contexts ⊆ g.contexts ∧
      (g.resume rules counter place t).2 = (g.poll rules counter place t).2 := by
  have hpoll := @contexts_poll_superseded rules counter g t place hc
  have hc' : counter.isCurrent (g.poll rules counter place t).1.run.epoch = false := by rwa [run_poll]
  simp only [resume]
  split
  next hactive =>
    obtain ⟨hstage, hmem⟩ := @close_superseded rules _ _ hc' (List.isEmpty_iff.1 hactive)
    rw [enter_of_finished hstage, contexts_of_finished hstage]
    exact ⟨fun c h => hpoll (List.mem_singleton.1 h ▸ hmem), rfl⟩
  next => exact ⟨hpoll, rfl⟩

end GraphRun

namespace Interplay

variable {s s' : Interplay} {run p : Nat} {turn : Turn} {state old : RunState}

/-! ### What a turn can do -/

/-- A turn begins a run, or it changes the state of the run that takes it, unless that is closed. -/
theorem runs_take_cases (s : Interplay) (turn : Turn) :
    (s.take turn).runs = s.runs ∨
      (∃ p r, turn.run? = none ∧ (s.take turn).runs = s.runs ++ [⟨p, .idle r⟩]) ∨
      ∃ run p old state, turn.run? = some run ∧ s.runs[run]? = some ⟨p, old⟩ ∧
        (∀ kept, old ≠ .closed kept) ∧ (s.take turn).runs = s.runs.set run ⟨p, state⟩ := by
  cases turn with
  | begin handle | beginWith handle c =>
    simp only [take]
    split
    · exact .inr (.inl ⟨_, _, rfl, rfl⟩)
    · exact .inl rfl
  | edit run c | work run graph | answer run place index answer | resume run place | commit run =>
    simp only [take]
    split
    next h => exact .inr (.inr ⟨_, _, _, _, rfl, h, by simp, rfl⟩)
    · exact .inl rfl
  | fork handle =>
    simp only [take]
    split <;> exact .inl rfl
  | tick now => exact .inl rfl

/-- A turn begins a run on a handle, keeps the context of a run, or makes a new handle; no other turn
touches the handles. -/
theorem handles_take_cases (s : Interplay) (turn : Turn) :
    (s.take turn).handles = s.handles ∨
      (∃ p h c, s.handleOf turn = some p ∧ s.handles[p]? = some h ∧
        (s.take turn).handles = s.handles.set p (Handle.beginWith h c).1) ∨
      (∃ run p r, turn = .commit run ∧ s.runs[run]? = some ⟨p, .idle r⟩ ∧
        (s.take turn).handles = s.handles.set p ((s.handles[p]?.getD {}).commit r).1) ∨
      (s.take turn).handles = s.handles ++ [({} : Handle)] := by
  cases turn with
  | begin handle =>
    simp only [take]
    split
    next h hp => exact .inr (.inl ⟨handle, h, h.committed, rfl, hp, rfl⟩)
    · exact .inl rfl
  | beginWith handle c =>
    simp only [take]
    split
    next h hp => exact .inr (.inl ⟨handle, h, c, rfl, hp, rfl⟩)
    · exact .inl rfl
  | edit run c | work run graph | answer run place index answer | resume run place =>
    simp only [take]
    split <;> exact .inl rfl
  | commit run =>
    simp only [take]
    split
    next p r hr => exact .inr (.inr (.inl ⟨run, p, r, rfl, hr, rfl⟩))
    · exact .inl rfl
  | fork handle =>
    simp only [take]
    split
    · exact .inr (.inr (.inr rfl))
    · exact .inl rfl
  | tick now => exact .inl rfl

/-! ### What a turn leaves as it is -/

theorem places_take (s : Interplay) (turn : Turn) : s.places <+: (s.take turn).places := by
  obtain h | ⟨_, _, -, h⟩ | ⟨run, p, old, state, -, hrun, -, h⟩ := runs_take_cases s turn
  · exact ⟨[], by rw [List.append_nil, places, places, h]⟩
  · rw [places, places, h, List.map_append]
    exact List.prefix_append _ _
  · exact ⟨[], by rw [List.append_nil, places.eq_1 (s.take turn), h, places_set hrun]⟩

/-- A turn leaves the runs alone that do not take it. -/
theorem runs_take (hlt : run < s.runs.length) (hne : turn.run? ≠ some run) :
    (s.take turn).runs[run]? = s.runs[run]? := by
  obtain h | ⟨_, _, -, h⟩ | ⟨other, p, old, state, hother, -, -, h⟩ := runs_take_cases s turn
  · rw [h]
  · rw [h, List.getElem?_append_left hlt]
  · rw [h, List.getElem?_set_ne]
    rintro rfl
    exact hne hother

theorem runs_take_closed {kept : Option Context} (hclosed : s.runs[run]? = some ⟨p, .closed kept⟩) :
    (s.take turn).runs[run]? = some ⟨p, .closed kept⟩ := by
  obtain h | ⟨_, _, -, h⟩ | ⟨other, p', old, state, hother, hold, hnot, h⟩ := runs_take_cases s turn
  · rw [h, hclosed]
  · rw [h, List.getElem?_append_left (List.getElem?_eq_some_iff.1 hclosed).1, hclosed]
  · rw [h, List.getElem?_set_ne, hclosed]
    rintro rfl
    rw [hclosed] at hold
    cases hold
    exact hnot _ rfl

theorem superseded_take (h : s.Superseded run) (turn : Turn) : (s.take turn).Superseded run := by
  obtain ⟨handle, newer, hlt, hrun, hnewer⟩ := h
  obtain ⟨more, hmore⟩ := places_take s turn
  have hkeep {i : Nat} (hi : s.places[i]? = some handle) : (s.take turn).places[i]? = some handle := by
    rw [← hmore, List.getElem?_append_left (List.getElem?_eq_some_iff.1 hi).1, hi]
  exact ⟨handle, newer, hlt, hkeep hrun, hkeep hnewer⟩

theorem superseded_after (h : s.Superseded run) (turns : List Turn) : (s.after turns).Superseded run := by
  induction turns generalizing s with
  | nil => exact h
  | cons turn rest ih => exact ih (superseded_take h turn)

/-- Only turns about a handle change it. -/
theorem handles_take (hlt : p < s.handles.length) (hne : s.handleOf turn ≠ some p) :
    (s.take turn).handles[p]? = s.handles[p]? := by
  obtain h | ⟨q, _, c, hq, -, h⟩ | ⟨run, q, r, rfl, hrun, h⟩ | h := handles_take_cases s turn
  · rw [h]
  · rw [h, List.getElem?_set_ne]
    rintro rfl
    exact hne hq
  · rw [h, List.getElem?_set_ne]
    rintro rfl
    exact hne (by simp [handleOf, Turn.run?, places_of_runs hrun])
  · rw [h, List.getElem?_append_left hlt]

theorem length_handles_take (s : Interplay) (turn : Turn) :
    s.handles.length ≤ (s.take turn).handles.length := by
  obtain h | ⟨q, _, c, hq, -, h⟩ | ⟨run, q, r, -, -, h⟩ | h := handles_take_cases s turn <;> simp [h]

theorem handles_after {turns : List Turn} (hlt : p < s.handles.length) (h : s.Avoids p turns) :
    (s.after turns).handles[p]? = s.handles[p]? := by
  induction turns generalizing s with
  | nil => rfl
  | cons turn rest ih =>
    rw [← handles_take hlt h.1]
    exact ih (Nat.lt_of_lt_of_le hlt (length_handles_take s turn)) h.2

/-! ### Which contexts are kept -/

theorem isStale_iff (hs : s.Sound) {r : Run} (hrun : s.runs[run]? = some ⟨p, .idle r⟩) :
    r.isStale (s.counterAt p) = true ↔ s.Superseded run := by
  obtain ⟨he, hstale⟩ := (hs _ _ _ hrun).2
  have hcurrent := RunState.isCurrent_iff he
  rw [superseded_iff (places_of_runs hrun)]
  by_cases h0 : s.later run p = 0
  · simp [Run.isStale, hstale h0, hcurrent.2 h0, h0]
  · have hnot : (s.counterAt p).isCurrent r.epoch = false := by
      rw [← Bool.not_eq_true, hcurrent]
      exact h0
    simp [Run.isStale, hnot, h0]

/-- The context kept at a handle changes only when a run is handed in that is not superseded. -/
theorem committedAt_take (hs : s.Sound) (hlt : p < s.handles.length) (turn : Turn) :
    (s.take turn).committedAt p = s.committedAt p ∨
      ∃ run r, turn = .commit run ∧ s.runs[run]? = some ⟨p, .idle r⟩ ∧ ¬ s.Superseded run := by
  obtain h | ⟨q, old, c, -, hold, h⟩ | ⟨run, q, r, rfl, hrun, h⟩ | h := handles_take_cases s turn
  · exact .inl (by rw [committedAt, h, committedAt])
  · left
    by_cases hqp : q = p
    · subst hqp
      rw [committedAt, h, List.getElem?_set_self hlt, committedAt, hold]
      rfl
    · rw [committedAt, h, List.getElem?_set_ne hqp, committedAt]
  · by_cases hqp : q = p
    · subst hqp
      by_cases hsup : s.Superseded run
      · left
        have hstale := (isStale_iff hs hrun).2 hsup
        rw [counterAt] at hstale
        rw [committedAt, h, Handle.commit, if_pos hstale, List.getElem?_set_self hlt, committedAt,
          List.getElem?_eq_getElem hlt]
        rfl
      · exact .inr ⟨run, r, rfl, hrun, hsup⟩
    · exact .inl (by rw [committedAt, h, List.getElem?_set_ne hqp, committedAt])
  · exact .inl (by rw [committedAt, h, List.getElem?_append_left hlt, committedAt])

/-- What is kept at a handle stays there as long as a run begun on it is the newest and not closed. -/
theorem committedAt_take_of_newest (hs : s.Sound) (hrun : s.runs[run]? = some ⟨p, state⟩)
    (hnot : ¬ (s.take turn).Superseded run)
    (hidle : ∀ kept, (s.take turn).runs[run]? ≠ some ⟨p, .closed kept⟩) :
    (s.take turn).committedAt p = s.committedAt p := by
  obtain h | ⟨other, r, rfl, hother, hnewest⟩ := committedAt_take hs (hs _ _ _ hrun).1 turn
  · exact h
  · have hp := places_of_runs hrun
    have hp' := places_of_runs hother
    -- An older run is superseded by this one, and a newer one would supersede this one.
    rcases Nat.lt_trichotomy other run with hlt | rfl | hlt
    · exact absurd ⟨p, run, hlt, hp', hp⟩ hnewest
    · have hlen := (List.getElem?_eq_some_iff.1 hother).1
      refine absurd ?_ (hidle ((s.handles[p]?.getD {}).commit r).2)
      simp only [take, hother]
      exact List.getElem?_set_self hlen
    · exact absurd (superseded_take ⟨p, other, hlt, hp, hp'⟩ _) hnot

theorem committedAt_after_of_newest {turns : List Turn} (hs : s.Sound)
    (hrun : s.runs[run]? = some ⟨p, state⟩) (hnot : ¬ (s.after turns).Superseded run)
    (hidle : ∀ kept, (s.after turns).runs[run]? ≠ some ⟨p, .closed kept⟩) :
    (s.after turns).committedAt p = s.committedAt p := by
  induction turns generalizing s state with
  | nil => rfl
  | cons turn rest ih =>
    -- A run that is closed stays closed, so it was not handed in on the way.
    have hclosed {s' : Interplay} {kept : Option Context} (turns : List Turn)
        (h : s'.runs[run]? = some ⟨p, .closed kept⟩) :
        (s'.after turns).runs[run]? = some ⟨p, .closed kept⟩ := by
      induction turns generalizing s' with
      | nil => exact h
      | cons _ _ ih' => exact ih' (runs_take_closed h)
    have hnot' : ¬ (s.take turn).Superseded run := fun h => hnot (superseded_after h rest)
    have hidle' (kept : Option Context) : (s.take turn).runs[run]? ≠ some ⟨p, .closed kept⟩ :=
      fun h => hidle kept (hclosed rest h)
    obtain ⟨state', hrun'⟩ : ∃ state', (s.take turn).runs[run]? = some ⟨p, state'⟩ := by
      obtain ⟨more, hmore⟩ := places_take s turn
      have hp := places_of_runs hrun
      have hplace : (s.take turn).places[run]? = some p := by
        rw [← hmore, List.getElem?_append_left (List.getElem?_eq_some_iff.1 hp).1, hp]
      rw [places, List.getElem?_map] at hplace
      obtain ⟨⟨_, state'⟩, hstate, rfl⟩ := Option.map_eq_some_iff.1 hplace
      exact ⟨state', hstate⟩
    exact (ih (sound_take hs turn) hrun' hnot hidle).trans
      (committedAt_take_of_newest hs hrun hnot' hidle')

/-! ### Superseded runs -/

theorem isCurrent_of_superseded {g : GraphRun} (hs : s.Sound) (hsup : s.Superseded run)
    (hrun : s.runs[run]? = some ⟨p, .working g⟩) : (s.counterAt p).isCurrent g.run.epoch = false := by
  rw [← Bool.not_eq_true, RunState.isCurrent_iff (hs _ _ _ hrun).2.1]
  exact (superseded_iff (places_of_runs hrun)).1 hsup

theorem contexts_of (g : GraphRun) : (RunState.of g).contexts ⊆ g.contexts := by
  unfold RunState.of
  split
  · exact fun c h => List.mem_cons.2 (.inl (List.mem_singleton.1 h))
  · exact fun c h => h

theorem contextsOf_eq (hrun : s.runs[run]? = some ⟨p, state⟩) : s.contextsOf run = state.contexts := by
  simp [contextsOf, hrun]

theorem contextsOf_set (hrun : s.runs[run]? = some ⟨p, old⟩)
    (h : s'.runs = s.runs.set run ⟨p, state⟩) : s'.contextsOf run = state.contexts := by
  rw [contextsOf, h, List.getElem?_set_self (List.getElem?_eq_some_iff.1 hrun).1]
  rfl

/-- What a superseded run can still do in one turn: it leaves the handles alone, tells of nothing, sends
only the first requests of a group, and takes up nothing that it did not have. -/
structure QuietIn (s : Interplay) (run : Nat) (turn : Turn) : Prop where
  handles : (s.take turn).handles = s.handles
  events : (s.take turn).events = s.events
  calls : (s.take turn).calls = s.calls ++ s.lateCalls turn
  contexts : (∀ c, turn ≠ .edit run c) → (s.take turn).contextsOf run ⊆ s.contextsOf run

theorem quietIn_of_take_eq (h : s.take turn = s) (hlate : s.lateCalls turn = []) : s.QuietIn run turn := by
  refine ⟨?_, ?_, ?_, fun _ => ?_⟩ <;> simp [h, hlate]

theorem quietIn_work {r : Run} (hs : s.Sound) (hsup : s.Superseded run)
    (hrun : s.runs[run]? = some ⟨p, .idle r⟩) (graph : WorkflowGraph) :
    s.QuietIn run (.work run graph) := by
  have hstale := (isStale_iff hs hrun).2 hsup
  obtain ⟨hcontexts, hstart⟩ :=
    @GraphRun.start_superseded s.rules (s.counterAt p) { surroundings := s.surroundings } graph r hstale
  have htake : s.take (.work run graph) = s.carry run p
      (GraphRun.start s.rules (s.counterAt p) graph r, { surroundings := s.surroundings }) := by
    simp only [take, hrun, hstart]
  rw [hstart] at hcontexts
  refine ⟨?_, ?_, ?_, fun _ => ?_⟩
  · rw [htake, carry]
  · rw [htake, carry, List.append_nil]
  · rw [htake, carry]
    rfl
  · rw [htake, contextsOf_set hrun rfl, contextsOf_eq hrun]
    intro c hmem
    have := contexts_of _ hmem
    rwa [hcontexts] at this

theorem quietIn_answer {g : GraphRun} (hrun : s.runs[run]? = some ⟨p, .working g⟩) (place index : Nat)
    (answer : Answer) : s.QuietIn run (.answer run place index answer) := by
  have htake : s.take (.answer run place index answer) =
      { s with runs := s.runs.set run ⟨p, .working (g.deliver place index answer)⟩ } := by
    simp only [take, hrun]
  refine ⟨by rw [htake], by rw [htake], by rw [htake]; simp [lateCalls], fun _ => ?_⟩
  rw [htake, contextsOf_set hrun rfl, contextsOf_eq hrun]
  exact GraphRun.contexts_deliver

theorem lateCalls_resume {g : GraphRun} (hs : s.Sound) (hrun : s.runs[run]? = some ⟨p, .working g⟩)
    (place : Nat) :
    s.lateCalls (.resume run place) = match (g.running? place).filter GroupRun.isUnbegun with
      | some group => (group.poll s.rules true { surroundings := s.surroundings }).2.calls
      | none => [] := by
  simp only [lateCalls, hrun, GraphRun.running?]
  cases h : g.stage with
  | together groups waves => rfl
  | alone i group rest waves =>
    have hbegun := (hs _ _ _ hrun).2.2.2 _ _ _ _ h
    by_cases hi : i = place
    · simp only [if_pos hi, Option.filter_some, hbegun, Bool.false_eq_true, if_false]
    · simp only [if_neg hi, Option.filter_none]
  | finished => rfl

theorem quietIn_resume {g : GraphRun} (hs : s.Sound) (hsup : s.Superseded run)
    (hrun : s.runs[run]? = some ⟨p, .working g⟩) (place : Nat) : s.QuietIn run (.resume run place) := by
  have hc := isCurrent_of_superseded hs hsup hrun
  obtain ⟨hcontexts, htrace⟩ := @GraphRun.resume_superseded s.rules (s.counterAt p) g
    { surroundings := s.surroundings } place hc
  have htake : s.take (.resume run place) =
      s.carry run p (g.resume s.rules (s.counterAt p) place { surroundings := s.surroundings }) := by
    simp only [take, hrun]
  have hcalls : (g.resume s.rules (s.counterAt p) place { surroundings := s.surroundings }).2.calls =
      s.lateCalls (.resume run place) := by
    rw [htrace, lateCalls_resume hs hrun]
    exact GraphRun.calls_poll_superseded hc
  refine ⟨?_, ?_, ?_, fun _ => ?_⟩
  · rw [htake, carry]
  · rw [htake, carry, htrace, GraphRun.events_poll_superseded hc, List.append_nil]
  · rw [htake, carry, hcalls]
  · rw [htake, contextsOf_set hrun rfl, contextsOf_eq hrun]
    exact fun c hmem => hcontexts (contexts_of _ hmem)

theorem take_commit_superseded {r : Run} (hs : s.Sound) (hsup : s.Superseded run)
    (hrun : s.runs[run]? = some ⟨p, .idle r⟩) :
    s.take (.commit run) = { s with runs := s.runs.set run ⟨p, .closed none⟩ } := by
  have hstale := (isStale_iff hs hrun).2 hsup
  have hlt := (hs _ _ _ hrun).1
  rw [counterAt] at hstale
  simp only [take, hrun, Handle.commit, if_pos hstale]
  congr 1
  rw [List.getElem?_eq_getElem hlt]
  exact List.set_getElem_self hlt

theorem quietIn_commit {r : Run} (hs : s.Sound) (hsup : s.Superseded run)
    (hrun : s.runs[run]? = some ⟨p, .idle r⟩) : s.QuietIn run (.commit run) := by
  have htake := take_commit_superseded hs hsup hrun
  refine ⟨by rw [htake], by rw [htake], by rw [htake]; simp [lateCalls], fun _ => ?_⟩
  rw [htake, contextsOf_set hrun rfl]
  exact List.nil_subset _

theorem quietIn_edit (c : Context) : s.QuietIn run (.edit run c) := by
  refine ⟨?_, ?_, ?_, fun h => absurd rfl (h c)⟩
  all_goals
    simp only [take]
    split <;> simp [lateCalls]

/-- From then on a superseded run only starts what its open wave still has to begin. -/
theorem quietIn_of_superseded (hs : s.Sound) (hsup : s.Superseded run) (hturn : turn.run? = some run) :
    s.QuietIn run turn := by
  -- A turn that does not fit the state of the run changes nothing.
  rcases hrun : s.runs[run]? with _ | ⟨p, r | g | kept⟩
  all_goals cases turn <;> simp only [Turn.run?, Option.some.injEq, reduceCtorEq] at hturn
  all_goals subst hturn
  case some.idle.work graph => exact quietIn_work hs hsup hrun graph
  case some.working.answer place index answer => exact quietIn_answer hrun place index answer
  case some.working.resume place => exact quietIn_resume hs hsup hrun place
  case some.idle.commit => exact quietIn_commit hs hsup hrun
  case some.idle.edit c => exact quietIn_edit c
  all_goals exact quietIn_of_take_eq (by simp only [take, hrun]) (by simp only [lateCalls, hrun])

theorem contextsOf_after (hs : s.Sound) (hsup : s.Superseded run) {turns : List Turn}
    (hedit : ∀ c, .edit run c ∉ turns) : (s.after turns).contextsOf run ⊆ s.contextsOf run := by
  induction turns generalizing s with
  | nil => exact List.Subset.refl _
  | cons turn rest ih =>
    have hrest : (s.after (turn :: rest)).contextsOf run ⊆ (s.take turn).contextsOf run :=
      ih (sound_take hs turn) (superseded_take hsup turn) fun c h => hedit c (List.mem_cons_of_mem _ h)
    refine List.Subset.trans hrest ?_
    by_cases hturn : turn.run? = some run
    · exact (quietIn_of_superseded hs hsup hturn).contexts fun c h => hedit c (h ▸ List.mem_cons_self)
    · obtain ⟨p, newer, -, hp, -⟩ := hsup
      have hlt := (List.getElem?_eq_some_iff.1 hp).1
      rw [places, List.length_map] at hlt
      rw [contextsOf, runs_take hlt hturn, contextsOf]
      exact List.Subset.refl _

/-! ### The protocol -/

/-- What the count of runs promises from some point on. -/
structure EpochProtocol (s : Interplay) : Prop where
  /-- A superseded run stays superseded. -/
  forever : ∀ run turns, s.Superseded run → (s.after turns).Superseded run
  /-- Handing in a superseded run keeps nothing and changes no handle. -/
  kept_nothing : ∀ run p r, s.runs[run]? = some ⟨p, .idle r⟩ → s.Superseded run →
    s.take (.commit run) = { s with runs := s.runs.set run ⟨p, .closed none⟩ }
  /-- Handing in the newest run keeps its context. -/
  kept : ∀ run p r, s.runs[run]? = some ⟨p, .idle r⟩ → ¬ s.Superseded run →
    (s.take (.commit run)).runs[run]? = some ⟨p, .closed (some r.context.clearJournal)⟩ ∧
      (s.take (.commit run)).committedAt p = some r.context.clearJournal
  /-- Nothing else changes what is kept at a handle. -/
  committed : ∀ turn p, p < s.handles.length → (s.take turn).committedAt p = s.committedAt p ∨
    ∃ run r, turn = .commit run ∧ s.runs[run]? = some ⟨p, .idle r⟩ ∧ ¬ s.Superseded run
  /-- A run changes in its own turns only, and a superseded one does next to nothing in them. -/
  own : ∀ run turn, run < s.runs.length → turn.run? ≠ some run → (s.take turn).runs[run]? = s.runs[run]?
  quiet : ∀ run turn, s.Superseded run → turn.run? = some run → s.QuietIn run turn
  /-- No answer comes into the contexts of a superseded run. -/
  contexts : ∀ run turns, s.Superseded run → (∀ c, .edit run c ∉ turns) →
    (s.after turns).contextsOf run ⊆ s.contextsOf run
  /-- A run starts from what is kept at its handle, and finds the same there when it is kept itself. -/
  begun : ∀ p h turns, s.handles[p]? = some h →
    (s.take (.begin p)).runs[s.runs.length]? =
        some ⟨p, .idle { epoch := h.counter.current + 1, context := h.committed.clearJournal }⟩ ∧
      ∀ r, ((s.take (.begin p)).after turns).runs[s.runs.length]? = some ⟨p, .idle r⟩ →
        ¬ ((s.take (.begin p)).after turns).Superseded s.runs.length →
          ((s.take (.begin p)).after turns).committedAt p = some h.committed
  /-- A handle changes only in turns about it, and a new handle is a place of its own. -/
  apart : ∀ p turns, p < s.handles.length → s.Avoids p turns →
    (s.after turns).handles[p]? = s.handles[p]?
  forked : ∀ p, p < s.handles.length → (s.take (.fork p)).handles = s.handles ++ [({} : Handle)]

theorem take_commit_newest {r : Run} (hs : s.Sound) (hrun : s.runs[run]? = some ⟨p, .idle r⟩)
    (hnot : ¬ s.Superseded run) :
    (s.take (.commit run)).runs[run]? = some ⟨p, .closed (some r.context.clearJournal)⟩ ∧
      (s.take (.commit run)).committedAt p = some r.context.clearJournal := by
  have hstale : ¬ r.isStale (s.counterAt p) = true := fun h => hnot ((isStale_iff hs hrun).1 h)
  have hlt := (hs _ _ _ hrun).1
  have hlen := (List.getElem?_eq_some_iff.1 hrun).1
  rw [counterAt] at hstale
  simp only [take, hrun, Handle.commit, if_neg hstale, committedAt]
  rw [List.getElem?_set_self hlen, List.getElem?_set_self hlt]
  exact ⟨rfl, rfl⟩

theorem begun_of_begin {h : Handle} (hs : s.Sound) (hp : s.handles[p]? = some h) (turns : List Turn) :
    (s.take (.begin p)).runs[s.runs.length]? =
        some ⟨p, .idle { epoch := h.counter.current + 1, context := h.committed.clearJournal }⟩ ∧
      ∀ r, ((s.take (.begin p)).after turns).runs[s.runs.length]? = some ⟨p, .idle r⟩ →
        ¬ ((s.take (.begin p)).after turns).Superseded s.runs.length →
          ((s.take (.begin p)).after turns).committedAt p = some h.committed := by
  have hrun : (s.take (.begin p)).runs[s.runs.length]? =
      some ⟨p, .idle { epoch := h.counter.current + 1, context := h.committed.clearJournal }⟩ := by
    simp only [take, hp, enrol, List.getElem?_concat_length]
    rfl
  refine ⟨hrun, fun r hr hnot => ?_⟩
  have hkeep := committedAt_after_of_newest (sound_take hs _) hrun hnot (by simp [hr])
  have hlt := (List.getElem?_eq_some_iff.1 hp).1
  rw [hkeep]
  simp only [take, hp, enrol, committedAt]
  rw [List.getElem?_set_self hlt]
  rfl

/-- The protocol holds at every point of every course of turns. The only thing that a superseded run still
does is to start the groups of its open wave that have not begun. -/
theorem epochProtocol_after (rules : RunRules) (surroundings : Surroundings) (turns : List Turn) :
    EpochProtocol ((opening rules surroundings).after turns) := by
  have hs := sound_after (sound_opening rules surroundings) turns
  exact {
    forever := fun _ turns h => superseded_after h turns
    kept_nothing := fun _ _ _ hrun h => take_commit_superseded hs h hrun
    kept := fun _ _ _ hrun h => take_commit_newest hs hrun h
    committed := fun turn _ hlt => committedAt_take hs hlt turn
    own := fun _ _ hlt h => runs_take hlt h
    quiet := fun _ _ h hturn => quietIn_of_superseded hs h hturn
    contexts := fun _ _ h hedit => contextsOf_after hs h hedit
    begun := fun _ _ turns hp => begun_of_begin hs hp turns
    apart := fun _ _ hlt h => handles_after hlt h
    forked := fun p hlt => by simp only [take, if_pos hlt] }

/-- Two groups of one step each that do not depend on each other. -/
def pairGraph : WorkflowGraph :=
  ⟨[("a", ⟨[{ workflow := "A" }]⟩), ("b", ⟨[{ workflow := "B" }]⟩)]⟩

/-- A run of two groups that is superseded while its first group waits. -/
def overtaken : Interplay :=
  (opening {} ⟨.epoch, ⟨"id", 0⟩⟩).after [.begin 0, .work 0 pairGraph, .begin 0]

/-- A superseded run starts a step all the same: the second group of its open wave. -/
theorem superseded_run_starts_step :
    overtaken.Superseded 0 ∧
      overtaken.calls.map (·.request.workflow) = ["A"] ∧
      (overtaken.take (.resume 0 1)).calls.map (·.request.workflow) = ["A", "B"] := by
  refine ⟨⟨0, 1, by decide, ?_, ?_⟩, ?_, ?_⟩
  · decide +kernel
  · decide +kernel
  · cbv
  · cbv

end Interplay

end BackOffice
