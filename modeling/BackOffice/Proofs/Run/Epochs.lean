import BackOffice.Proofs.Run.Interplay

/-!
The count of runs under every course of turns. The epoch of a run and the number of runs begun after it
on the same handle add up to the count of the handle, so that a run is current exactly as long as no
other has been begun.
-/

namespace BackOffice

namespace GraphRun

variable {rules : RunRules} {counter : EpochCounter} {g : GraphRun} {t : Trace} {place : Nat}

theorem run_enter : (g.enter rules counter t).1.run = g.run := by
  unfold enter
  split
  · rfl
  · exact run_poll

theorem epoch_resume : (g.resume rules counter place t).1.run.epoch = g.run.epoch := by
  simp only [resume]
  split
  · rw [run_enter, epoch_close, run_poll]
  · rw [run_poll]

theorem unstale_enter (hc : counter.isCurrent g.run.epoch = true) (h : g.Unstale) :
    (g.enter rules counter t).1.Unstale := by
  unfold enter
  split
  · exact h
  · exact unstale_poll hc h

theorem unstale_resume (hc : counter.isCurrent g.run.epoch = true) (h : g.Unstale) :
    (g.resume rules counter place t).1.Unstale := by
  have hpoll := @unstale_poll rules counter g t place hc h
  have hrun := @run_poll rules counter g t place
  simp only [resume]
  split
  · apply unstale_enter
    · rwa [epoch_close, hrun]
    · exact unstale_close (by rwa [hrun]) hpoll
  · exact hpoll

/-- A group that runs alone has begun: it begins in the turn in which its stage is opened. -/
def Entered (g : GraphRun) : Prop :=
  ∀ place group rest waves, g.stage = .alone place group rest waves → group.isUnbegun = false

theorem isUnbegun_of_isFinished {group : GroupRun} (h : group.isFinished = true) :
    group.isUnbegun = false := by
  unfold GroupRun.isFinished at h
  unfold GroupRun.isUnbegun
  split at h <;> simp_all

theorem entered_put {group : GroupRun} (h : g.Entered) (hg : group.isUnbegun = false) :
    (g.put place group).Entered := by
  intro i other rest waves hs
  cases hstage : g.stage with
  | together groups waves => simp [put, hstage] at hs
  | alone i' old rest' waves' =>
    simp only [put, hstage] at hs
    split at hs
    · cases hs
      exact hg
    · cases hs
      exact h _ _ _ _ hstage
  | finished => simp [put, hstage] at hs

theorem entered_poll (h : g.Entered) : (g.poll rules counter place t).1.Entered := by
  simp only [poll]
  split
  · exact h
  · exact entered_put h GroupRun.isUnbegun_poll

theorem entered_deliver {index : Nat} {answer : Answer} (h : g.Entered) :
    (g.deliver place index answer).Entered := by
  intro i other rest waves hs
  simp only [deliver] at hs
  split at hs
  · exact h _ _ _ _ hs
  next group hg =>
    cases hstage : g.stage with
    | together groups waves => simp [put, hstage] at hs
    | alone i' old rest' waves' =>
      have hold := h _ _ _ _ hstage
      simp only [put, hstage] at hs
      split at hs
      next hi =>
        cases hs
        simp only [running?, hstage, hi, if_true, Option.some.injEq] at hg
        rw [← hg]
        exact hold
      · cases hs
        exact hold
    | finished => simp [put, hstage] at hs

theorem entered_enter : (g.enter rules counter t).1.Entered := by
  intro i other rest waves hs
  unfold enter at hs
  cases hstage : g.stage with
  | together groups waves =>
    split at hs
    · simp [hstage] at hs
    · simp only [poll] at hs
      split at hs
      · simp [hstage] at hs
      · simp [put, hstage] at hs
  | alone i' old rest' waves' =>
    by_cases hf : old.isFinished = true
    · simp only [active, hstage, hf, if_true] at hs
      cases hs
      exact isUnbegun_of_isFinished hf
    · simp only [active, hstage, hf, poll, running?] at hs
      simp only [Bool.false_eq_true, if_false, put, if_true, hstage] at hs
      cases hs
      exact GroupRun.isUnbegun_poll
  | finished => simp [active, hstage] at hs

theorem entered_resume (h : g.Entered) : (g.resume rules counter place t).1.Entered := by
  simp only [resume]
  split
  · exact entered_enter
  · exact entered_poll h

end GraphRun

/-- Whether the state of a run fits the count of its handle, with so many runs begun after it. -/
def RunState.Fits (counter : EpochCounter) (later : Nat) : RunState → Prop
  | .idle r => r.epoch + later = counter.current ∧ (later = 0 → r.stale = false)
  | .working g => g.run.epoch + later = counter.current ∧ (later = 0 → g.Unstale) ∧ g.Entered
  | .closed _ => True

namespace RunState

variable {counter : EpochCounter} {later : Nat}

theorem fits_of {g : GraphRun} (he : g.run.epoch + later = counter.current)
    (hu : later = 0 → g.Unstale) (hg : g.Entered) : (of g).Fits counter later := by
  unfold of
  split
  · exact ⟨he, fun h => (hu h).1⟩
  · exact ⟨he, hu, hg⟩

theorem fits_enrolled {h : Handle} {c : Context} :
    (idle (h.beginWith c).2).Fits (h.beginWith c).1.counter 0 :=
  ⟨rfl, fun _ => rfl⟩

theorem fits_advance {state : RunState} (h : state.Fits counter later) :
    state.Fits counter.advance (later + 1) := by
  cases state with
  | idle r => exact ⟨congrArg (· + 1) h.1, fun h0 => absurd h0 (Nat.succ_ne_zero _)⟩
  | working g => exact ⟨congrArg (· + 1) h.1, fun h0 => absurd h0 (Nat.succ_ne_zero _), h.2.2⟩
  | closed kept => trivial

/-- Only a run after which no other was begun has the current epoch. -/
theorem isCurrent_iff {epoch : Nat} (h : epoch + later = counter.current) :
    counter.isCurrent epoch = true ↔ later = 0 := by
  rw [EpochCounter.isCurrent, beq_iff_eq]
  omega

end RunState

namespace Interplay

variable {s s' : Interplay} {run p q : Nat} {state old : RunState}

/-! ### Runs by place -/

theorem places_of_runs (h : s.runs[run]? = some ⟨p, state⟩) : s.places[run]? = some p := by
  simp [places, h]

theorem superseded_iff (h : s.places[run]? = some p) : s.Superseded run ↔ s.later run p ≠ 0 := by
  have hcount : s.later run p ≠ 0 ↔ p ∈ s.places.drop (run + 1) := by
    rw [later, ← Nat.pos_iff_ne_zero, List.count_pos_iff]
  rw [hcount, List.mem_iff_getElem?]
  constructor
  · rintro ⟨handle, newer, hlt, hrun, hnewer⟩
    obtain rfl : p = handle := Option.some.inj (h.symm.trans hrun)
    refine ⟨newer - (run + 1), ?_⟩
    rwa [List.getElem?_drop, Nat.add_sub_cancel' hlt]
  · rintro ⟨i, hi⟩
    rw [List.getElem?_drop] at hi
    exact ⟨p, run + 1 + i, by omega, h, hi⟩

theorem places_set (h : s.runs[run]? = some ⟨p, old⟩) :
    (s.runs.set run ⟨p, state⟩).map BegunRun.handle = s.places := by
  obtain ⟨hlt, hrun⟩ := List.getElem?_eq_some_iff.1 h
  apply List.ext_getElem?
  intro i
  by_cases hi : run = i
  · subst hi
    simp [places, hlt, hrun]
  · simp [places, List.getElem?_set_ne hi]

theorem later_append (h : s'.places = s.places ++ [q]) (hlt : run < s.places.length) :
    s'.later run p = s.later run p + if q = p then 1 else 0 := by
  rw [later, later, h, List.drop_append_of_le_length (by omega), List.count_append]
  simp [List.count_singleton]

/-! ### The count of runs -/

theorem counter_commit (h : Handle) (r : Run) : (h.commit r).1.counter = h.counter := by
  unfold Handle.commit
  split <;> rfl

/-- Whether all runs fit the counts of their handles. -/
def Sound (s : Interplay) : Prop :=
  ∀ (run p : Nat) (state : RunState), s.runs[run]? = some ⟨p, state⟩ →
    p < s.handles.length ∧ state.Fits (s.counterAt p) (s.later run p)

theorem counterAt_eq {h : Handle} (hp : s.handles[p]? = some h) : s.counterAt p = h.counter := by
  simp [counterAt, hp]

theorem sound_opening (rules : RunRules) (surroundings : Surroundings) :
    (opening rules surroundings).Sound := by
  intro run p state h
  simp [opening] at h

/-- Replacing the state of one run by one that fits keeps everything sound. -/
theorem sound_replace (hs : s.Sound) (h : s.runs[run]? = some ⟨p, old⟩)
    (hruns : s'.runs = s.runs.set run ⟨p, state⟩) (hlen : s'.handles.length = s.handles.length)
    (hcount : ∀ q, s'.counterAt q = s.counterAt q)
    (hfit : state.Fits (s.counterAt p) (s.later run p)) : s'.Sound := by
  have hplaces : s'.places = s.places := by
    rw [places, hruns, places_set h]
  intro i q other hi
  rw [hlen, hcount, show s'.later i q = s.later i q by rw [later, later, hplaces]]
  rw [hruns, List.getElem?_set] at hi
  split at hi
  next heq =>
    subst heq
    split at hi
    · cases hi
      exact ⟨(hs _ _ _ h).1, hfit⟩
    · cases hi
  next => exact hs i q other hi

theorem sound_enrol (hs : s.Sound) {h : Handle} (hp : s.handles[p]? = some h) (c : Context) :
    (s.enrol p (h.beginWith c)).Sound := by
  have hlt : p < s.handles.length := (List.getElem?_eq_some_iff.1 hp).1
  have hplaces : (s.enrol p (h.beginWith c)).places = s.places ++ [p] := by
    simp [enrol, places]
  have hcounter (q : Nat) : (s.enrol p (h.beginWith c)).counterAt q =
      if p = q then (s.counterAt q).advance else s.counterAt q := by
    simp only [counterAt, enrol, List.getElem?_set]
    split
    next heq =>
      subst heq
      rw [hp]
      rfl
    next => rfl
  intro i q state hi
  have hlen : (s.enrol p (h.beginWith c)).handles.length = s.handles.length := by simp [enrol]
  rw [hlen, hcounter]
  -- Runs begun before fall back by one if they are on the same handle; the new run is the newest.
  by_cases hilt : i < s.runs.length
  · have hi' : s.runs[i]? = some ⟨q, state⟩ := by
      rwa [enrol, List.getElem?_append_left hilt] at hi
    obtain ⟨hq, hfit⟩ := hs i q state hi'
    refine ⟨hq, ?_⟩
    rw [later_append hplaces (by simpa [places] using hilt)]
    split
    · exact RunState.fits_advance hfit
    · exact hfit
  · have hlast : i = s.runs.length := by
      have := (List.getElem?_eq_some_iff.1 hi).1
      simp only [enrol, List.length_append, List.length_singleton] at this
      omega
    subst hlast
    simp only [enrol, List.getElem?_concat_length, Option.some.injEq, BegunRun.mk.injEq] at hi
    obtain ⟨rfl, rfl⟩ := hi
    refine ⟨hlt, ?_⟩
    rw [if_pos rfl, later, hplaces, List.drop_eq_nil_of_le (by simp [places]), counterAt_eq hp]
    exact RunState.fits_enrolled

theorem sound_work {r : Run} (hs : s.Sound) (h : s.runs[run]? = some ⟨p, .idle r⟩) (graph : WorkflowGraph) :
    (s.take (.work run graph)).Sound := by
  obtain ⟨he, hstale⟩ := (hs _ _ _ h).2
  have hrun := @GraphRun.run_start s.rules (s.counterAt p) graph r
  simp only [take, h]
  refine sound_replace hs h rfl rfl (fun _ => rfl) (RunState.fits_of ?_ ?_ GraphRun.entered_enter)
  · rwa [GraphRun.run_enter, hrun]
  · intro h0
    apply GraphRun.unstale_enter
    · rw [hrun]
      exact (RunState.isCurrent_iff he).2 h0
    · exact GraphRun.unstale_goOn (hstale h0) _ _

theorem sound_answer {g : GraphRun} (hs : s.Sound) (h : s.runs[run]? = some ⟨p, .working g⟩)
    (place index : Nat) (answer : Answer) : (s.take (.answer run place index answer)).Sound := by
  obtain ⟨he, hu, hg⟩ := (hs _ _ _ h).2
  simp only [take, h]
  exact sound_replace hs h rfl rfl (fun _ => rfl) ⟨by rwa [GraphRun.run_deliver],
    fun h0 => GraphRun.unstale_deliver (hu h0), GraphRun.entered_deliver hg⟩

theorem sound_resume {g : GraphRun} (hs : s.Sound) (h : s.runs[run]? = some ⟨p, .working g⟩)
    (place : Nat) : (s.take (.resume run place)).Sound := by
  obtain ⟨he, hu, hg⟩ := (hs _ _ _ h).2
  simp only [take, h]
  refine sound_replace hs h rfl rfl (fun _ => rfl) (RunState.fits_of ?_ ?_ (GraphRun.entered_resume hg))
  · rwa [GraphRun.epoch_resume]
  · exact fun h0 => GraphRun.unstale_resume ((RunState.isCurrent_iff he).2 h0) (hu h0)

theorem sound_commit {r : Run} (hs : s.Sound) (h : s.runs[run]? = some ⟨p, .idle r⟩) :
    (s.take (.commit run)).Sound := by
  simp only [take, h]
  refine sound_replace hs h rfl (by simp) (fun q => ?_) trivial
  simp only [counterAt, List.getElem?_set]
  split
  next heq =>
    subst heq
    rw [if_pos (hs _ _ _ h).1, Option.getD_some, counter_commit]
  next => rfl

theorem sound_fork (hs : s.Sound) (handle : Nat) : (s.take (.fork handle)).Sound := by
  simp only [take]
  split
  · intro run p state h
    obtain ⟨hlt, hfit⟩ := hs run p state h
    refine ⟨by simp; omega, ?_⟩
    rwa [counterAt, List.getElem?_append_left hlt]
  · exact hs

/-- Every turn keeps all runs in step with the counts of their handles. -/
theorem sound_take (hs : s.Sound) (turn : Turn) : (s.take turn).Sound := by
  cases turn with
  | begin handle =>
    simp only [take]
    split
    next h hp => exact sound_enrol hs hp h.committed
    next => exact hs
  | beginWith handle c =>
    simp only [take]
    split
    next h hp => exact sound_enrol hs hp c
    next => exact hs
  | fork handle => exact sound_fork hs handle
  | tick now => exact hs
  | edit run c =>
    simp only [take]
    split
    next handle r hr => exact sound_replace hs hr rfl rfl (fun _ => rfl) (hs _ _ _ hr).2
    next => exact hs
  | work run graph =>
    rcases h : s.runs[run]? with _ | ⟨p, r | g | kept⟩
    case some.idle => exact sound_work hs h graph
    all_goals
      simp only [take, h]
      exact hs
  | answer run place index answer =>
    rcases h : s.runs[run]? with _ | ⟨p, r | g | kept⟩
    case some.working => exact sound_answer hs h place index answer
    all_goals
      simp only [take, h]
      exact hs
  | resume run place =>
    rcases h : s.runs[run]? with _ | ⟨p, r | g | kept⟩
    case some.working => exact sound_resume hs h place
    all_goals
      simp only [take, h]
      exact hs
  | commit run =>
    rcases h : s.runs[run]? with _ | ⟨p, r | g | kept⟩
    case some.idle => exact sound_commit hs h
    all_goals
      simp only [take, h]
      exact hs

theorem sound_after (hs : s.Sound) (turns : List Turn) : (s.after turns).Sound := by
  induction turns generalizing s with
  | nil => exact hs
  | cons turn rest ih => exact ih (sound_take hs turn)

end Interplay

end BackOffice
