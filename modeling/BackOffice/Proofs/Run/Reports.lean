import BackOffice.Proofs.Run.Isolation

/-!
What a graph reports. Unless a newer run has begun, the graph has succeeded exactly when it shows no error; the error
that it shows is that of the first step that has failed, and the end of the session is asked for exactly when some step
was answered by it. A superseded graph reports nothing of the kind.
-/

namespace BackOffice

namespace Founded

variable {rules : RunRules} {dependencies : Nat → List Nat} {results : List (Nat × GroupOutcome)}

/-- Some group failed, or was answered by the end of the session, where a group was given up. -/
theorem exists_failed (h : Founded rules dependencies results) (hstale : ∀ e ∈ results, e.2.status ≠ .stale)
    {e : Nat × GroupOutcome} (he : e ∈ results) (hskipped : e.2.status = .skipped) :
    ∃ f ∈ results, f.2.status = .failed ∨ f.2.forceLogout = true := by
  induction h generalizing e with
  | nil => cases he
  | ran _ _ _ _ ho ih =>
    rw [List.forall_mem_append] at hstale
    obtain he | he := List.mem_append.1 he
    · obtain ⟨f, hf, hfailed⟩ := ih hstale.1 he hskipped
      exact ⟨f, List.mem_append_left _ hf, hfailed⟩
    · obtain rfl := List.mem_singleton.1 he
      exact absurd hskipped ho
  | @givenUp results place name h _ hjudged hwhy ih =>
    rw [List.forall_mem_append] at hstale
    have hfound : ∃ f ∈ results, f.2.status = .failed ∨ f.2.forceLogout = true := by
      obtain he | he := List.mem_append.1 he
      · exact ih hstale.1 he hskipped
      obtain hblocks | ⟨-, f, hf, hlogout⟩ := hwhy
      · obtain ⟨d, -, o, ho, hnot⟩ := (blocks_iff h.nodup hjudged).1 hblocks
        cases hstatus : o.status with
        | completed | incomplete =>
          rw [hstatus] at hnot
          cases hnot
        | failed => exact ⟨_, ho, .inl hstatus⟩
        | skipped => exact ih hstale.1 ho hstatus
        | stale => exact absurd hstatus (hstale.1 _ ho)
      · exact ⟨f, hf, .inr hlogout⟩
    obtain ⟨f, hf, hfailed⟩ := hfound
    exact ⟨f, List.mem_append_left _ hf, hfailed⟩

end Founded

/-- The error of the first group that has one is that of the first step that has one. -/
theorem findSome?_userError? {groups : List GroupOutcome} (h : ∀ o ∈ groups, o.status ≠ .stale) :
    groups.findSome? GroupOutcome.userError? =
      (groups.flatMap GroupOutcome.steps).findSome? StepOutcome.userError? := by
  induction groups with
  | nil => rfl
  | cons o rest ih =>
    rw [List.forall_mem_cons] at h
    rw [List.findSome?_cons, List.flatMap_cons, List.findSome?_append, GroupOutcome.userError?, if_neg h.1, ih h.2]
    cases o.steps.findSome? StepOutcome.userError? <;> rfl

/-- All steps of a group that has completed have completed. -/
theorem GroupRun.all_isSuccess (g : GroupRun) (h : g.status = .completed) :
    g.stepOutcomes.all StepOutcome.isSuccess = true := by
  rw [status] at h
  split at h
  · cases h
  · split at h
    · cases h
    · split at h
      · assumption
      · cases h

namespace GroupRun.Ledger

variable {rules : RunRules} {name : String} {steps : List Step} {g : GroupRun}

/-- A group that has come to its end without completing has a step that failed. -/
theorem exists_failed (h : g.Ledger rules name steps []) (hstale : g.stale = false)
    (hnot : g.status ≠ .completed ∨ g.outcome.forceLogout = true) : ∃ o ∈ g.stepOutcomes, o.status = .failed := by
  obtain hnot | hlogout := hnot
  · by_cases hhalted : g.halted = true
    · obtain ⟨i, s, o, -, ho, hhalts⟩ := (h.halted_iff hstale).1 hhalted
      rw [StepOutcome.halts, Bool.and_eq_true, beq_iff_eq] at hhalts
      exact ⟨o, List.mem_of_getElem? ho, hhalts.1⟩
    · have hsome : ¬ g.stepOutcomes.all StepOutcome.isSuccess = true := by
        intro hall
        refine hnot ?_
        rw [status, hstale, if_neg Bool.false_ne_true, if_neg hhalted, if_pos hall]
      rw [List.all_eq_true] at hsome
      push Not at hsome
      obtain ⟨o, ho, hopen⟩ := hsome
      refine ⟨o, ho, ?_⟩
      rw [StepOutcome.isSuccess, ne_eq, beq_iff_eq] at hopen
      obtain ⟨i, hi⟩ := List.mem_iff_getElem?.1 ho
      cases hstatus : o.status with
      | completed => exact absurd hstatus hopen
      | failed => rfl
      | skipped => exact absurd (h.skipped _ ((h.mem_outcomes_iff hstale).2 hi) hstatus) hhalted
      | stale => exact absurd hstatus (h.status_ne_stale hstale ho)
  · rw [h.forceLogout_outcome hstale, List.any_eq_true] at hlogout
    obtain ⟨o, ho, hauth⟩ := hlogout
    have herror := h.isSome_error hstale ho
    rw [Option.isSome_of_any hauth] at herror
    exact ⟨o, ho, beq_iff_eq.1 herror.symm⟩

end GroupRun.Ledger

namespace Passage

variable {rules : RunRules} {graph : WorkflowGraph} {start : Context} {p : Passage}

/-- The outcomes of all steps, in the order of declaration. -/
def steps (p : Passage) : List StepOutcome := p.outcome.groups.flatMap GroupOutcome.steps

/-- Whether what a graph reports fits what became of its steps. -/
structure Agrees (p : Passage) : Prop where
  success_iff : p.outcome.isSuccess = true ↔ p.outcome.userError? = none
  /-- The error of a graph that has not succeeded is that of the first step that has failed. -/
  first_error : p.outcome.isSuccess = false → ∃ first e, p.steps.find? (·.status == .failed) = some first ∧
    first.error = some e ∧ p.outcome.userError? = some e.userError ∧
    p.outcome.failure = .ofFailure p.outcome.forceLogout e.userError
  forceLogout_iff : p.outcome.forceLogout = true ↔ ∃ s ∈ p.steps, s.status = .failed ∧ s.isAuthFailure = true

/-- Whether a graph reports neither success nor an error nor the end of the session. -/
structure Silent (p : Passage) : Prop where
  success : p.outcome.isSuccess = false
  error : p.outcome.userError? = none
  forceLogout : p.outcome.forceLogout = false
  failure : p.outcome.failure = .stale

namespace Sound

variable (h : Sound rules graph start p)

include h

/-- A step has an error exactly when it has failed, and no step was superseded. -/
theorem told_of_steps {e : Nat × GroupOutcome} (he : e ∈ p.graph.results) {s : StepOutcome} (hs : s ∈ e.2.steps) :
    s.error.isSome = (s.status == .failed) ∧ s.status ≠ .stale := by
  by_cases hskipped : e.2.status = .skipped
  · obtain ⟨name, ho⟩ := h.paced.founded.notStarted he hskipped
    rw [ho] at hs
    cases hs
  · obtain ⟨last, name, steps, hledger, hstale, ho⟩ := h.exists_ledger he hskipped
    rw [ho] at hs
    exact ⟨hledger.isSome_error hstale hs, hledger.status_ne_stale hstale hs⟩

/-- A group that has run without completing has a step that failed. -/
theorem exists_failed_of_ran {e : Nat × GroupOutcome} (he : e ∈ p.graph.results) (hran : e.2.status ≠ .skipped)
    (hnot : e.2.status ≠ .completed ∨ e.2.forceLogout = true) : ∃ s ∈ e.2.steps, s.status = .failed := by
  obtain ⟨last, name, steps, hledger, hstale, ho⟩ := h.exists_ledger he hran
  rw [ho] at hnot ⊢
  exact hledger.exists_failed hstale hnot

/-- Every group that has not completed is explained by a step that failed. -/
theorem exists_failed {e : Nat × GroupOutcome} (he : e ∈ p.graph.results) (hnot : e.2.status ≠ .completed) :
    ∃ f ∈ p.graph.results, ∃ s ∈ f.2.steps, s.status = .failed := by
  by_cases hskipped : e.2.status = .skipped
  · obtain ⟨f, hf, hfailed⟩ := h.paced.founded.exists_failed (fun e he => h.unstale_results he) he hskipped
    refine ⟨f, hf, h.exists_failed_of_ran hf ?_ (hfailed.imp_left fun hfailed => ?_)⟩
    · intro hskipped
      obtain ⟨name, ho⟩ := h.paced.founded.notStarted hf hskipped
      rw [ho] at hfailed
      simp [GroupOutcome.notStarted] at hfailed
    · rw [hfailed]
      decide
  · exact ⟨e, he, h.exists_failed_of_ran he hskipped (.inl hnot)⟩

theorem mem_results_of_mem_groups (hfin : p.graph.isFinished = true) {o : GroupOutcome}
    (ho : o ∈ p.outcome.groups) : ∃ i, (i, o) ∈ p.graph.results := by
  obtain ⟨i, hi⟩ := List.mem_iff_getElem?.1 ho
  exact ⟨i, (h.getElem?_groups hfin).1 hi⟩

theorem mem_steps_iff (hfin : p.graph.isFinished = true) {s : StepOutcome} :
    s ∈ p.steps ↔ ∃ e ∈ p.graph.results, s ∈ e.2.steps := by
  rw [steps, List.mem_flatMap]
  constructor
  · rintro ⟨o, ho, hs⟩
    obtain ⟨i, hi⟩ := h.mem_results_of_mem_groups hfin ho
    exact ⟨(i, o), hi, hs⟩
  · rintro ⟨e, he, hs⟩
    exact ⟨e.2, List.mem_of_getElem? ((h.getElem?_groups hfin).2 he), hs⟩

/-- The error that a graph shows is that of the first step that has failed. -/
theorem userError?_eq (hfin : p.graph.isFinished = true) :
    p.outcome.userError? =
      (p.steps.find? (·.status == .failed)).bind fun s => s.error.map StepError.userError := by
  have hunstale : ∀ o ∈ p.outcome.groups, o.status ≠ .stale := by
    intro o ho
    obtain ⟨i, hi⟩ := h.mem_results_of_mem_groups hfin ho
    exact h.unstale_results hi
  rw [GraphOutcome.userError?, h.stale_outcome, if_neg Bool.false_ne_true, findSome?_userError? hunstale]
  refine GroupRun.findSome?_userError? fun s hs => ?_
  obtain ⟨e, he, hs⟩ := (h.mem_steps_iff hfin).1 hs
  exact h.told_of_steps he hs

/-- A graph has succeeded exactly when no step of it has failed. -/
theorem isSuccess_iff (hfin : p.graph.isFinished = true) :
    p.outcome.isSuccess = true ↔ ∀ s ∈ p.steps, s.status ≠ .failed := by
  rw [GraphOutcome.isSuccess, h.stale_outcome, Bool.not_false, Bool.true_and, List.all_eq_true]
  constructor
  · intro hall s hs hfailed
    obtain ⟨e, he, hs⟩ := (h.mem_steps_iff hfin).1 hs
    have hcompleted := hall e.2 (List.mem_of_getElem? ((h.getElem?_groups hfin).2 he))
    rw [GroupOutcome.isSuccess, beq_iff_eq] at hcompleted
    obtain ⟨first, last, hran, ho⟩ := h.ran he (by rw [hcompleted]; decide)
    rw [ho] at hcompleted hs
    have hsuccess := List.all_eq_true.1 (last.all_isSuccess hcompleted) s hs
    rw [StepOutcome.isSuccess, hfailed] at hsuccess
    cases hsuccess
  · intro hnone o ho
    obtain ⟨i, hi⟩ := h.mem_results_of_mem_groups hfin ho
    rw [GroupOutcome.isSuccess, beq_iff_eq]
    by_contra hnot
    obtain ⟨f, hf, s, hs, hfailed⟩ := h.exists_failed hi hnot
    exact hnone s ((h.mem_steps_iff hfin).2 ⟨f, hf, hs⟩) hfailed

theorem forceLogout_iff (hfin : p.graph.isFinished = true) :
    p.outcome.forceLogout = true ↔ ∃ s ∈ p.steps, s.status = .failed ∧ s.isAuthFailure = true := by
  have hlogout : p.outcome.forceLogout = p.outcome.groups.any GroupOutcome.forceLogout := by
    have hstale := h.stale_outcome
    simp only [outcome, GraphRun.outcome] at hstale ⊢
    rw [hstale, Bool.not_false, Bool.true_and]
  rw [hlogout, List.any_eq_true]
  constructor
  · rintro ⟨o, ho, hforce⟩
    obtain ⟨i, hi⟩ := h.mem_results_of_mem_groups hfin ho
    rw [h.forceLogout_results hi, List.any_eq_true] at hforce
    obtain ⟨s, hs, hauth⟩ := hforce
    have herror := (h.told_of_steps hi hs).1
    rw [Option.isSome_of_any hauth] at herror
    exact ⟨s, (h.mem_steps_iff hfin).2 ⟨_, hi, hs⟩, beq_iff_eq.1 herror.symm, hauth⟩
  · rintro ⟨s, hs, -, hauth⟩
    obtain ⟨e, he, hs⟩ := (h.mem_steps_iff hfin).1 hs
    refine ⟨e.2, List.mem_of_getElem? ((h.getElem?_groups hfin).2 he), ?_⟩
    rw [h.forceLogout_results he, List.any_eq_true]
    exact ⟨s, hs, hauth⟩

/-- The first step that has failed is the one whose error is shown. -/
theorem exists_first (hfin : p.graph.isFinished = true) (hfailed : ∃ s ∈ p.steps, s.status = .failed) :
    ∃ first e, p.steps.find? (·.status == .failed) = some first ∧ first.error = some e ∧
      p.outcome.userError? = some e.userError := by
  obtain ⟨s, hs, hstatus⟩ := hfailed
  have hsome : (p.steps.find? (·.status == .failed)).isSome = true :=
    List.find?_isSome.2 ⟨s, hs, beq_iff_eq.2 hstatus⟩
  obtain ⟨first, hfirst⟩ := Option.isSome_iff_exists.1 hsome
  obtain ⟨e, he, hmem⟩ := (h.mem_steps_iff hfin).1 (List.mem_of_find?_eq_some hfirst)
  have herror := (h.told_of_steps he hmem).1
  rw [List.find?_some hfirst] at herror
  obtain ⟨error, herror⟩ := Option.isSome_iff_exists.1 herror
  exact ⟨first, error, hfirst, herror, by rw [h.userError?_eq hfin, hfirst, Option.bind_some, herror]; rfl⟩

theorem agrees (hfin : p.graph.isFinished = true) : p.Agrees where
  success_iff := by
    rw [h.isSuccess_iff hfin]
    constructor
    · intro hnone
      have hfind : p.steps.find? (·.status == .failed) = none := by
        rw [List.find?_eq_none]
        exact fun s hs => by simpa using hnone s hs
      rw [h.userError?_eq hfin, hfind, Option.bind_none]
    · intro herror s hs hfailed
      obtain ⟨first, e, -, -, hshown⟩ := h.exists_first hfin ⟨s, hs, hfailed⟩
      rw [herror] at hshown
      cases hshown
  first_error := by
    intro hnot
    have hfailed : ∃ s ∈ p.steps, s.status = .failed := by
      by_contra hnone
      push Not at hnone
      rw [(h.isSuccess_iff hfin).2 hnone] at hnot
      cases hnot
    obtain ⟨first, e, hfirst, herror, hshown⟩ := h.exists_first hfin hfailed
    refine ⟨first, e, hfirst, herror, hshown, ?_⟩
    rw [GraphOutcome.failure, h.stale_outcome, if_neg Bool.false_ne_true, hshown, Option.getD_some]
  forceLogout_iff := h.forceLogout_iff hfin

end Sound

/-- A superseded graph reports nothing. -/
theorem silent_of_not_current (h : ¬ p.Current) : p.Silent := by
  have hstale : p.outcome.stale = true := by
    rw [Current, Bool.not_eq_true] at h
    simp only [outcome, GraphRun.outcome, Run.isStale, h, Bool.not_false, Bool.or_true]
  have hlogout : p.outcome.forceLogout = (!p.outcome.stale && p.outcome.groups.any GroupOutcome.forceLogout) := rfl
  exact {
    success := by rw [GraphOutcome.isSuccess, hstale]; rfl
    error := by rw [GraphOutcome.userError?, hstale, if_pos rfl]
    forceLogout := by rw [hlogout, hstale]; rfl
    failure := by rw [GraphOutcome.failure, hstale, if_pos rfl] }

/-- A graph of a run that is not superseded comes to its end, and what it reports there fits what became of its steps.
A superseded graph reports nothing. -/
theorem reports_agree (rules : RunRules) (counter : EpochCounter) (graph : WorkflowGraph) (context : Context)
    (moves : List PassageMove) :
    (((opening rules counter graph context).follow rules moves).Current →
      ((opening rules counter graph context).follow rules moves).Returns rules ∧
        (((opening rules counter graph context).follow rules moves).graph.isFinished = true →
          ((opening rules counter graph context).follow rules moves).Agrees)) ∧
      (¬ ((opening rules counter graph context).follow rules moves).Current →
        ((opening rules counter graph context).follow rules moves).Silent) :=
  ⟨fun hcurrent => ⟨returns_follow hcurrent, (sound_follow counter context hcurrent).agrees⟩,
    silent_of_not_current⟩

/-- The group that depends on the one that failed has no step, and yet the graph tells why it has not succeeded; and
when a newer run begins on the way, it tells nothing. -/
theorem failed_load_agrees :
    (failedLoad.Agrees ∧ failedLoad.outcome.isSuccess = false ∧
      failedLoad.outcome.userError? = some { info := "request failed with status 500" }) ∧
      ((opening {} ⟨1⟩ dependentGraph {}).follow {} (.overtake :: refusedFirst)).Silent := by
  have hcurrent : failedLoad.Current := by cbv
  have hfin : failedLoad.graph.isFinished = true := by cbv
  have hlate : ¬ ((opening {} ⟨1⟩ dependentGraph {}).follow {} (.overtake :: refusedFirst)).Current :=
    Bool.eq_false_iff.1 (by cbv)
  have hagrees := (reports_agree {} ⟨1⟩ dependentGraph {} refusedFirst).1 hcurrent
  refine ⟨⟨hagrees.2 hfin, ?_, ?_⟩, (reports_agree {} ⟨1⟩ dependentGraph {} (.overtake :: refusedFirst)).2 hlate⟩
  · cbv
  · cbv

end Passage

end BackOffice
