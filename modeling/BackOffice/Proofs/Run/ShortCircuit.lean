import BackOffice.Proofs.Run.GroupEffect

/-!
How a group judges its steps when it has come to its end. Steps are started up to the first one that is critical and
cannot be bound, or that is awaited and fails the group; those behind it are passed over. A step that is not awaited
fails the group just as well, but holds up no other step, since its answer is taken up when all steps have had their
turn.
-/

namespace BackOffice

namespace StepOutcome

/-- Whether a step has failed in a way that fails its group: the step is critical, or it has failed to authenticate
where that halts a run. -/
def FailsGroup (rules : RunRules) (s : Step) (o : StepOutcome) : Prop :=
  o.status = .failed ∧ (s.critical = true ∨ rules.haltOnAuth = true ∧ o.isAuthFailure = true)

/-- Whether no step is started behind a step. -/
def EndsTurns (rules : RunRules) (s : Step) (o : StepOutcome) : Prop :=
  o.isUnbound = true ∧ s.critical = true ∨ s.awaited = true ∧ o.FailsGroup rules s

variable {rules : RunRules} {group : String} {index : Nat} {s : Step} {o : StepOutcome}

theorem halts_iff : o.halts rules s = true ↔ o.FailsGroup rules s := by
  rw [halts, FailsGroup, Bool.and_eq_true, beq_iff_eq, Bool.or_eq_true, Bool.and_eq_true,
    and_comm (b := rules.haltOnAuth = true)]

/-- What could not be bound has failed, and not for want of authentication. -/
theorem TellsOf.failed_of_isUnbound (h : o.TellsOf group index s) (hunbound : o.isUnbound = true) :
    o.status = .failed ∧ o.isAuthFailure = false := by
  have hfailed := h.failed
  rw [isUnbound] at hunbound
  split at hunbound
  next e herror =>
    rw [herror] at hfailed
    exact ⟨beq_iff_eq.1 hfailed.symm, by rw [isAuthFailure, herror]; rfl⟩
  next => cases hunbound

theorem TellsOf.stops_iff (h : o.TellsOf group index s) : o.stops rules s = true ↔ o.EndsTurns rules s := by
  rw [stops, Bool.and_eq_true, Bool.or_eq_true, halts_iff]
  constructor
  · rintro ⟨hfails, hawaited | hunbound⟩
    · exact .inr ⟨hawaited, hfails⟩
    · -- No answer has been taken up, so the group can only fail because the step is critical.
      obtain ⟨-, hauth⟩ := h.failed_of_isUnbound hunbound
      obtain hcritical | ⟨-, hauth'⟩ := hfails.2
      · exact .inl ⟨hunbound, hcritical⟩
      · rw [hauth] at hauth'
        cases hauth'
  · rintro (⟨hunbound, hcritical⟩ | ⟨hawaited, hfails⟩)
    · exact ⟨⟨(h.failed_of_isUnbound hunbound).1, .inl hcritical⟩, .inr hunbound⟩
    · exact ⟨hfails, .inl hawaited⟩

end StepOutcome

/-- Whether entries are passed over from the first one on that ends the turns, that one excepted. -/
def PassedBehind {α : Type} (ends passed : α → Prop) (l : List α) : Prop :=
  (∀ e ∈ l, ¬ends e ∧ ¬passed e) ∨
    ∃ before e after, l = before ++ e :: after ∧ (∀ e' ∈ before, ¬ends e' ∧ ¬passed e') ∧ (ends e ∧ ¬passed e) ∧
      ∀ e' ∈ after, passed e'

theorem passedBehind_of_split {α : Type} {ends passed : α → Prop} {l : List α}
    (h : ∀ before e after, l = before ++ e :: after → (passed e ↔ ∃ e' ∈ before, ends e')) :
    PassedBehind ends passed l := by
  classical
  -- The first entry that ends the turns splits the list: in front of it no entry does.
  cases hfirst : l.find? fun e => decide (ends e) with
  | none =>
    have hnone : ∀ e ∈ l, ¬ends e := by simpa using List.find?_eq_none.1 hfirst
    refine .inl fun e he => ⟨hnone e he, fun hpassed => ?_⟩
    obtain ⟨before, after, rfl⟩ := List.append_of_mem he
    obtain ⟨e', he', hends⟩ := (h before e after rfl).1 hpassed
    exact hnone e' (List.mem_append_left _ he') hends
  | some e =>
    obtain ⟨hends, before, after, rfl, hbefore⟩ := List.find?_eq_some_iff_append.1 hfirst
    have hnone : ∀ e' ∈ before, ¬ends e' := by simpa using hbefore
    refine .inr ⟨before, e, after, rfl, fun e' he' => ⟨hnone e' he', fun hpassed => ?_⟩,
      ⟨of_decide_eq_true hends, fun hpassed => ?_⟩, fun e' he' => ?_⟩
    · obtain ⟨front, back, rfl⟩ := List.append_of_mem he'
      obtain ⟨e'', he'', hends'⟩ := (h front e' (back ++ e :: after) (by simp)).1 hpassed
      exact hnone e'' (List.mem_append_left _ he'') hends'
    · obtain ⟨e', he', hends'⟩ := (h before e after rfl).1 hpassed
      exact hnone e' he' hends'
    · obtain ⟨front, back, rfl⟩ := List.append_of_mem he'
      exact (h (before ++ e :: front) e' back (by simp)).2 ⟨e, by simp, of_decide_eq_true hends⟩

/-- Whether the outcome of a group has one entry for each of its steps, and judges the group by them. -/
structure GroupOutcome.JudgesSteps (rules : RunRules) (steps : List Step) (o : GroupOutcome) : Prop where
  length : o.steps.length = steps.length
  placed {i : Nat} {s : Step} {r : StepOutcome} (hs : steps[i]? = some s) (hr : o.steps[i]? = some r) :
    r.index = i ∧ r.group = o.name ∧ r.workflow = s.workflow ∧ r.status ≠ .stale
  passed : PassedBehind (fun e => e.2.EndsTurns rules e.1) (fun e => e.2.status = .skipped) (steps.zip o.steps)
  failed_iff : o.status = .failed ↔ ∃ e ∈ steps.zip o.steps, e.2.FailsGroup rules e.1
  completed_iff : o.status = .completed ↔ ∀ r ∈ o.steps, r.status = .completed
  otherwise (hfailed : o.status ≠ .failed) (hcompleted : o.status ≠ .completed) : o.status = .incomplete
  forceLogout_iff : o.forceLogout = true ↔ ∃ r ∈ o.steps, r.status = .failed ∧ r.isAuthFailure = true

namespace GroupRun

variable {rules : RunRules} {name : String} {steps : List Step} {base : Context} {g : GroupRun} {sent : List Call}

theorem length_stepOutcomes (g : GroupRun) : g.stepOutcomes.length = g.steps.length := by
  rw [stepOutcomes, List.length_map, List.length_zipIdx]

theorem status_cases (g : GroupRun) (hstale : g.stale = false) :
    g.status = .failed ∨ g.status = .completed ∨ g.status = .incomplete := by
  rw [status, hstale]
  cases g.halted with
  | true => exact .inl rfl
  | false => cases g.stepOutcomes.all StepOutcome.isSuccess <;> simp

namespace Ledger

theorem tellsOf_stepOutcomes (h : Ledger rules name steps g []) (hstale : g.stale = false) {i : Nat} {s : Step}
    {o : StepOutcome} (hs : steps[i]? = some s) (ho : g.stepOutcomes[i]? = some o) : o.TellsOf name i s := by
  obtain ⟨s', hs', htells⟩ := h.tells _ ((h.mem_outcomes_iff hstale).2 ho)
  obtain rfl : s' = s := Option.some.inj (hs'.symm.trans hs)
  exact htells

/-- What is noted of steps that are halted is what fails the group. -/
theorem halted_iff_failsGroup (h : Ledger rules name steps g []) (hstale : g.stale = false) :
    g.halted = true ↔ ∃ e ∈ steps.zip g.stepOutcomes, e.2.FailsGroup rules e.1 := by
  rw [h.halted_iff hstale]
  constructor
  · rintro ⟨i, s, o, hs, ho, hhalts⟩
    exact ⟨(s, o), List.mem_of_getElem? (List.getElem?_zip_eq_some.2 ⟨hs, ho⟩), StepOutcome.halts_iff.1 hhalts⟩
  · rintro ⟨⟨s, o⟩, he, hfails⟩
    obtain ⟨i, hi⟩ := List.mem_iff_getElem?.1 he
    obtain ⟨hs, ho⟩ := List.getElem?_zip_eq_some.1 hi
    exact ⟨i, s, o, hs, ho, StepOutcome.halts_iff.2 hfails⟩

/-- A group that is halted has a step that has not completed. -/
theorem not_halted_of_completed (h : Ledger rules name steps g []) (hstale : g.stale = false)
    (hcompleted : ∀ o ∈ g.stepOutcomes, o.status = .completed) : g.halted = false := by
  rw [← Bool.not_eq_true, h.halted_iff_failsGroup hstale]
  rintro ⟨e, he, hfailed, -⟩
  rw [hcompleted _ (List.of_mem_zip he).2] at hfailed
  cases hfailed

theorem status_eq_failed_iff (h : Ledger rules name steps g []) (hstale : g.stale = false) :
    g.status = .failed ↔ ∃ e ∈ steps.zip g.stepOutcomes, e.2.FailsGroup rules e.1 := by
  rw [← h.halted_iff_failsGroup hstale, status, hstale]
  cases g.halted with
  | true => simp
  | false => cases g.stepOutcomes.all StepOutcome.isSuccess <;> simp

theorem status_eq_completed_iff (h : Ledger rules name steps g []) (hstale : g.stale = false) :
    g.status = .completed ↔ ∀ o ∈ g.stepOutcomes, o.status = .completed := by
  have hall : g.stepOutcomes.all StepOutcome.isSuccess = true ↔ ∀ o ∈ g.stepOutcomes, o.status = .completed := by
    simp only [List.all_eq_true, StepOutcome.isSuccess, beq_iff_eq]
  rw [← hall, status, hstale]
  cases hhalted : g.halted with
  | true =>
    -- The step that halts the group is one that has not completed.
    have hnot : ¬g.stepOutcomes.all StepOutcome.isSuccess = true := by
      rw [hall]
      intro hcompleted
      rw [h.not_halted_of_completed hstale hcompleted] at hhalted
      cases hhalted
    simp [hnot]
  | false => cases g.stepOutcomes.all StepOutcome.isSuccess <;> simp

theorem forceLogout_outcome_iff (h : Ledger rules name steps g []) (hstale : g.stale = false) :
    g.outcome.forceLogout = true ↔ ∃ o ∈ g.stepOutcomes, o.status = .failed ∧ o.isAuthFailure = true := by
  rw [h.forceLogout_outcome hstale, List.any_eq_true]
  refine exists_congr fun o => and_congr_right fun ho => (and_iff_right_of_imp fun hauth => ?_).symm
  rw [← beq_iff_eq, ← h.isSome_error hstale ho]
  exact Option.isSome_of_any hauth

end Ledger

/-- The outcome of a group that has come to its end, whatever it was answered and in whatever order. -/
theorem judgesSteps_of_isFinished {epoch : Nat} {group : StepGroup} {told : List Event}
    (h : Course rules (.of name epoch group base) g sent told) (hfin : g.isFinished = true) :
    g.outcome.JudgesSteps rules group.steps := by
  have hstale : g.stale = false := h.stale
  have htells := h.tellsSteps hfin
  have hledger := h.ledger (ledger_of name epoch group base)
  rw [unsettled_of_isFinished hfin] at hledger
  have hstops : ∀ e ∈ group.steps.zip g.stepOutcomes, e.2.stops rules e.1 = true ↔ e.2.EndsTurns rules e.1 := by
    intro e he
    obtain ⟨i, hi⟩ := List.mem_iff_getElem?.1 he
    obtain ⟨hs, ho⟩ := List.getElem?_zip_eq_some.1 hi
    exact (hledger.tellsOf_stepOutcomes hstale hs ho).stops_iff
  exact {
    length := by rw [outcome, length_stepOutcomes, hledger.owns]
    placed := by
      intro i s r hs hr
      have hr' := hledger.tellsOf_stepOutcomes hstale hs hr
      exact ⟨hr'.index, hr'.group.trans hledger.named.symm, hr'.workflow,
        hledger.status_ne_stale hstale (List.mem_of_getElem? hr)⟩
    passed := by
      refine passedBehind_of_split fun before e after hsplit => ?_
      rw [htells.passed before e after hsplit]
      refine exists_congr fun e' => and_congr_right fun he' => hstops e' ?_
      rw [show group.steps.zip g.stepOutcomes = _ from hsplit]
      exact List.mem_append_left _ he'
    failed_iff := hledger.status_eq_failed_iff hstale
    completed_iff := hledger.status_eq_completed_iff hstale
    otherwise := fun hfailed hcompleted =>
      (g.status_cases hstale).resolve_left hfailed |>.resolve_left hcompleted
    forceLogout_iff := hledger.forceLogout_outcome_iff hstale }

/-- A critical step that is not awaited, one that is, one that cannot be bound, and two behind which nothing else is
started. -/
def haltingGroup : StepGroup :=
  ⟨[{ workflow := "AUDIT", awaited := false, critical := true },
    { workflow := "LOAD", critical := true },
    { workflow := "LOST", input := [("Id", .obj [("key", .str "nothing")])] },
    { workflow := "SHOW" },
    { workflow := "SAVE", critical := true }]⟩

/-- The step that is not awaited fails before the others are answered, and the last one started cannot authenticate. -/
def haltingRun : GroupRun × List Call :=
  let around : Surroundings := ⟨.epoch, ⟨"id", 0⟩⟩
  let begun := (of "page" 1 haltingGroup {}).poll {} true { surroundings := around }
  [(0, answerOf 500 .null), (1, answerOf 200 .null), (3, answerOf 401 .null)].foldl (goOn {} around)
    (begun.1, begun.2.calls)

/-- The first step has failed its group, and yet all steps are started up to the one that cannot authenticate. -/
theorem failed_step_holds_up_awaited_only :
    haltingRun.1.outcome.JudgesSteps {} haltingGroup.steps ∧
      haltingRun.1.outcome.steps.map StepOutcome.status = [.failed, .completed, .failed, .failed, .skipped] ∧
      haltingRun.1.outcome.status = .failed ∧ haltingRun.1.outcome.forceLogout = true := by
  obtain ⟨told, hcourse⟩ := (Course.begun.went ⟨.epoch, ⟨"id", 0⟩⟩).exists_goOn _
  refine ⟨judgesSteps_of_isFinished hcourse (by cbv), ?_⟩
  cbv

end GroupRun

end BackOffice
