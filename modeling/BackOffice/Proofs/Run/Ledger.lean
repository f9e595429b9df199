import BackOffice.Proofs.Run.Stretch
import Mathlib

/-!
What a group notes of its steps. Each step is noted once, under its own index, and no step gets lost unless
a newer run ends the group. Whether the group is halted, and whether it asks for the end of the session, can
be read off what it has noted.
-/

namespace BackOffice

/-- Whether what became of a step halts its group. -/
def StepOutcome.halts (rules : RunRules) (s : Step) (o : StepOutcome) : Bool :=
  o.status == .failed && (s.critical || o.isAuthFailure && rules.haltOnAuth)

/-- Whether an outcome tells of a step of a group: it names the step, and it has an error exactly when the
step has failed. -/
structure StepOutcome.TellsOf (o : StepOutcome) (group : String) (index : Nat) (s : Step) : Prop where
  group : o.group = group
  index : o.index = index
  workflow : o.workflow = s.workflow
  failed : o.error.isSome = (o.status == .failed)

theorem StepOutcome.tellsOf_unanswered (group : String) (index : Nat) (s : Step) (status : StepStatus)
    (h : status ≠ .failed) : (unanswered group index s status).TellsOf group index s := by
  refine ⟨rfl, rfl, rfl, ?_⟩
  cases status <;> first | rfl | exact absurd rfl h

namespace GroupRun

/-- The steps of which nothing is noted yet. -/
def unsettled (g : GroupRun) : List (Nat × Step) :=
  match g.stage with
  | .starting rest => rest ++ g.detached
  | .awaiting i s rest => (i, s) :: rest ++ g.detached
  | .joining rest => rest
  | .finished => []

theorem unsettled_of_isFinished {g : GroupRun} (h : g.isFinished = true) : g.unsettled = [] := by
  rw [unsettled, stage_of_isFinished h]

/-- What a group of some steps has noted when these are left to be noted. -/
structure Ledger (rules : RunRules) (name : String) (steps : List Step) (g : GroupRun)
    (left : List (Nat × Step)) : Prop where
  named : g.name = name
  owns : g.steps = steps
  placed : ∀ e ∈ left, steps[e.1]? = some e.2
  /-- No step is noted twice, and a step that is noted is not left. -/
  distinct : (g.outcomes.map Prod.fst ++ left.map Prod.fst).Nodup
  covers : g.stale = false → ∀ i < steps.length, i ∈ g.outcomes.map Prod.fst ++ left.map Prod.fst
  tells : ∀ e ∈ g.outcomes, ∃ s, steps[e.1]? = some s ∧ e.2.TellsOf name e.1 s
  stale : ∀ e ∈ g.outcomes, e.2.status = .stale → g.stale = true
  skipped : ∀ e ∈ g.outcomes, e.2.status = .skipped → g.halted = true
  halted : g.halted = g.outcomes.any fun e => (steps[e.1]?).any (e.2.halts rules)
  forceLogout : g.forceLogout = g.outcomes.any fun e => e.2.isAuthFailure

variable {rules : RunRules} {name : String} {steps : List Step} {current : Bool} {g g' : GroupRun}
  {t : Trace} {index : Nat} {s : Step} {answer : Answer} {rest left left' : List (Nat × Step)}

namespace Ledger

theorem perm (h : Ledger rules name steps g left) (hperm : left.Perm left') :
    Ledger rules name steps g left' :=
  { h with
    placed := fun e he => h.placed e (hperm.mem_iff.2 he)
    distinct := ((hperm.map Prod.fst).append_left _).nodup_iff.1 h.distinct
    covers := fun hs i hi => ((hperm.map Prod.fst).append_left _).mem_iff.1 (h.covers hs i hi) }

/-- What a group notes has nothing to do with where it is and which answers it has. -/
theorem staged (h : Ledger rules name steps g left) (stage : GroupStage) (detached : List (Nat × Step))
    (answers : List (Nat × Answer)) : Ledger rules name steps { g with stage, detached, answers } left :=
  ⟨h.named, h.owns, h.placed, h.distinct, h.covers, h.tells, h.stale, h.skipped, h.halted, h.forceLogout⟩

/-- A group that a newer run has ended notes nothing more. -/
theorem dropped (h : Ledger rules name steps g left) (hstale : g.stale = true) :
    Ledger rules name steps g [] :=
  { h with
    placed := fun e he => absurd he List.not_mem_nil
    distinct := h.distinct.sublist ((List.nil_sublist _).append_left _)
    covers := fun hs => by simp [hstale] at hs }

/-- Noting what became of a step that is left. -/
theorem note {o : StepOutcome} (h : Ledger rules name steps g ((index, s) :: left))
    (htells : o.TellsOf name index s) (hname : g'.name = g.name) (hsteps : g'.steps = g.steps)
    (houtcomes : g'.outcomes = g.outcomes ++ [(index, o)])
    (hstale : g'.stale = (g.stale || o.status == .stale))
    (hskipped : o.status = .skipped → g.halted = true)
    (hhalted : g'.halted = (g.halted || o.halts rules s))
    (hlogout : g'.forceLogout = (g.forceLogout || o.isAuthFailure)) :
    Ledger rules name steps g' left := by
  have hat : steps[index]? = some s := h.placed (index, s) List.mem_cons_self
  have hkeys : (g'.outcomes.map Prod.fst ++ left.map Prod.fst) =
      g.outcomes.map Prod.fst ++ ((index, s) :: left).map Prod.fst := by
    rw [houtcomes, List.map_append, List.map_cons, List.append_assoc]
    rfl
  have hmem {e : Nat × StepOutcome} (he : e ∈ g'.outcomes) : e ∈ g.outcomes ∨ e = (index, o) := by
    rwa [houtcomes, List.mem_append, List.mem_singleton] at he
  exact {
    named := hname.trans h.named
    owns := hsteps.trans h.owns
    placed := fun e he => h.placed e (List.mem_cons_of_mem _ he)
    distinct := hkeys ▸ h.distinct
    covers := by
      intro hs i hi
      rw [hkeys]
      rw [hstale, Bool.or_eq_false_iff] at hs
      exact h.covers hs.1 i hi
    tells := by
      intro e he
      obtain he | rfl := hmem he
      · exact h.tells e he
      · exact ⟨s, hat, htells⟩
    stale := by
      intro e he hs
      rw [hstale]
      obtain he | rfl := hmem he
      · rw [h.stale e he hs, Bool.true_or]
      · rw [show o.status = .stale from hs, beq_self_eq_true, Bool.or_true]
    skipped := by
      intro e he hs
      rw [hhalted]
      obtain he | rfl := hmem he
      · rw [h.skipped e he hs, Bool.true_or]
      · rw [hskipped hs, Bool.true_or]
    halted := by
      rw [hhalted, houtcomes, h.halted, List.any_append, List.any_cons, List.any_nil, hat, Option.any_some,
        Bool.or_false]
    forceLogout := by
      rw [hlogout, houtcomes, h.forceLogout, List.any_append, List.any_cons, List.any_nil, Bool.or_false] }

/-! ### Single steps -/

theorem skip (h : Ledger rules name steps g ((index, s) :: left)) (hhalted : g.halted = true) :
    Ledger rules name steps (g.giveUp index s .skipped) left :=
  h.note (StepOutcome.tellsOf_unanswered name index s .skipped nofun) rfl rfl (by rw [← h.named]; rfl)
    (Bool.or_false _).symm (fun _ => hhalted) (Bool.or_false _).symm (Bool.or_false _).symm

theorem late (h : Ledger rules name steps g ((index, s) :: left)) :
    Ledger rules name steps { g.giveUp index s .stale with stale := true } left :=
  h.note (StepOutcome.tellsOf_unanswered name index s .stale nofun) rfl rfl (by rw [← h.named]; rfl)
    (Bool.or_true _).symm nofun (Bool.or_false _).symm (Bool.or_false _).symm

theorem fail {envelope : Option Envelope} {e : StepError}
    (h : Ledger rules name steps g ((index, s) :: left)) :
    Ledger rules name steps (g.fail rules index s envelope e t current).1 left :=
  h.note (o := { StepOutcome.unanswered name index s .failed with envelope, error := some e })
    ⟨rfl, rfl, rfl, rfl⟩ rfl rfl (by rw [← h.named]; rfl) (Bool.or_false _).symm nofun
    (Bool.or_assoc _ _ _) rfl

theorem settle (h : Ledger rules name steps g ((index, s) :: left)) :
    Ledger rules name steps (g.settle rules index s answer t).1 left := by
  cases herror : StepError.ofVerdict? (Verdict.of rules.authKeys (Envelope.ofResult answer)) with
  | none =>
    simp only [GroupRun.settle, herror]
    exact h.note (o := { StepOutcome.unanswered name index s .completed with
        envelope := some (Envelope.ofResult answer) })
      ⟨rfl, rfl, rfl, rfl⟩ rfl rfl (by rw [← h.named]; rfl) (Bool.or_false _).symm
      StepStatus.noConfusion (Bool.or_false _).symm (Bool.or_false _).symm
  | some e =>
    simp only [GroupRun.settle, herror]
    exact h.fail

/-! ### Whole stretches -/

theorem join (h : Ledger rules name steps g rest) :
    Ledger rules name steps (join rules current rest g t).1 (join rules current rest g t).1.unsettled := by
  induction rest generalizing g t with
  | nil => exact h.staged .finished g.detached g.answers
  | cons entry rest ih =>
    simp only [GroupRun.join]
    split
    · exact h.staged (.joining (entry :: rest)) g.detached g.answers
    · split
      · exact ih h.settle
      · exact ih h.late

theorem start (h : Ledger rules name steps g (rest ++ g.detached)) :
    Ledger rules name steps (start rules current rest g t).1
      (start rules current rest g t).1.unsettled := by
  induction rest generalizing g t with
  | nil => exact h.join
  | cons entry rest ih =>
    obtain ⟨i, s⟩ := entry
    simp only [GroupRun.start]
    split
    next hhalted => exact ih (h.skip hhalted)
    · split
      · exact ih h.fail
      · split
        · exact h.staged (.awaiting i s rest) g.detached g.answers
        · have hperm : ((i, s) :: rest ++ g.detached).Perm (rest ++ (g.detached ++ [(i, s)])) := by
            rw [← List.append_assoc, List.cons_append]
            exact (List.perm_append_singleton _ _).symm
          exact ih ((h.perm hperm).staged g.stage (g.detached ++ [(i, s)]) g.answers)

/-- Whatever happens to a group, it goes on noting what becomes of its steps. -/
theorem poll (h : Ledger rules name steps g g.unsettled) :
    Ledger rules name steps (g.poll rules current t).1 (g.poll rules current t).1.unsettled := by
  have hstay := h
  simp only [unsettled] at h
  simp only [GroupRun.poll]
  split
  next rest hs =>
    simp only [hs] at h
    exact h.start
  next i s rest hs =>
    simp only [hs] at h
    split
    · exact hstay
    · split
      · apply start
        rw [detached_settle]
        exact h.settle
      · exact (h.late.dropped rfl).staged .finished g.detached g.answers
  next rest hs =>
    simp only [hs] at h
    exact h.join
  next hs => exact hstay

theorem deliver (h : Ledger rules name steps g g.unsettled) :
    Ledger rules name steps (g.deliver index answer) (g.deliver index answer).unsettled :=
  h.staged g.stage g.detached (g.answers ++ [(index, answer)])

end Ledger

theorem keys_unsettled_of (name : String) (epoch : Nat) (group : StepGroup) (context : Context) :
    (of name epoch group context).unsettled.map Prod.fst = List.range group.steps.length := by
  have hkeys : (group.steps.zipIdx.map fun s => (s.2, s.1)).map Prod.fst = group.steps.zipIdx.map Prod.snd := by
    rw [List.map_map]
    rfl
  simp only [unsettled, of, List.append_nil]
  rw [hkeys, List.zipIdx_map_snd, List.range_eq_range']

theorem ledger_of (name : String) (epoch : Nat) (group : StepGroup) (context : Context) :
    Ledger rules name group.steps (of name epoch group context)
      (of name epoch group context).unsettled where
  named := rfl
  owns := rfl
  placed := by
    intro e he
    simp only [unsettled, of, List.append_nil, List.mem_map] at he
    obtain ⟨x, hx, rfl⟩ := he
    exact List.mem_zipIdx_iff_getElem?.1 hx
  distinct := by
    rw [keys_unsettled_of]
    exact List.nodup_range
  covers := by
    intro _ i hi
    rw [keys_unsettled_of]
    exact List.mem_range.2 hi
  tells := fun e he => absurd he List.not_mem_nil
  stale := fun e he => absurd he List.not_mem_nil
  skipped := fun e he => absurd he List.not_mem_nil
  halted := rfl
  forceLogout := rfl

namespace Ledger

/-! ### What the ledger says -/

/-- A group that asks for the end of the session is halted, if that halts a run at all. -/
theorem halted_of_forceLogout (h : Ledger rules name steps g left) (hrule : rules.haltOnAuth = true)
    (hlogout : g.forceLogout = true) : g.halted = true := by
  rw [h.forceLogout, List.any_eq_true] at hlogout
  obtain ⟨e, he, hauth⟩ := hlogout
  obtain ⟨s, hs, htells⟩ := h.tells e he
  rw [h.halted, List.any_eq_true]
  refine ⟨e, he, ?_⟩
  have hsome : e.2.error.isSome = true := by
    rw [StepOutcome.isAuthFailure] at hauth
    exact Option.isSome_of_any hauth
  rw [hs, Option.any_some, StepOutcome.halts, ← htells.failed, hsome, hauth, hrule]
  simp

theorem getElem?_stepOutcomes (h : Ledger rules name steps g left) {i : Nat} {o : StepOutcome}
    (ho : (i, o) ∈ g.outcomes) : g.stepOutcomes[i]? = some o := by
  obtain ⟨s, hs, -⟩ := h.tells _ ho
  have hlookup := lookup_of_mem (List.nodup_append.1 h.distinct).1 ho
  rw [stepOutcomes, List.getElem?_map, List.getElem?_zipIdx, h.owns, hs]
  simp [hlookup]

/-- When a group has come to its end, it has noted every step. -/
theorem exists_outcome (h : Ledger rules name steps g []) (hstale : g.stale = false) {i : Nat} {s : Step}
    (hs : steps[i]? = some s) : ∃ o, (i, o) ∈ g.outcomes ∧ o.TellsOf name i s := by
  have hcovers := h.covers hstale i (List.getElem?_eq_some_iff.1 hs).1
  rw [List.map_nil, List.append_nil] at hcovers
  obtain ⟨⟨_, o⟩, ho, rfl⟩ := List.mem_map.1 hcovers
  obtain ⟨s', hs', htells⟩ := h.tells _ ho
  obtain rfl : s = s' := Option.some.inj (hs.symm.trans hs')
  exact ⟨o, ho, htells⟩

/-- At its end a group tells exactly what it has noted. -/
theorem mem_outcomes_iff (h : Ledger rules name steps g []) (hstale : g.stale = false) {i : Nat}
    {o : StepOutcome} : (i, o) ∈ g.outcomes ↔ g.stepOutcomes[i]? = some o := by
  refine ⟨h.getElem?_stepOutcomes, fun ho => ?_⟩
  have hlt : i < steps.length := by
    have := (List.getElem?_eq_some_iff.1 ho).1
    rwa [stepOutcomes, List.length_map, List.length_zipIdx, h.owns] at this
  obtain ⟨o', ho', -⟩ := h.exists_outcome hstale (List.getElem?_eq_getElem hlt)
  rw [h.getElem?_stepOutcomes ho'] at ho
  rwa [← Option.some.inj ho]

theorem halted_iff (h : Ledger rules name steps g []) (hstale : g.stale = false) :
    g.halted = true ↔
      ∃ (i : Nat) (s : Step) (o : StepOutcome), steps[i]? = some s ∧ g.stepOutcomes[i]? = some o ∧
        o.halts rules s = true := by
  rw [h.halted, List.any_eq_true]
  constructor
  · rintro ⟨⟨i, o⟩, ho, hany⟩
    obtain ⟨s, hs, hhalts⟩ := (Option.any_eq_true _ _).1 hany
    exact ⟨i, s, o, hs, (h.mem_outcomes_iff hstale).1 ho, hhalts⟩
  · rintro ⟨i, s, o, hs, ho, hhalts⟩
    refine ⟨(i, o), (h.mem_outcomes_iff hstale).2 ho, ?_⟩
    rw [hs, Option.any_some, hhalts]

theorem isSome_error (h : Ledger rules name steps g []) (hstale : g.stale = false) {o : StepOutcome}
    (ho : o ∈ g.stepOutcomes) : o.error.isSome = (o.status == .failed) := by
  obtain ⟨i, hi⟩ := List.mem_iff_getElem?.1 ho
  obtain ⟨s, -, htells⟩ := h.tells _ ((h.mem_outcomes_iff hstale).2 hi)
  exact htells.failed

theorem status_ne_stale (h : Ledger rules name steps g []) (hstale : g.stale = false) {o : StepOutcome}
    (ho : o ∈ g.stepOutcomes) : o.status ≠ .stale := by
  obtain ⟨i, hi⟩ := List.mem_iff_getElem?.1 ho
  intro hs
  have := h.stale _ ((h.mem_outcomes_iff hstale).2 hi) hs
  rw [hstale] at this
  cases this

/-- A group that was not superseded asks for the end of the session when a step tells of it. -/
theorem forceLogout_outcome (h : g.Ledger rules name steps []) (hstale : g.stale = false) :
    g.outcome.forceLogout = g.stepOutcomes.any StepOutcome.isAuthFailure := by
  rw [outcome, hstale, Bool.not_false, Bool.and_true, h.forceLogout, Bool.eq_iff_iff,
    List.any_eq_true, List.any_eq_true]
  constructor
  · rintro ⟨⟨i, o⟩, ho, hauth⟩
    exact ⟨o, List.mem_of_getElem? ((h.mem_outcomes_iff hstale).1 ho), hauth⟩
  · rintro ⟨o, ho, hauth⟩
    obtain ⟨i, hi⟩ := List.mem_iff_getElem?.1 ho
    exact ⟨(i, o), (h.mem_outcomes_iff hstale).2 hi, hauth⟩

end Ledger

/-- The error that steps show is that of the first that has failed. -/
theorem findSome?_userError? {outcomes : List StepOutcome}
    (h : ∀ o ∈ outcomes, o.error.isSome = (o.status == .failed) ∧ o.status ≠ .stale) :
    outcomes.findSome? StepOutcome.userError? =
      (outcomes.find? (·.status == .failed)).bind fun o => o.error.map StepError.userError := by
  induction outcomes with
  | nil => rfl
  | cons o rest ih =>
    rw [List.forall_mem_cons] at h
    obtain ⟨⟨herror, hstale⟩, hrest⟩ := h
    rw [List.findSome?_cons, List.find?_cons, StepOutcome.userError?, if_neg hstale, ← herror, ih hrest]
    cases herror : o.error with
    | none => rfl
    | some e => simp [herror]

end GroupRun

end BackOffice
