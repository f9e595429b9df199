import BackOffice.Proofs.Run.GroupTale
import BackOffice.Proofs.Run.Isolation

/-!
What a graph tells its listener and sends, against what becomes of its steps. Of each group just that is told and sent
which became of its steps, in their order; of groups that were given up, and of anything else, there is nothing. The end
of a session is told right behind the failure that brought it. That holds for every run, also for one that has ended
before.
-/

namespace BackOffice

namespace Passage

variable {rules : RunRules} {graph : WorkflowGraph} {start : Context} {p : Passage}

/-- A graph that is set to work in some run. -/
def resuming (rules : RunRules) (counter : EpochCounter) (graph : WorkflowGraph) (run : Run) : Passage :=
  let g := GraphRun.start rules counter graph run
  { counter, graph := g, log := g.beginnings }

/-- Whether what a graph has told and sent is what became of its steps. -/
structure Tells (rules : RunRules) (graph : WorkflowGraph) (p : Passage) : Prop where
  length : p.outcome.groups.length = graph.groups.length
  tellsSteps : ∀ (i : Nat) (o : GroupOutcome), p.outcome.groups[i]? = some o →
    ∃ name group, graph.groups[i]? = some (name, group) ∧
      o.steps.length = (if o.status = .skipped then 0 else group.steps.length) ∧
      TellsSteps rules name group.steps o.steps ((p.toldBy i).map Event.kind) (p.sentBy i)
  /-- Nothing is told or sent but what is told and sent of the groups. -/
  told : ∀ e ∈ p.told, e.1 < graph.groups.length
  sent : ∀ e ∈ p.sent, e.1 < graph.groups.length
  own : ∀ e ∈ p.told, e.2.epoch = p.graph.run.epoch
  /-- Right behind a failure that ends the session the end of the session is told, for the same reason. -/
  next : ∀ front e back group workflow entry, p.told.map Prod.snd = front ++ e :: back →
    e.kind = .failed group workflow (.auth entry) → ∃ rest, back = ⟨e.epoch, .forceLogout entry, e.time⟩ :: rest
  /-- The end of the session is told nowhere else. -/
  previous : ∀ front e back entry, p.told.map Prod.snd = front ++ e :: back → e.kind = .forceLogout entry →
    ∃ rest group workflow, front = rest ++ [⟨e.epoch, .failed group workflow (.auth entry), e.time⟩]

namespace Sound

variable (h : Sound rules graph start p)

include h

/-- Only groups of the graph have begun. -/
theorem lt_of_mem_log (hfin : p.graph.isFinished = true) {m : Milestone} (hm : m ∈ p.log) :
    m.place < graph.groups.length := by
  obtain hplace | ⟨last, writes, hended⟩ := h.noted m hm
  · rw [GraphRun.atWork, GraphRun.stage_of_isFinished hfin] at hplace
    cases hplace
  · exact h.lt_of_mem_results hfin (h.ended _ _ _ hended).2.1

/-- What is not a group of the graph tells and sends nothing. -/
theorem silent_of_le (hfin : p.graph.isFinished = true) {place : Nat} (hle : graph.groups.length ≤ place) :
    p.sentBy place = [] ∧ p.toldBy place = [] :=
  h.silent place fun _ hm hplace => Nat.not_lt.2 hle (hplace ▸ h.lt_of_mem_log hfin hm)

theorem tellsSteps (hfin : p.graph.isFinished = true) {i : Nat} {o : GroupOutcome}
    (ho : p.outcome.groups[i]? = some o) : ∃ name group, graph.groups[i]? = some (name, group) ∧
      o.steps.length = (if o.status = .skipped then 0 else group.steps.length) ∧
      TellsSteps rules name group.steps o.steps ((p.toldBy i).map Event.kind) (p.sentBy i) := by
  have hmem := (h.getElem?_groups hfin).1 ho
  by_cases hskipped : o.status = .skipped
  · obtain ⟨hsent, htold, -⟩ := h.givenUp hfin hmem hskipped
    obtain ⟨name, rfl⟩ := h.paced.founded.notStarted hmem hskipped
    refine ⟨_, _, List.getElem?_eq_getElem (h.lt_of_mem_results hfin hmem), (if_pos hskipped).symm, ?_⟩
    rw [hsent, htold]
    exact .nil
  · obtain ⟨first, last, hran, rfl⟩ := h.ran hmem hskipped
    obtain ⟨_, _, _, _, -, hbegins⟩ := hran.once
    obtain ⟨name, group, hat, hfirst⟩ := hbegins.group
    have hcourse := hran.course
    rw [hfirst] at hcourse
    have howns := (hcourse.ledger (GroupRun.ledger_of name _ group _)).owns
    refine ⟨name, group, hat, ?_, hcourse.tellsSteps hran.finished⟩
    rw [if_neg hskipped, GroupRun.outcome, GroupRun.stepOutcomes, List.length_map, List.length_zipIdx, howns]

theorem tells (hfin : p.graph.isFinished = true) : Tells rules graph p where
  length := by rw [length_outcome, h.paced.groups]
  tellsSteps := fun i o ho => h.tellsSteps hfin ho
  told := by
    intro e he
    by_contra hle
    have hmem := mem_ofPlace he
    rw [show ofPlace p.told e.1 = [] from (h.silent_of_le hfin (Nat.not_lt.1 hle)).2] at hmem
    cases hmem
  sent := by
    intro e he
    by_contra hle
    have hmem := mem_ofPlace he
    rw [show ofPlace p.sent e.1 = [] from (h.silent_of_le hfin (Nat.not_lt.1 hle)).1] at hmem
    cases hmem
  own := fun e he => (h.own e he).trans h.epoch.symm
  next := fun front e back group workflow entry htold he => (htold ▸ h.orderly).next he
  previous := fun front e back entry htold he => (htold ▸ h.orderly).previous he

end Sound

/-! ### A run that has ended -/

/-- Whether a graph has finished without setting any group to work. -/
structure Idle (graph : WorkflowGraph) (p : Passage) : Prop where
  groups : p.graph.groups = graph.groups
  finished : p.graph.stage = .finished
  results : ∀ e ∈ p.graph.results, e.2.steps = [] ∧ e.2.status = .skipped
  told : p.told = []
  sent : p.sent = []

namespace Idle

theorem resuming {counter : EpochCounter} {run : Run} (hrun : run.isStale counter = false)
    (hhalted : run.halted = true) : Idle graph (resuming rules counter graph run) where
  groups := GraphRun.groups_goOn _ _
  finished := GraphRun.goOn_refused (.inr hhalted) _ _
  results := GraphRun.results_goOn (P := fun o => o.steps = [] ∧ o.status = .skipped) (fun _ => ⟨rfl, rfl⟩) hrun
    (fun _ he => absurd he List.not_mem_nil) _ _
  told := rfl
  sent := rfl

theorem move (h : Idle graph p) (m : PassageMove) : Idle graph (p.move rules m) := by
  have hnone (place : Nat) : p.graph.running? place = none := by rw [GraphRun.running?, h.finished]
  cases m with
  | go place around =>
    rw [Passage.move, hnone]
    exact h
  | arrive place index answer =>
    rw [Passage.move, GraphRun.deliver, hnone]
    split
    · exact { h with }
    · exact h
  | close =>
    have hfin : p.graph.isFinished = true := by rw [GraphRun.isFinished, h.finished]
    rw [Passage.move, hfin, Bool.true_or, if_pos rfl]
    exact h
  | overtake => exact { h with }

theorem follow (h : Idle graph p) (moves : List PassageMove) : Idle graph (p.follow rules moves) := by
  induction moves generalizing p with
  | nil => exact h
  | cons m rest ih => exact ih (h.move m)

theorem tells (h : Idle graph p) : Tells rules graph p where
  length := by rw [length_outcome, h.groups]
  tellsSteps := by
    intro i o ho
    rw [getElem?_outcome, h.groups] at ho
    obtain ⟨⟨name, group⟩, hat, rfl⟩ := Option.map_eq_some_iff.1 ho
    have hidle : ((p.graph.results.lookup i).getD (.notStarted name .skipped)).steps = [] ∧
        ((p.graph.results.lookup i).getD (.notStarted name .skipped)).status = .skipped := by
      cases hlookup : p.graph.results.lookup i with
      | none => exact ⟨rfl, rfl⟩
      | some o =>
        obtain ⟨front, back, hsplit, -⟩ := List.lookup_eq_some_iff.1 hlookup
        exact h.results (i, o) (by simp [hsplit])
    refine ⟨name, group, hat, ?_, ?_⟩
    · rw [hidle.1, if_pos hidle.2]
      rfl
    · rw [hidle.1, toldBy, sentBy, h.told, h.sent]
      exact .nil
  told := by
    rw [h.told]
    exact fun _ he => absurd he List.not_mem_nil
  sent := by
    rw [h.sent]
    exact fun _ he => absurd he List.not_mem_nil
  own := by
    rw [h.told]
    exact fun _ he => absurd he List.not_mem_nil
  next := by
    intro front e back group workflow entry htold
    simp [h.told] at htold
  previous := by
    intro front e back entry htold
    simp [h.told] at htold

end Idle

/-- A graph of a run that is not superseded comes to its end, and what it has told and sent until then is what became of
its steps. -/
theorem trace_fits_outcomes (rules : RunRules) (counter : EpochCounter) (graph : WorkflowGraph) (run : Run)
    (moves : List PassageMove) (hrun : run.isStale counter = false)
    (hcurrent : ((resuming rules counter graph run).follow rules moves).Current) :
    ((resuming rules counter graph run).follow rules moves).Returns rules ∧
      (((resuming rules counter graph run).follow rules moves).graph.isFinished = true →
        Tells rules graph ((resuming rules counter graph run).follow rules moves)) := by
  obtain ⟨epoch, context, stale, halted⟩ := run
  cases halted with
  | true =>
    have hidle : Idle graph ((resuming rules counter graph ⟨epoch, context, stale, true⟩).follow rules moves) :=
      (Idle.resuming hrun rfl).follow moves
    exact ⟨.over (by rw [GraphRun.isFinished, hidle.finished]), fun _ => hidle.tells⟩
  | false =>
    rw [Run.isStale, Bool.or_eq_false_iff, Bool.not_eq_false', EpochCounter.isCurrent, beq_iff_eq] at hrun
    obtain ⟨rfl, rfl⟩ := hrun
    exact ⟨returns_follow hcurrent, (sound_follow counter context hcurrent).tells⟩

/-- A step that cannot be bound, one that is not awaited, one that must not fail, and one behind it. -/
def mixedGraph : WorkflowGraph :=
  ⟨[("page", ⟨[{ workflow := "LOST", input := [("Id", .obj [("key", .str "nothing")])] },
    { workflow := "AUDIT", awaited := false }, { workflow := "LOAD" }, { workflow := "SAVE", critical := true },
    { workflow := "SHOW" }]⟩)]⟩

/-- The session ends with the step that is not awaited, and the one that must not fail is refused. -/
def sessionEndsAside : List PassageMove :=
  let around : Surroundings := ⟨.epoch, ⟨"id", 0⟩⟩
  let status (code : Nat) : Answer := .ok (.obj [("status", .ofNat code)])
  [.go 0 around, .arrive 0 1 (status 401), .arrive 0 2 (status 200), .go 0 around, .arrive 0 3 (status 500),
    .go 0 around, .close]

/-- The page, in a run that has just begun, or in one that has ended. -/
def mixedPage (halted : Bool) : Passage :=
  (resuming {} ⟨1⟩ mixedGraph { epoch := 1, context := {}, halted }).follow {} sessionEndsAside

/-- What was answered first is told last, with the end of the session behind it, and of the last step nothing is told.
In a run that has ended nothing is told at all. -/
theorem mixed_page_fits_outcomes :
    (Tells {} mixedGraph (mixedPage false) ∧
      (mixedPage false).told.map (fun e => e.2.kind.name) = ["step_failed", "step_dispatched", "step_dispatched",
        "step_completed", "step_dispatched", "step_failed", "step_failed", "force_logout"] ∧
      ((mixedPage false).sentBy 0).map Call.mark = [(1, "AUDIT", false), (2, "LOAD", true), (3, "SAVE", true)]) ∧
      Tells {} mixedGraph (mixedPage true) ∧ (mixedPage true).told = [] := by
  have hcurrent : (mixedPage false).Current := by cbv
  have hended : (mixedPage true).Current := by cbv
  refine ⟨⟨(trace_fits_outcomes {} ⟨1⟩ mixedGraph _ sessionEndsAside (by cbv) hcurrent).2 (by cbv), ?_, ?_⟩,
    (trace_fits_outcomes {} ⟨1⟩ mixedGraph _ sessionEndsAside (by cbv) hended).2 (by cbv), ?_⟩
  · cbv
  · cbv
  · cbv

end Passage

end BackOffice
