import BackOffice.Proofs.Run.Returning

/-!
Failures stay apart. A graph that is not superseded, and that no end of a session halts, comes to its end with one
outcome for each group. A group is given up exactly when some group that it comes after, however far before it, has
failed; every other group runs once, behind all that it comes after and on what these have written.
-/

namespace BackOffice

open Relation

/-- Whether a group comes right after another. -/
def ComesAfter (dependencies : Nat → List Nat) (place d : Nat) : Prop := d ∈ dependencies place

namespace Founded

variable {rules : RunRules} {dependencies : Nat → List Nat} {results : List (Nat × GroupOutcome)}

theorem nodup (h : Founded rules dependencies results) : (results.map Prod.fst).Nodup := by
  induction h with
  | nil => exact .nil
  | ran _ hnew _ _ _ ih | givenUp _ hnew _ _ ih =>
    rw [List.map_append, List.nodup_append]
    refine ⟨ih, List.nodup_singleton _, ?_⟩
    rintro i hi _ hi' rfl
    obtain rfl := List.mem_singleton.1 hi'
    exact hnew hi

/-- Whatever a judged group comes right after has been judged. -/
theorem mem_of_comesAfter (h : Founded rules dependencies results) {place d : Nat}
    (hplace : place ∈ results.map Prod.fst) (hd : ComesAfter dependencies place d) : d ∈ results.map Prod.fst := by
  induction h with
  | nil => cases hplace
  | ran _ _ hjudged _ _ ih | givenUp _ _ hjudged _ ih =>
    rw [List.map_append, List.mem_append] at hplace ⊢
    left
    obtain hplace | hplace := hplace
    · exact ih hplace
    · obtain rfl := List.mem_singleton.1 hplace
      exact hjudged d hd

/-- Where all that a group comes right after has been judged, so has been all that is before it. -/
theorem mem_of_transGen (h : Founded rules dependencies results) {place d : Nat}
    (hjudged : ∀ d, ComesAfter dependencies place d → d ∈ results.map Prod.fst)
    (hd : TransGen (ComesAfter dependencies) place d) : d ∈ results.map Prod.fst := by
  induction hd with
  | single hd => exact hjudged _ hd
  | tail _ hd ih => exact h.mem_of_comesAfter ih hd

/-- A group that was given up has nothing to tell. -/
theorem notStarted (h : Founded rules dependencies results) {e : Nat × GroupOutcome} (he : e ∈ results)
    (hskipped : e.2.status = .skipped) : ∃ name, e.2 = .notStarted name .skipped := by
  induction h with
  | nil => cases he
  | ran _ _ _ _ ho ih =>
    obtain he | he := List.mem_append.1 he
    · exact ih he
    · obtain rfl := List.mem_singleton.1 he
      exact absurd hskipped ho
  | givenUp _ _ _ _ ih =>
    obtain he | he := List.mem_append.1 he
    · exact ih he
    · obtain rfl := List.mem_singleton.1 he
      exact ⟨_, rfl⟩

/-- Whether some group that a group comes after, however far before it, has failed. -/
def Fails (dependencies : Nat → List Nat) (results : List (Nat × GroupOutcome)) (place : Nat) : Prop :=
  ∃ e ∈ results, TransGen (ComesAfter dependencies) place e.1 ∧ e.2.status = .failed

/-- What is judged later has no part in what became of the groups that a group comes after. -/
theorem fails_append {place : Nat} {e : Nat × GroupOutcome} (hnew : e.1 ∉ results.map Prod.fst)
    (hplace : ∀ d, TransGen (ComesAfter dependencies) place d → d ∈ results.map Prod.fst) :
    Fails dependencies (results ++ [e]) place ↔ Fails dependencies results place := by
  constructor
  · rintro ⟨f, hf, htrans, hfailed⟩
    obtain hf | hf := List.mem_append.1 hf
    · exact ⟨f, hf, htrans, hfailed⟩
    · rw [List.mem_singleton.1 hf] at htrans
      exact absurd (hplace _ htrans) hnew
  · rintro ⟨f, hf, htrans, hfailed⟩
    exact ⟨f, List.mem_append_left _ hf, htrans, hfailed⟩

/-- A failure before a group is the failure of one right before it, or before one right before it. -/
theorem fails_iff {place : Nat} : Fails dependencies results place ↔
    ∃ d, ComesAfter dependencies place d ∧
      ((∃ o, (d, o) ∈ results ∧ o.status = .failed) ∨ Fails dependencies results d) := by
  constructor
  · rintro ⟨⟨d, o⟩, hf, htrans, hfailed⟩
    obtain ⟨b, hb, hrefl⟩ := TransGen.head'_iff.1 htrans
    obtain rfl | htrans := reflTransGen_iff_eq_or_transGen.1 hrefl
    · exact ⟨d, hb, .inl ⟨o, hf, hfailed⟩⟩
    · exact ⟨b, hb, .inr ⟨(d, o), hf, htrans, hfailed⟩⟩
  · rintro ⟨d, hd, ⟨o, ho, hfailed⟩ | ⟨f, hf, htrans, hfailed⟩⟩
    · exact ⟨(d, o), ho, .single hd, hfailed⟩
    · exact ⟨f, hf, .head hd htrans, hfailed⟩

/-- Where the groups before have been given up for failures before them, a group is kept from running exactly by a
failure before it. -/
theorem fails_iff_blocks (h : Founded rules dependencies results) (hstale : ∀ e ∈ results, e.2.status ≠ .stale)
    {place : Nat} (hjudged : ∀ d ∈ dependencies place, d ∈ results.map Prod.fst)
    (hskipped : ∀ e ∈ results, e.2.status = .skipped ↔ Fails dependencies results e.1) :
    Fails dependencies results place ↔ Blocks (dependencies place) results = true := by
  rw [fails_iff, blocks_iff h.nodup hjudged]
  refine exists_congr fun d => and_congr_right fun hd => ?_
  constructor
  · rintro (⟨o, ho, hfailed⟩ | hfails)
    · exact ⟨o, ho, by rw [hfailed]; rfl⟩
    · obtain ⟨⟨d, o⟩, ho, rfl⟩ := List.mem_map.1 (hjudged d hd)
      exact ⟨o, ho, by rw [(hskipped _ ho).2 hfails]; rfl⟩
  · rintro ⟨o, ho, hnot⟩
    cases hstatus : o.status with
    | completed | incomplete =>
      rw [hstatus] at hnot
      cases hnot
    | failed => exact .inl ⟨o, ho, hstatus⟩
    | skipped => exact .inr ((hskipped _ ho).1 hstatus)
    | stale => exact absurd hstatus (hstale _ ho)

/-- Where no end of a session halts the run, a group is given up exactly when a group before it has failed. -/
theorem skipped_iff (h : Founded rules dependencies results) (hstale : ∀ e ∈ results, e.2.status ≠ .stale)
    (hauth : rules.haltOnAuth = false ∨ ∀ e ∈ results, e.2.forceLogout = false) {e : Nat × GroupOutcome}
    (he : e ∈ results) : e.2.status = .skipped ↔ Fails dependencies results e.1 := by
  -- Groups are judged in turn, and whatever a group comes after is judged before it.
  induction h generalizing e with
  | nil => cases he
  | @ran results place o h hnew hjudged hclear ho ih =>
    simp only [List.forall_mem_append] at hstale hauth
    have ih := @ih hstale.1 (hauth.imp_right And.left)
    obtain he | he := List.mem_append.1 he
    · rw [ih he, fails_append hnew fun d => h.mem_of_transGen fun d => h.mem_of_comesAfter (List.mem_map_of_mem he)]
    · obtain rfl := List.mem_singleton.1 he
      rw [fails_append hnew fun d => h.mem_of_transGen hjudged,
        h.fails_iff_blocks hstale.1 hjudged fun e he => ih he, hclear]
      exact iff_of_false ho Bool.false_ne_true
  | @givenUp results place name h hnew hjudged hwhy ih =>
    simp only [List.forall_mem_append] at hstale hauth
    have ih := @ih hstale.1 (hauth.imp_right And.left)
    obtain he | he := List.mem_append.1 he
    · rw [ih he, fails_append hnew fun d => h.mem_of_transGen fun d => h.mem_of_comesAfter (List.mem_map_of_mem he)]
    · obtain rfl := List.mem_singleton.1 he
      have hblocks : Blocks (dependencies place) results = true := by
        refine hwhy.resolve_right ?_
        rintro ⟨hrule, f, hf, hlogout⟩
        obtain hauth | hauth := hauth
        · rw [hauth] at hrule
          cases hrule
        · rw [hauth.1 f hf] at hlogout
          cases hlogout
      rw [fails_append hnew fun d => h.mem_of_transGen hjudged,
        h.fails_iff_blocks hstale.1 hjudged fun e he => ih he, hblocks]
      exact iff_of_true rfl rfl

end Founded

namespace Passage

variable {rules : RunRules} {graph : WorkflowGraph} {start : Context} {p : Passage}

/-- What a graph has come to in which no end of a session has halted anything. -/
structure Isolates (rules : RunRules) (graph : WorkflowGraph) (start : Context) (p : Passage) : Prop where
  /-- There is one outcome for each group, in the order of declaration. -/
  names : p.outcome.groups.map GroupOutcome.name = graph.groups.map Prod.fst
  skipped_iff : ∀ i o, p.outcome.groups[i]? = some o → (o.status = .skipped ↔
    ∃ d o', TransGen (ComesAfter (Plan.of graph).dependenciesAt) i d ∧ p.outcome.groups[d]? = some o' ∧
      o'.status = .failed)
  /-- Nothing has come of a group that was given up. -/
  givenUp : ∀ i o, p.outcome.groups[i]? = some o → o.status = .skipped →
    o.steps = [] ∧ p.sentBy i = [] ∧ p.toldBy i = [] ∧ ∀ m ∈ p.log, m.place ≠ i
  ran : ∀ i o, p.outcome.groups[i]? = some o → o.status ≠ .skipped →
    ∃ first last, Ran rules graph start p i first last ∧ o = last.outcome
  /-- The context has the writes of the groups that have run, and no others. -/
  context : p.graph.run.context = start.apply (p.log.flatMap Milestone.writes)

/-- Whether a step of the graph was answered by the end of the session. -/
def MeetsAuthFailure (p : Passage) : Prop :=
  ∃ o ∈ p.outcome.groups, ∃ s ∈ o.steps, s.isAuthFailure = true

namespace Sound

variable (h : Sound rules graph start p)

include h

theorem unstale_results {e : Nat × GroupOutcome} (he : e ∈ p.graph.results) : e.2.status ≠ .stale := by
  obtain hskipped | ⟨last, writes, hended, ho⟩ := h.judged e he
  · rw [hskipped]
    decide
  · obtain ⟨-, -, first, hbegan, hcourse⟩ := h.ended _ _ _ hended
    rw [ho]
    exact GroupRun.status_ne_stale (h.unstaleCourse hbegan hcourse)

/-- What a group that has run knows of its steps. -/
theorem exists_ledger {e : Nat × GroupOutcome} (he : e ∈ p.graph.results) (hrun : e.2.status ≠ .skipped) :
    ∃ (last : GroupRun) (name : String) (steps : List Step),
      last.Ledger rules name steps [] ∧ last.stale = false ∧ e.2 = last.outcome := by
  obtain ⟨first, last, hran, ho⟩ := h.ran he hrun
  obtain ⟨front, middle, back, writes, honce, hbegins⟩ := hran.once
  have hbegan : .began e.1 first ∈ p.log := by
    rw [honce.split]
    simp
  obtain ⟨name, steps, -, hledger⟩ := h.ledger hbegan hran.course
  rw [GroupRun.unsettled_of_isFinished hran.finished] at hledger
  exact ⟨last, name, steps.steps, hledger, h.unstaleCourse hbegan hran.course, ho⟩

/-- A group asks for the end of the session exactly when a step of it was answered by it. -/
theorem forceLogout_results {e : Nat × GroupOutcome} (he : e ∈ p.graph.results) :
    e.2.forceLogout = e.2.steps.any StepOutcome.isAuthFailure := by
  by_cases hskipped : e.2.status = .skipped
  · obtain ⟨name, ho⟩ := h.paced.founded.notStarted he hskipped
    rw [ho]
    rfl
  · obtain ⟨last, name, steps, hledger, hstale, ho⟩ := h.exists_ledger he hskipped
    rw [ho]
    exact hledger.forceLogout_outcome hstale

theorem isolates (hfin : p.graph.isFinished = true) (hauth : rules.haltOnAuth = false ∨ ¬ p.MeetsAuthFailure) :
    Isolates rules graph start p := by
  have hlogout : rules.haltOnAuth = false ∨ ∀ e ∈ p.graph.results, e.2.forceLogout = false := by
    refine hauth.imp_right fun hnone e he => ?_
    rw [h.forceLogout_results he, List.any_eq_false]
    exact fun s hs hfailed => hnone ⟨e.2, List.mem_of_getElem? ((h.getElem?_groups hfin).2 he), s, hs, hfailed⟩
  exact {
    names := h.names_outcome hfin
    skipped_iff := by
      intro i o ho
      have hmem := (h.getElem?_groups hfin).1 ho
      have hiff := h.paced.founded.skipped_iff (fun e he => h.unstale_results he) hlogout hmem
      rw [hiff, Founded.Fails, h.paced.plan]
      constructor
      · rintro ⟨f, hf, htrans, hfailed⟩
        exact ⟨f.1, f.2, htrans, (h.getElem?_groups hfin).2 hf, hfailed⟩
      · rintro ⟨d, o', htrans, ho', hfailed⟩
        exact ⟨(d, o'), (h.getElem?_groups hfin).1 ho', htrans, hfailed⟩
    givenUp := by
      intro i o ho hskipped
      have hmem := (h.getElem?_groups hfin).1 ho
      obtain ⟨name, rfl⟩ := h.paced.founded.notStarted hmem hskipped
      exact ⟨rfl, h.givenUp hfin hmem hskipped⟩
    ran := fun i o ho hrun => h.ran ((h.getElem?_groups hfin).1 ho) hrun
    context := h.context }

end Sound

/-- A graph of a run that is not superseded comes to its end; and there, unless the end of a session has halted the run,
failures have stayed apart. -/
theorem failures_stay_apart (rules : RunRules) (counter : EpochCounter) (graph : WorkflowGraph) (context : Context)
    (moves : List PassageMove) (hcurrent : ((opening rules counter graph context).follow rules moves).Current) :
    ((opening rules counter graph context).follow rules moves).Returns rules ∧
      (((opening rules counter graph context).follow rules moves).graph.isFinished = true →
        (rules.haltOnAuth = false ∨ ¬ ((opening rules counter graph context).follow rules moves).MeetsAuthFailure) →
          Isolates rules graph context ((opening rules counter graph context).follow rules moves)) :=
  ⟨returns_follow hcurrent, fun hfin hauth => (sound_follow counter context hcurrent).isolates hfin hauth⟩

/-- A group that must not fail, one that reads what it writes, and one that has nothing to do with either. -/
def dependentGraph : WorkflowGraph :=
  ⟨[("load", ⟨[{ workflow := "LOAD", slot := some "user", critical := true }]⟩),
    ("show", ⟨[{ workflow := "SHOW", input := [("Id", .obj [("key", .str "user")])] }]⟩),
    ("other", ⟨[{ workflow := "OTHER" }]⟩)]⟩

/-- The first group is refused, and the last is not. -/
def refusedFirst : List PassageMove :=
  let around : Surroundings := ⟨.epoch, ⟨"id", 0⟩⟩
  [.go 0 around, .go 2 around, .arrive 0 0 (.ok (.obj [("status", .ofNat 500)])),
    .arrive 2 0 (.ok (.obj [("status", .ofNat 200)])), .go 0 around, .go 2 around, .close]

def failedLoad : Passage := (opening {} ⟨1⟩ dependentGraph {}).follow {} refusedFirst

theorem failed_load_stays_apart :
    failedLoad.Returns {} ∧ Isolates {} dependentGraph {} failedLoad ∧
      failedLoad.outcome.groups.map GroupOutcome.status = [.failed, .skipped, .completed] := by
  have hcurrent : failedLoad.Current := by cbv
  have hfin : failedLoad.graph.isFinished = true := by cbv
  have hauth : ¬ failedLoad.MeetsAuthFailure := by
    have hnone : (failedLoad.outcome.groups.any fun o => o.steps.any StepOutcome.isAuthFailure) = false := by cbv
    rintro ⟨o, ho, s, hs, hfailed⟩
    rw [List.any_eq_false] at hnone
    exact hnone o ho (List.any_eq_true.2 ⟨s, hs, hfailed⟩)
  obtain ⟨hreturns, hisolates⟩ := failures_stay_apart {} ⟨1⟩ dependentGraph {} refusedFirst hcurrent
  refine ⟨hreturns, hisolates hfin (.inr hauth), ?_⟩
  cbv

end Passage

end BackOffice
