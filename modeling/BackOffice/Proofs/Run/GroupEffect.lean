import BackOffice.Proofs.Run.Frame
import BackOffice.Proofs.Run.GroupTale

/-!
What a group does to its context. Each step is bound in the context that the awaited steps before it have left. At the
end there stand in the context the writes of the awaited steps, and behind them those of the others, both in the order
of the steps; a step that has failed or was passed over writes nothing.
-/

namespace BackOffice

namespace StepOutcome

/-- What is written of a step in its turn. -/
def writesInTurn (s : Step) (o : StepOutcome) : List Write := if s.awaited then o.writes s else []

/-- What is written of a step when all steps have had their turn. -/
def writesAfterTurns (s : Step) (o : StepOutcome) : List Write := if s.awaited then [] else o.writes s

/-- Whether a step was bound in a context: then it was sent, or has failed for what was missing. -/
def BoundIn (context : Context) (sent : List Call) (s : Step) (o : StepOutcome) : Prop :=
  ∃ around, match (s.bind context around).1 with
    | .ok request => o.wasSent = true ∧ ⟨o.index, request, s.awaited⟩ ∈ sent
    | .error e => o.status = .failed ∧ o.error = some (.binding e)

theorem key_mem_of_mem_writes {s : Step} {o : StepOutcome} {w : Write} (h : w ∈ o.writes s) : w.1 ∈ s.writes := by
  rw [writes] at h
  split at h
  · exact s.keys_writesOf _ (List.mem_map_of_mem h)
  · cases h

theorem mem_writes_of_inTurn {s : Step} {o : StepOutcome} {w : Write} (h : w ∈ o.writesInTurn s) :
    w ∈ o.writes s := by
  rw [writesInTurn] at h
  split at h
  · exact h
  · cases h

theorem mem_writes_of_afterTurns {s : Step} {o : StepOutcome} {w : Write} (h : w ∈ o.writesAfterTurns s) :
    w ∈ o.writes s := by
  rw [writesAfterTurns] at h
  split at h
  · cases h
  · exact h

/-- What was not sent writes nothing. -/
theorem TellsOf.writes_eq_nil {group : String} {index : Nat} {s : Step} {o : StepOutcome}
    (h : o.TellsOf group index s) (hsent : o.wasSent = false) : o.writes s = [] := by
  rw [writes, if_neg]
  intro hsuccess
  have hstatus : o.status = .completed := beq_iff_eq.1 hsuccess
  have herror : o.error = none := by
    have hfailed := h.failed
    rw [hstatus] at hfailed
    exact Option.not_isSome_iff_eq_none.1 (Bool.eq_false_iff.1 hfailed)
  rw [wasSent, isUnbound, hstatus, herror] at hsent
  cases hsent

end StepOutcome

/-- Whether a group has bound its steps, and written to its context, as what became of them says. -/
structure WritesSteps (rules : RunRules) (name : String) (group : StepGroup) (outcomes : List StepOutcome)
    (base context : Context) (sent : List Call) (answers : List (Nat × Answer)) : Prop where
  /-- A step that was not passed over was bound in what the awaited steps before it have left. -/
  bound {i : Nat} {s : Step} {o : StepOutcome} (hs : group.steps[i]? = some s) (ho : outcomes[i]? = some o)
    (hpassed : o.status ≠ .skipped) :
    o.BoundIn (base.apply (((group.steps.zip outcomes).take i).flatMap fun e => e.2.writesInTurn e.1)) sent s
  /-- A step that was sent has become what the answer to it makes of it. -/
  answered {i : Nat} {s : Step} {o : StepOutcome} (hs : group.steps[i]? = some s) (ho : outcomes[i]? = some o)
    (hsent : o.wasSent = true) : ∃ answer, answers.lookup i = some answer ∧ o = .ofAnswer rules name i s answer
  sent : sent.map Call.mark = (group.steps.zip outcomes).flatMap fun e => e.2.sending e.1
  /-- First the awaited steps have written, and then the others. -/
  written : context = base.apply ((group.steps.zip outcomes).flatMap (fun e => e.2.writesInTurn e.1) ++
    (group.steps.zip outcomes).flatMap fun e => e.2.writesAfterTurns e.1)
  framed {key : String} (h : key ∉ group.writes) : context.values.find? key = base.values.find? key

namespace Taken

variable {name : String} {t : Taken} {o : StepOutcome}

/-- A step that is not awaited and whose outcome stands in its turn was not sent. -/
theorem Becomes.writes_eq_nil (h : t.Becomes name o) (hsettled : t.Settled name) (hknown : t.outcome = some o)
    (hdetached : ¬t.step.awaited = true) : o.writes t.step = [] :=
  h.tells.writes_eq_nil (Bool.eq_false_iff.2 fun hsent => hdetached (hsettled.awaited o hknown hsent))

theorem Becomes.writes_eq (h : t.Becomes name o) (hsettled : t.Settled name) :
    t.writes = o.writesInTurn t.step := by
  obtain hknown | ⟨hnone, -⟩ := h.known
  · rw [writes, hknown, StepOutcome.writesInTurn, Option.map_some, Option.getD_some]
    split
    · rfl
    next hdetached => exact h.writes_eq_nil hsettled hknown hdetached
  · rw [writes, hnone, StepOutcome.writesInTurn, hsettled.detached hnone]
    rfl

/-- Only what became of a step later is written after all turns. -/
theorem Becomes.writesAfterTurns_eq (h : t.Becomes name o) (hsettled : t.Settled name) :
    o.writesAfterTurns t.step = if t.outcome.isNone then o.writes t.step else [] := by
  obtain hknown | ⟨hnone, -⟩ := h.known
  · rw [hknown, Option.isNone_some, if_neg Bool.false_ne_true, StepOutcome.writesAfterTurns]
    split
    · rfl
    next hdetached => exact h.writes_eq_nil hsettled hknown hdetached
  · rw [hnone, StepOutcome.writesAfterTurns, hsettled.detached hnone]
    rfl

theorem Becomes.boundIn {context : Context} {sent : List Call} (h : t.Becomes name o) (hbound : t.Bound context sent)
    (hpassed : o.status ≠ .skipped) : o.BoundIn context sent t.step := by
  cases hbound with
  | passed hskipped =>
    rw [h.isSkipped_eq, beq_iff_eq] at hskipped
    exact absurd hskipped hpassed
  | @sent around request hbind hcall hsent =>
    refine ⟨around, ?_⟩
    rw [hbind]
    obtain hknown | ⟨-, hwas⟩ := h.known
    · exact ⟨hsent o hknown, h.tells.index ▸ hcall⟩
    · exact ⟨hwas, h.tells.index ▸ hcall⟩
  | @failed around e o' hbind ho herror =>
    refine ⟨around, ?_⟩
    rw [hbind]
    obtain hknown | ⟨hnone, -⟩ := h.known
    · obtain rfl : o' = o := Option.some.inj (ho.symm.trans hknown)
      have hfailed := h.tells.failed
      rw [herror] at hfailed
      exact ⟨beq_iff_eq.1 hfailed.symm, herror⟩
    · cases ho.symm.trans hnone

end Taken

namespace GroupRun

variable {rules : RunRules} {name : String} {steps : List Step} {base : Context} {g : GroupRun}
  {front joined : List Taken} {kinds : List EventKind} {sent : List Call} {i : Nat} {s : Step} {o : StepOutcome}

/-- Each step stands in its place among those that have had their turn. -/
theorem exists_taken (hall : front.map Taken.entry = g.steps.zipIdx.map Prod.swap) (hs : g.steps[i]? = some s)
    (ho : g.stepOutcomes[i]? = some o) :
    ∃ t, front[i]? = some t ∧ t.index = i ∧ t.step = s ∧ g.outcomeOf t.entry = o := by
  have hat : (g.steps.zip g.stepOutcomes)[i]? = some (s, o) := List.getElem?_zip_eq_some.2 ⟨hs, ho⟩
  rw [g.zip_stepOutcomes hall, List.getElem?_map] at hat
  obtain ⟨t, ht, heq⟩ := Option.map_eq_some_iff.1 hat
  obtain ⟨hstep, houtcome⟩ := Prod.mk.inj heq
  have hentry := congrArg (·[i]?) hall
  simp only [List.getElem?_map, ht, List.getElem?_zipIdx, hs, Option.map_some, Option.some.injEq] at hentry
  have hindex : t.index = i := by simpa [Taken.entry] using congrArg Prod.fst hentry
  exact ⟨t, ht, hindex, hstep, houtcome⟩

namespace Joins

theorem writes_eq (h : Joins rules g front joined [] kinds sent) (hledger : g.Ledger rules name steps [])
    {t : Taken} (ht : t ∈ front) : t.writes = (g.outcomeOf t.entry).writesInTurn t.step :=
  (h.becomes hledger ht).writes_eq (h.settled t ht)

theorem flatMap_writes_joined (h : Joins rules g front joined [] kinds sent)
    (hledger : g.Ledger rules name steps []) :
    joined.flatMap Taken.writes = front.flatMap fun t => (g.outcomeOf t.entry).writesAfterTurns t.step := by
  refine (h.flatMap_joined hledger fun s o => o.writes s).trans (List.flatMap_congr fun t ht => ?_)
  exact ((h.becomes hledger ht).writesAfterTurns_eq (h.settled t ht)).symm

/-- What was sent has become what the answer to it makes of it, whenever that was taken up. -/
theorem answered_outcomeOf (h : Joins rules g front joined [] kinds sent) (heffects : Effects rules base g front joined sent)
    (hledger : g.Ledger rules name steps []) {t : Taken} (ht : t ∈ front)
    (hsent : (g.outcomeOf t.entry).wasSent = true) :
    ∃ answer, g.answers.lookup t.index = some answer ∧
      g.outcomeOf t.entry = .ofAnswer rules g.name t.index t.step answer := by
  obtain hknown | ⟨hnone, -⟩ := (h.becomes hledger ht).known
  · exact heffects.answered t (List.mem_append_left _ ht) _ hknown hsent
  · obtain ⟨u, hu, hentry⟩ := h.exists_joined ht hnone
    obtain ⟨hknown, -, -⟩ := h.outcomeOf_joined hledger hu
    obtain ⟨hindex, hstep⟩ := Prod.mk.inj hentry
    rw [hentry] at hknown
    rw [← hindex, ← hstep]
    exact heffects.answered u (List.mem_append_right _ hu) _ hknown hsent

end Joins

/-- The effect of a group that has come to its end, whatever it was answered and in whatever order. -/
theorem writesSteps_of_isFinished {epoch : Nat} {group : StepGroup} {told : List Event}
    (h : Course rules (.of name epoch group base) g sent told) (hfin : g.isFinished = true) :
    WritesSteps rules name group g.stepOutcomes base g.context sent g.answers := by
  obtain ⟨front, joined, hall, hjoins, heffects, hledger⟩ := h.finished hfin
  obtain ⟨steps⟩ := group
  obtain rfl : g.steps = steps := hledger.owns
  rw [← hledger.named]
  have hzip := g.zip_stepOutcomes hall
  have hwritten : g.context = base.apply ((g.steps.zip g.stepOutcomes).flatMap (fun e => e.2.writesInTurn e.1) ++
      (g.steps.zip g.stepOutcomes).flatMap fun e => e.2.writesAfterTurns e.1) := by
    rw [heffects.written, hjoins.flatMap_writes_joined hledger, List.flatMap_congr fun t => hjoins.writes_eq hledger,
      hzip, List.flatMap_map, List.flatMap_map]
  exact {
    bound := by
      intro i s o hs ho hpassed
      obtain ⟨t, ht, -, rfl, rfl⟩ := exists_taken hall hs ho
      obtain ⟨hlt, hget⟩ := List.getElem?_eq_some_iff.1 ht
      have hsplit : front = front.take i ++ t :: front.drop (i + 1) := by
        rw [← hget, List.getElem_cons_drop, List.take_append_drop]
      have hbefore : (front.take i).flatMap Taken.writes =
          ((g.steps.zip g.stepOutcomes).take i).flatMap fun e => e.2.writesInTurn e.1 := by
        rw [hzip, ← List.map_take, List.flatMap_map]
        exact List.flatMap_congr fun u hu => hjoins.writes_eq hledger (List.mem_of_mem_take hu)
      rw [← hbefore]
      exact (hjoins.becomes hledger (List.mem_of_getElem? ht)).boundIn (heffects.bound _ _ _ hsplit) hpassed
    answered := by
      intro i s o hs ho hsent
      obtain ⟨t, ht, rfl, rfl, rfl⟩ := exists_taken hall hs ho
      exact hjoins.answered_outcomeOf heffects hledger (List.mem_of_getElem? ht) hsent
    sent := (h.tellsSteps hfin).sent
    written := hwritten
    framed := by
      intro key hkey
      rw [hwritten]
      refine Context.find?_apply_of_notMem fun hmem => hkey ?_
      obtain ⟨w, hw, rfl⟩ := List.mem_map.1 hmem
      have hwrites : ∃ e ∈ g.steps.zip g.stepOutcomes, w ∈ e.2.writes e.1 := by
        obtain hw | hw := List.mem_append.1 hw
        · obtain ⟨e, he, hw⟩ := List.mem_flatMap.1 hw
          exact ⟨e, he, StepOutcome.mem_writes_of_inTurn hw⟩
        · obtain ⟨e, he, hw⟩ := List.mem_flatMap.1 hw
          exact ⟨e, he, StepOutcome.mem_writes_of_afterTurns hw⟩
      obtain ⟨e, he, hw⟩ := hwrites
      exact List.mem_flatMap.2 ⟨e.1, (List.of_mem_zip he).1, StepOutcome.key_mem_of_mem_writes hw⟩ }

/-- Steps that share the slot `k`: one that is not awaited, one that is, one that cannot be bound, one that reads what
was written before it and fails, and one that completes without data. -/
def sharingGroup : StepGroup :=
  ⟨[{ slot := some "k", workflow := "AUDIT", awaited := false },
    { slot := some "k", workflow := "LOAD", writeBacks := [⟨"id", "selected"⟩, ⟨"lost", "missing"⟩] },
    { slot := some "k", workflow := "LOST", input := [("Id", .obj [("key", .str "nothing")])] },
    { slot := some "k", workflow := "SHOW", input := [("Id", .obj [("key", .str "selected")])] },
    { slot := some "saved", workflow := "SAVE" }]⟩

/-- An answer with a status and data. -/
def answerOf (status : Nat) (data : Json) : Answer :=
  .ok (.obj [("status", .ofNat status), ("payload", .obj [("dataresponse", .obj [("data", data)])])])

/-- A group that goes on after an answer, with all that it has sent. -/
def goOn (rules : RunRules) (around : Surroundings) (r : GroupRun × List Call) (answer : Nat × Answer) :
    GroupRun × List Call :=
  let next := (r.1.deliver answer.1 answer.2).poll rules true { surroundings := around }
  (next.1, r.2 ++ next.2.calls)

theorem Course.exists_goOn {first : GroupRun} {around : Surroundings} {told : List Event}
    (h : Course rules first g sent told) (answers : List (Nat × Answer)) :
    ∃ told, Course rules first (answers.foldl (goOn rules around) (g, sent)).1
      (answers.foldl (goOn rules around) (g, sent)).2 told := by
  induction answers generalizing g sent told with
  | nil => exact ⟨told, h⟩
  | cons answer rest ih => exact ih ((h.answered answer.1 answer.2).went around)

/-- The steps are answered one after another, the one that is not awaited first. -/
def sharingRun : GroupRun × List Call :=
  let around : Surroundings := ⟨.epoch, ⟨"id", 0⟩⟩
  let begun := (of "page" 1 sharingGroup {}).poll {} true { surroundings := around }
  [(0, answerOf 200 (.str "audit")), (1, answerOf 200 (.obj [("id", .str "7")])), (3, answerOf 500 .null),
    (4, .ok (.obj [("status", .ofNat 200)]))].foldl (goOn {} around) (begun.1, begun.2.calls)

/-- The step that is not awaited writes last, although it was answered first. -/
theorem detached_step_writes_last :
    WritesSteps {} "page" sharingGroup sharingRun.1.stepOutcomes {} sharingRun.1.context sharingRun.2
        sharingRun.1.answers ∧
      sharingRun.1.stepOutcomes.map StepOutcome.status = [.completed, .completed, .failed, .failed, .completed] ∧
      sharingRun.1.context.journal.map Prod.fst = ["k", "selected", "saved", "k"] ∧
      sharingRun.1.context.values = [("k", .str "audit"), ("selected", .str "7"), ("saved", .null)] ∧
      sharingRun.2.map (fun call => (call.index, call.request.input)) =
        [(0, []), (1, []), (3, [("Id", .str "7")]), (4, [])] := by
  obtain ⟨told, hcourse⟩ := (Course.begun.went ⟨.epoch, ⟨"id", 0⟩⟩).exists_goOn _
  refine ⟨writesSteps_of_isFinished hcourse (by cbv), ?_⟩
  cbv

end GroupRun

end BackOffice
