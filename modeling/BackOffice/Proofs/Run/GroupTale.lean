import BackOffice.Proofs.Run.Passage

/-!
What a group tells, sends and writes, step by step. Each step has its turn: it is passed over, or it cannot be bound, or
it is sent, and then it is awaited or not. When all have had their turn, the answers of those that were not awaited are
taken up in the order of the steps. What is told, sent and written of a step can be read off what became of it.
-/

namespace BackOffice

/-! ### What is told of a step -/

namespace StepOutcome

/-- Whether a step has failed because it could not be bound. -/
def isUnbound (o : StepOutcome) : Bool :=
  match o.error with
  | some (.binding _) => true
  | _ => false

/-- Whether a step was sent, and its answer taken up. -/
def wasSent (o : StepOutcome) : Bool := (o.status == .completed || o.status == .failed) && !o.isUnbound

theorem not_skipped_of_wasSent (o : StepOutcome) (h : o.wasSent = true) : (o.status == .skipped) = false := by
  rw [wasSent] at h
  cases hstatus : o.status with
  | skipped => simp [hstatus] at h
  | completed | failed | stale => rfl

/-- What is told of how a step ended. -/
def closing (o : StepOutcome) : List EventKind :=
  match o.status with
  | .completed => [.completed o.group o.workflow]
  | .failed => (o.error.map (EventKind.ofFailure o.group o.workflow)).getD []
  | _ => []

/-- What is told of a step in its turn. A step that was not sent has failed at once, or was passed over. -/
def inTurn (s : Step) (o : StepOutcome) : List EventKind :=
  if o.wasSent then .dispatched o.group o.workflow :: (if s.awaited then o.closing else []) else o.closing

/-- What is told of a step when all steps have had their turn. -/
def afterTurns (s : Step) (o : StepOutcome) : List EventKind :=
  if o.wasSent && !s.awaited then o.closing else []

/-- The request of a step, by its index and its workflow, and whether it is awaited. -/
def sending (s : Step) (o : StepOutcome) : List (Nat × String × Bool) :=
  if o.wasSent then [(o.index, o.workflow, s.awaited)] else []

/-- What a step writes: what a completed one has found in its data, and otherwise nothing. -/
def writes (s : Step) (o : StepOutcome) : List Write := if o.isSuccess then s.writesOf o.data? else []

/-- Whether what became of a step in its turn halts its group. -/
def stops (rules : RunRules) (s : Step) (o : StepOutcome) : Bool := o.halts rules s && (s.awaited || o.isUnbound)

/-- What the answer to a step makes of it. -/
def ofAnswer (rules : RunRules) (group : String) (index : Nat) (s : Step) (answer : Answer) : StepOutcome :=
  match StepError.ofVerdict? (Verdict.of rules.authKeys (.ofResult answer)) with
  | none => { unanswered group index s .completed with envelope := some (.ofResult answer) }
  | some e => { unanswered group index s .failed with envelope := some (.ofResult answer), error := some e }

section OfAnswer

variable (rules : RunRules) (group : String) (index : Nat) (s : Step) (answer : Answer)

theorem tellsOf_ofAnswer : (ofAnswer rules group index s answer).TellsOf group index s := by
  rw [ofAnswer]
  split <;> exact ⟨rfl, rfl, rfl, rfl⟩

theorem wasSent_ofAnswer : (ofAnswer rules group index s answer).wasSent = true := by
  rw [ofAnswer]
  split
  · rfl
  next e herror =>
    unfold StepError.ofVerdict? at herror
    split at herror <;> cases herror <;> rfl

end OfAnswer

end StepOutcome

/-- What a call is for. -/
def Call.mark (call : Call) : Nat × String × Bool := (call.index, call.request.workflow, call.awaited)

/-- A step that has had its turn, with what became of it. Nothing is known of a step that was sent and is not
awaited. -/
structure Taken where
  index : Nat
  step : Step
  outcome : Option StepOutcome

namespace Taken

def entry (t : Taken) : Nat × Step := (t.index, t.step)

def noted (t : Taken) : Option (Nat × StepOutcome) := t.outcome.map (t.index, ·)

def pending (t : Taken) : Option (Nat × Step) := if t.outcome.isNone then some t.entry else none

def telling (name : String) (t : Taken) : List EventKind :=
  match t.outcome with
  | some o => o.inTurn t.step
  | none => [.dispatched name t.step.workflow]

def sending (t : Taken) : List (Nat × String × Bool) :=
  match t.outcome with
  | some o => o.sending t.step
  | none => [(t.index, t.step.workflow, t.step.awaited)]

def closing (t : Taken) : List EventKind := (t.outcome.map StepOutcome.closing).getD []

def writes (t : Taken) : List Write := (t.outcome.map (·.writes t.step)).getD []

def stops (rules : RunRules) (t : Taken) : Bool := t.outcome.any (·.stops rules t.step)

def isSkipped (t : Taken) : Bool := t.outcome.any (·.status == .skipped)

/-- Whether a step is as it should be after its turn. -/
structure Settled (name : String) (t : Taken) : Prop where
  tells : ∀ o, t.outcome = some o → o.TellsOf name t.index t.step
  awaited : ∀ o, t.outcome = some o → o.wasSent = true → t.step.awaited = true
  detached : t.outcome = none → t.step.awaited = false

theorem settled_of_unsent {name : String} {index : Nat} {s : Step} {o : StepOutcome} (htells : o.TellsOf name index s)
    (hsent : o.wasSent = false) : Settled name ⟨index, s, some o⟩ where
  tells := fun _ ho => Option.some.inj ho ▸ htells
  awaited := fun _ ho hsent' => by
    rw [← Option.some.inj ho, hsent] at hsent'
    cases hsent'
  detached := fun hnone => absurd hnone (Option.some_ne_none o)

theorem settled_of_detached {name : String} {index : Nat} {s : Step} (hdetached : s.awaited = false) :
    Settled name ⟨index, s, none⟩ where
  tells := fun o ho => absurd ho.symm (Option.some_ne_none o)
  awaited := fun o ho => absurd ho.symm (Option.some_ne_none o)
  detached := fun _ => hdetached

theorem settled_of_awaited {name : String} {index : Nat} {s : Step} {o : StepOutcome} (htells : o.TellsOf name index s)
    (hawaited : s.awaited = true) : Settled name ⟨index, s, some o⟩ where
  tells := fun _ ho => Option.some.inj ho ▸ htells
  awaited := fun _ _ _ => hawaited
  detached := fun hnone => absurd hnone (Option.some_ne_none o)

/-- What came of binding a step in a context, unless it was passed over. -/
inductive Bound (context : Context) (calls : List Call) (t : Taken) : Prop
  | passed (h : t.isSkipped = true)
  | sent {around : Surroundings} {request : Request} (hbind : (t.step.bind context around).1 = .ok request)
      (hcall : ⟨t.index, request, t.step.awaited⟩ ∈ calls) (hsent : ∀ o, t.outcome = some o → o.wasSent = true)
  | failed {around : Surroundings} {e : BindingError} {o : StepOutcome}
      (hbind : (t.step.bind context around).1 = .error e) (ho : t.outcome = some o)
      (herror : o.error = some (.binding e))

theorem Bound.mono {context : Context} {calls calls' : List Call} {t : Taken} (h : t.Bound context calls)
    (hcalls : calls ⊆ calls') : t.Bound context calls' := by
  cases h with
  | passed h => exact .passed h
  | sent hbind hcall hsent => exact .sent hbind (hcalls hcall) hsent
  | failed hbind ho herror => exact .failed hbind ho herror

/-- Whether a step that was sent has become what the answer to it makes of it. -/
def Answered (rules : RunRules) (name : String) (answers : List (Nat × Answer)) (t : Taken) : Prop :=
  ∀ o, t.outcome = some o → o.wasSent = true →
    ∃ answer, answers.lookup t.index = some answer ∧ o = .ofAnswer rules name t.index t.step answer

/-- Whether the answer of a step that was not awaited has been taken up. -/
def Joined (name : String) (t : Taken) : Prop :=
  ∃ o, t.outcome = some o ∧ o.TellsOf name t.index t.step ∧ o.wasSent = true

end Taken

/-- The steps that have had their turn, and those that have not, when one more has had its turn. -/
theorem Taken.map_entry_concat (front : List Taken) (index : Nat) (s : Step) (outcome : Option StepOutcome)
    (rest : List (Nat × Step)) :
    (front ++ [Taken.mk index s outcome]).map entry ++ rest = front.map entry ++ (index, s) :: rest := by
  rw [List.map_append, List.append_assoc]
  rfl

/-- Whether steps are passed over from where the group is halted. -/
def HaltsInTurn (rules : RunRules) (front : List Taken) : Prop :=
  ∀ before t after, front = before ++ t :: after → t.isSkipped = before.any (Taken.stops rules)

theorem Step.workflow_bind {s : Step} {context : Context} {around : Surroundings} {request : Request}
    (h : (s.bind context around).1 = .ok request) : request.workflow = s.workflow := by
  simp only [bind] at h
  split at h
  · cases h
  · cases h
    rfl

theorem Call.mark_of_bind {s : Step} {context : Context} {around : Surroundings} {request : Request}
    (h : (s.bind context around).1 = .ok request) (index : Nat) (awaited : Bool) :
    Call.mark ⟨index, request, awaited⟩ = (index, s.workflow, awaited) := by
  rw [mark, Step.workflow_bind h]

namespace Trace

theorem calls_tell (t : Trace) (current : Bool) (epoch : Nat) (kinds : List EventKind) :
    (t.tell current epoch kinds).calls = t.calls := by
  rw [tell]
  split <;> rfl

theorem kinds_tell (t : Trace) (epoch : Nat) (kinds : List EventKind) :
    (t.tell true epoch kinds).events.map Event.kind = t.events.map Event.kind ++ kinds := by
  simp only [tell, if_true, List.map_append, List.map_map]
  exact congrArg (_ ++ ·) kinds.map_id

end Trace

namespace GroupRun

variable {rules : RunRules} {base : Context} {g g' : GroupRun} {t : Trace} {front joined : List Taken}
  {all rest : List (Nat × Step)}
  {kinds kinds' : List EventKind} {calls calls' : List Call} {index : Nat} {s : Step} {answer : Answer}

/-- What a group has told and sent while its steps have their turns. -/
structure Turns (rules : RunRules) (g : GroupRun) (front : List Taken) (kinds : List EventKind)
    (calls : List Call) : Prop where
  told : kinds = front.flatMap (Taken.telling g.name)
  sent : calls.map Call.mark = front.flatMap Taken.sending
  noted : g.outcomes = front.filterMap Taken.noted
  pending : g.detached = front.filterMap Taken.pending
  halted : g.halted = front.any (Taken.stops rules)
  settled : ∀ t ∈ front, t.Settled g.name
  passed : HaltsInTurn rules front

/-- What a group has told and sent while answers are taken up at its end. -/
structure Joins (rules : RunRules) (g : GroupRun) (front joined : List Taken) (rest : List (Nat × Step))
    (kinds : List EventKind) (calls : List Call) : Prop where
  told : kinds = front.flatMap (Taken.telling g.name) ++ joined.flatMap Taken.closing
  sent : calls.map Call.mark = front.flatMap Taken.sending
  noted : g.outcomes = front.filterMap Taken.noted ++ joined.filterMap Taken.noted
  pending : front.filterMap Taken.pending = joined.map Taken.entry ++ rest
  settled : ∀ t ∈ front, t.Settled g.name
  passed : HaltsInTurn rules front
  answered : ∀ t ∈ joined, t.Joined g.name

/-- What a group has written to the context that it began with, and where it has bound its steps. -/
structure Effects (rules : RunRules) (base : Context) (g : GroupRun) (front joined : List Taken) (calls : List Call) : Prop where
  written : g.context = base.apply (front.flatMap Taken.writes ++ joined.flatMap Taken.writes)
  bound : ∀ before t after, front = before ++ t :: after → t.Bound (base.apply (before.flatMap Taken.writes)) calls
  answered : ∀ t ∈ front ++ joined, t.Answered rules g.name g.answers

/-- What a group has told, sent and written, wherever it is. -/
inductive Tale (rules : RunRules) (base : Context) (all : List (Nat × Step)) (g : GroupRun) :
    List EventKind → List Call → Prop
  | starting {front : List Taken} {rest : List (Nat × Step)} {kinds : List EventKind} {calls : List Call}
      (hstage : g.stage = .starting rest) (hall : front.map Taken.entry ++ rest = all)
      (h : Turns rules g front kinds calls) (heffects : Effects rules base g front [] calls) : Tale rules base all g kinds calls
  | awaiting {front : List Taken} {index : Nat} {s : Step} {rest : List (Nat × Step)} {kinds : List EventKind}
      {calls : List Call} {around : Surroundings} {request : Request} (hstage : g.stage = .awaiting index s rest)
      (hall : front.map Taken.entry ++ (index, s) :: rest = all) (h : Turns rules g front kinds calls)
      (heffects : Effects rules base g front [] calls) (hopen : g.halted = false) (hawaited : s.awaited = true)
      (hbind : (s.bind g.context around).1 = .ok request) :
      Tale rules base all g (kinds ++ [.dispatched g.name s.workflow]) (calls ++ [⟨index, request, s.awaited⟩])
  | joining {front joined : List Taken} {rest : List (Nat × Step)} {kinds : List EventKind} {calls : List Call}
      (hstage : g.stage = .joining rest) (hall : front.map Taken.entry = all)
      (h : Joins rules g front joined rest kinds calls) (heffects : Effects rules base g front joined calls) :
      Tale rules base all g kinds calls
  | finished {front joined : List Taken} {kinds : List EventKind} {calls : List Call}
      (hstage : g.stage = .finished) (hall : front.map Taken.entry = all)
      (h : Joins rules g front joined [] kinds calls) (heffects : Effects rules base g front joined calls) :
      Tale rules base all g kinds calls

/-! ### One step -/

theorem Turns.nil (hname : g.outcomes = []) (hdetached : g.detached = []) (hhalted : g.halted = false) :
    Turns rules g [] [] [] where
  told := rfl
  sent := rfl
  noted := hname
  pending := hdetached
  halted := hhalted
  settled := fun _ ht => absurd ht List.not_mem_nil
  passed := fun before t after h => by simp at h

/-- The next step has its turn. -/
theorem Turns.next {u : Taken} (h : Turns rules g front kinds calls) (hname : g'.name = g.name)
    (houtcomes : g'.outcomes = g.outcomes ++ u.noted.toList) (hdetached : g'.detached = g.detached ++ u.pending.toList)
    (hhalted : g'.halted = (g.halted || u.stops rules)) (hkinds : kinds' = kinds ++ u.telling g.name)
    (hcalls : calls'.map Call.mark = calls.map Call.mark ++ u.sending) (hsettled : u.Settled g.name)
    (hskipped : u.isSkipped = g.halted) : Turns rules g' (front ++ [u]) kinds' calls' where
  told := by
    rw [hkinds, h.told, hname, List.flatMap_append, List.flatMap_singleton]
  sent := by
    rw [hcalls, h.sent, List.flatMap_append, List.flatMap_singleton]
  noted := by
    rw [houtcomes, h.noted, List.filterMap_append]
    cases hu : u.noted <;> simp [hu]
  pending := by
    rw [hdetached, h.pending, List.filterMap_append]
    cases hu : u.pending <;> simp [hu]
  halted := by
    rw [hhalted, h.halted, List.any_append, List.any_cons, List.any_nil, Bool.or_false]
  settled := by
    rw [hname]
    exact List.forall_mem_append.2 ⟨h.settled, List.forall_mem_singleton.2 hsettled⟩
  passed := by
    intro before t after hfront
    obtain ⟨rfl, rfl, -⟩ | ⟨after', -, hfront⟩ := concat_eq_append_cons hfront
    · rw [hskipped, h.halted]
    · exact h.passed before t after' hfront

/-- What an answer makes of a group. -/
theorem settle_eq (rules : RunRules) (g : GroupRun) (index : Nat) (s : Step) (answer : Answer) (t : Trace) :
    g.settle rules index s answer t =
      ({ g with
          outcomes := g.outcomes ++ [(index, .ofAnswer rules g.name index s answer)]
          context := g.context.apply ((StepOutcome.ofAnswer rules g.name index s answer).writes s)
          halted := g.halted || (StepOutcome.ofAnswer rules g.name index s answer).halts rules s
          forceLogout := g.forceLogout || (StepOutcome.ofAnswer rules g.name index s answer).isAuthFailure },
        t.tell true g.epoch (StepOutcome.ofAnswer rules g.name index s answer).closing) := by
  cases herror : StepError.ofVerdict? (Verdict.of rules.authKeys (.ofResult answer)) with
  | none =>
    have ho : StepOutcome.ofAnswer rules g.name index s answer =
        { StepOutcome.unanswered g.name index s .completed with envelope := some (.ofResult answer) } := by
      rw [StepOutcome.ofAnswer, herror]
    rw [ho, settle, herror]
    simp [record, StepOutcome.halts, StepOutcome.isAuthFailure, StepOutcome.writes, StepOutcome.isSuccess,
      StepOutcome.data?, StepOutcome.closing, StepOutcome.unanswered]
  | some e =>
    have ho : StepOutcome.ofAnswer rules g.name index s answer =
        { StepOutcome.unanswered g.name index s .failed with
          envelope := some (.ofResult answer), error := some e } := by
      rw [StepOutcome.ofAnswer, herror]
    rw [ho, settle, herror]
    simp [fail, record, StepOutcome.halts, StepOutcome.isAuthFailure, StepOutcome.writes, StepOutcome.isSuccess,
      StepOutcome.closing, StepOutcome.unanswered, Context.apply, Bool.or_assoc]

/-- A step is passed over. -/
theorem Turns.skip (h : Turns rules g front kinds calls) (hhalted : g.halted = true) (index : Nat) (s : Step) :
    Turns rules (g.giveUp index s .skipped)
      (front ++ [⟨index, s, some (.unanswered g.name index s .skipped)⟩]) kinds calls := by
  refine h.next rfl rfl (List.append_nil _).symm (Bool.or_false _).symm (List.append_nil _).symm
    (List.append_nil _).symm ?_ hhalted.symm
  exact Taken.settled_of_unsent (StepOutcome.tellsOf_unanswered g.name index s .skipped (by decide)) rfl

/-- A step cannot be bound. It is told as failed, and is not sent. -/
theorem Turns.unbound (h : Turns rules g front kinds calls) (hopen : g.halted = false) (index : Nat) (s : Step)
    (e : BindingError) (t : Trace) :
    Turns rules (g.fail rules index s none (.binding e) t true).1
      (front ++ [⟨index, s, some { StepOutcome.unanswered g.name index s .failed with error := some (.binding e) }⟩])
      (kinds ++ EventKind.ofFailure g.name s.workflow (.binding e)) calls := by
  refine h.next rfl rfl (List.append_nil _).symm ?_ rfl (List.append_nil _).symm ?_ hopen.symm
  · simp [fail, record, Taken.stops, StepOutcome.stops, StepOutcome.halts, StepOutcome.isUnbound,
      StepOutcome.isAuthFailure, StepError.isAuth, StepOutcome.unanswered]
  · exact Taken.settled_of_unsent ⟨rfl, rfl, rfl, rfl⟩ rfl

/-- A step is sent, and is not awaited. -/
theorem Turns.detach {call : Call} (h : Turns rules g front kinds calls) (hopen : g.halted = false)
    (hdetached : s.awaited = false) (hcall : call.mark = (index, s.workflow, s.awaited)) :
    Turns rules { g with detached := g.detached ++ [(index, s)] } (front ++ [⟨index, s, none⟩])
      (kinds ++ [.dispatched g.name s.workflow]) (calls ++ [call]) := by
  refine h.next rfl (List.append_nil _).symm rfl (Bool.or_false _).symm rfl ?_
    (Taken.settled_of_detached hdetached) hopen.symm
  rw [List.map_append, List.map_singleton, hcall]
  rfl

/-- A step that is awaited has been sent, and is answered. -/
theorem Turns.settle {call : Call} (h : Turns rules g front kinds calls) (hopen : g.halted = false)
    (hawaited : s.awaited = true) (hcall : call.mark = (index, s.workflow, s.awaited)) (answer : Answer) (t : Trace) :
    Turns rules (g.settle rules index s answer t).1
      (front ++ [⟨index, s, some (.ofAnswer rules g.name index s answer)⟩])
      (kinds ++ [.dispatched g.name s.workflow] ++ (StepOutcome.ofAnswer rules g.name index s answer).closing)
      (calls ++ [call]) := by
  have htells := StepOutcome.tellsOf_ofAnswer rules g.name index s answer
  have hsent := StepOutcome.wasSent_ofAnswer rules g.name index s answer
  rw [settle_eq]
  refine h.next rfl rfl (List.append_nil _).symm ?_ ?_ ?_ (Taken.settled_of_awaited htells hawaited) ?_
  · simp [Taken.stops, StepOutcome.stops, hawaited]
  · simp only [Taken.telling, StepOutcome.inTurn, hsent, hawaited, if_true, htells.group, htells.workflow,
      List.append_assoc, List.singleton_append]
  · simp only [List.map_append, List.map_singleton, hcall, Taken.sending, StepOutcome.sending, hsent, if_true,
      htells.index, htells.workflow]
  · rw [hopen]
    exact StepOutcome.not_skipped_of_wasSent _ hsent

/-- All steps have had their turn. -/
theorem Turns.joins (h : Turns rules g front kinds calls) : Joins rules g front [] g.detached kinds calls where
  told := h.told.trans (List.append_nil _).symm
  sent := h.sent
  noted := h.noted.trans (List.append_nil _).symm
  pending := h.pending.symm
  settled := h.settled
  passed := h.passed
  answered := fun _ hu => absurd hu List.not_mem_nil

/-- An answer is taken up at the end. -/
theorem Joins.next {o : StepOutcome} (h : Joins rules g front joined ((index, s) :: rest) kinds calls)
    (hname : g'.name = g.name) (houtcomes : g'.outcomes = g.outcomes ++ [(index, o)])
    (hkinds : kinds' = kinds ++ o.closing) (htells : o.TellsOf g.name index s) (hsent : o.wasSent = true) :
    Joins rules g' front (joined ++ [⟨index, s, some o⟩]) rest kinds' calls where
  told := by
    rw [hkinds, h.told, hname, List.append_assoc, List.flatMap_append, List.flatMap_singleton]
    rfl
  sent := h.sent
  noted := by
    rw [houtcomes, h.noted, List.append_assoc, List.filterMap_append]
    rfl
  pending := by
    rw [h.pending, List.map_append, List.append_assoc]
    rfl
  settled := by
    rw [hname]
    exact h.settled
  passed := h.passed
  answered := by
    rw [hname]
    exact List.forall_mem_append.2 ⟨h.answered, List.forall_mem_singleton.2 ⟨o, rfl, htells, hsent⟩⟩

/-! ### Writes -/

theorem Effects.nil (g : GroupRun) : Effects rules g.context g [] [] [] where
  written := rfl
  bound := fun before t after h => by simp at h
  answered := fun _ ht => absurd ht List.not_mem_nil

/-- The next step has its turn. -/
theorem Effects.next {u : Taken} (h : Effects rules base g front [] calls) (hname : g'.name = g.name)
    (hcontext : g'.context = g.context.apply u.writes) (hanswers : g'.answers = g.answers) (hcalls : calls ⊆ calls')
    (hbound : u.Bound g.context calls') (hanswered : u.Answered rules g.name g.answers) :
    Effects rules base g' (front ++ [u]) [] calls' where
  written := by
    rw [hcontext, h.written, ← Context.apply_append, List.flatMap_append, List.flatMap_singleton]
    simp
  bound := by
    intro before t after hfront
    obtain ⟨rfl, rfl, -⟩ | ⟨after', -, hfront⟩ := concat_eq_append_cons hfront
    · rw [h.written, List.flatMap_nil, List.append_nil] at hbound
      exact hbound
    · exact (h.bound before t after' hfront).mono hcalls
  answered := by
    have hfront : ∀ t ∈ front, t.Answered rules g.name g.answers := fun t ht =>
      h.answered t (List.mem_append_left _ ht)
    rw [List.append_nil, hname, hanswers]
    exact List.forall_mem_append.2 ⟨hfront, List.forall_mem_singleton.2 hanswered⟩

/-- An answer is taken up at the end. -/
theorem Effects.join {u : Taken} (h : Effects rules base g front joined calls) (hname : g'.name = g.name)
    (hcontext : g'.context = g.context.apply u.writes) (hanswers : g'.answers = g.answers)
    (hanswered : u.Answered rules g.name g.answers) : Effects rules base g' front (joined ++ [u]) calls where
  written := by
    rw [hcontext, h.written, ← Context.apply_append, List.append_assoc, List.flatMap_append, List.flatMap_singleton]
  bound := h.bound
  answered := by
    rw [hname, hanswers, ← List.append_assoc]
    exact List.forall_mem_append.2 ⟨h.answered, List.forall_mem_singleton.2 hanswered⟩

/-- An answer that comes does not change what came of those before. -/
theorem Effects.deliver (h : Effects rules base g front joined calls) (index : Nat) (answer : Answer) :
    Effects rules base (g.deliver index answer) front joined calls where
  written := h.written
  bound := h.bound
  answered := by
    intro t ht o ho hsent
    obtain ⟨answer', hlookup, houtcome⟩ := h.answered t ht o ho hsent
    exact ⟨answer', by rw [GroupRun.deliver, List.lookup_append, hlookup, Option.some_or], houtcome⟩

theorem Effects.skip (h : Effects rules base g front [] calls) (index : Nat) (s : Step) :
    Effects rules base (g.giveUp index s .skipped)
      (front ++ [⟨index, s, some (.unanswered g.name index s .skipped)⟩]) [] calls := by
  refine h.next rfl rfl rfl (List.Subset.refl _) (.passed rfl) ?_
  rintro o ho hsent
  rw [← Option.some.inj ho] at hsent
  cases hsent

/-- What cannot be bound writes nothing. -/
theorem Effects.unbound (h : Effects rules base g front [] calls) {index : Nat} {s : Step} {e : BindingError}
    {around : Surroundings} (hbind : (s.bind g.context around).1 = .error e) (t : Trace) :
    Effects rules base (g.fail rules index s none (.binding e) t true).1
      (front ++ [⟨index, s, some { StepOutcome.unanswered g.name index s .failed with error := some (.binding e) }⟩])
      [] calls := by
  refine h.next rfl rfl rfl (List.Subset.refl _) (.failed hbind rfl rfl) ?_
  rintro o ho hsent
  rw [← Option.some.inj ho] at hsent
  cases hsent

theorem Effects.detach (h : Effects rules base g front [] calls) {around : Surroundings} {request : Request}
    (hbind : (s.bind g.context around).1 = .ok request) :
    Effects rules base { g with detached := g.detached ++ [(index, s)] } (front ++ [⟨index, s, none⟩]) []
      (calls ++ [⟨index, request, s.awaited⟩]) := by
  have hnone {o : StepOutcome} : (none : Option StepOutcome) ≠ some o := (Option.some_ne_none o).symm
  refine h.next rfl rfl rfl (List.subset_append_left _ _) ?_ fun _ h => absurd h hnone
  exact .sent hbind (List.mem_append_right _ (List.mem_singleton.2 rfl)) fun _ h => absurd h hnone

theorem Taken.answered_ofAnswer {answers : List (Nat × Answer)} (hlookup : answers.lookup index = some answer)
    (rules : RunRules) (name : String) :
    (Taken.mk index s (some (.ofAnswer rules name index s answer))).Answered rules name answers := by
  rintro o ho -
  exact ⟨answer, hlookup, (Option.some.inj ho).symm⟩

theorem Effects.settle (h : Effects rules base g front [] calls) {around : Surroundings} {request : Request}
    (hbind : (s.bind g.context around).1 = .ok request) (hlookup : g.answers.lookup index = some answer) (t : Trace) :
    Effects rules base (g.settle rules index s answer t).1
      (front ++ [⟨index, s, some (.ofAnswer rules g.name index s answer)⟩]) []
      (calls ++ [⟨index, request, s.awaited⟩]) := by
  rw [settle_eq]
  refine h.next rfl rfl rfl (List.subset_append_left _ _)
    (.sent hbind (List.mem_append_right _ (List.mem_singleton.2 rfl)) ?_) (Taken.answered_ofAnswer hlookup rules g.name)
  rintro o ho
  rw [← Option.some.inj ho]
  exact StepOutcome.wasSent_ofAnswer rules g.name index s answer

/-! ### Whole stretches -/

theorem tale_join (hall : front.map Taken.entry = all)
    (h : Joins rules g front joined rest (kinds ++ t.events.map Event.kind) (calls ++ t.calls))
    (heffects : Effects rules base g front joined (calls ++ t.calls)) :
    Tale rules base all (join rules true rest g t).1 (kinds ++ (join rules true rest g t).2.events.map Event.kind)
      (calls ++ (join rules true rest g t).2.calls) := by
  induction rest generalizing g t joined with
  | nil => exact .finished rfl hall { h with } { heffects with }
  | cons entry rest ih =>
    obtain ⟨i, s⟩ := entry
    cases hlookup : g.answers.lookup i with
    | none =>
      simp only [join, hlookup]
      exact .joining rfl hall { h with } { heffects with }
    | some answer =>
      simp only [join, hlookup, if_true]
      rw [settle_eq]
      refine ih (h.next rfl rfl ?_ (StepOutcome.tellsOf_ofAnswer ..) (StepOutcome.wasSent_ofAnswer ..))
        (heffects.join rfl rfl rfl (Taken.answered_ofAnswer hlookup rules g.name))
      rw [Trace.kinds_tell, List.append_assoc]

theorem tale_start (hall : front.map Taken.entry ++ rest = all)
    (h : Turns rules g front (kinds ++ t.events.map Event.kind) (calls ++ t.calls))
    (heffects : Effects rules base g front [] (calls ++ t.calls)) :
    Tale rules base all (start rules true rest g t).1 (kinds ++ (start rules true rest g t).2.events.map Event.kind)
      (calls ++ (start rules true rest g t).2.calls) := by
  induction rest generalizing g t front with
  | nil =>
    rw [List.append_nil] at hall
    exact tale_join hall h.joins heffects
  | cons entry rest ih =>
    obtain ⟨i, s⟩ := entry
    -- Whatever becomes of the step, it stands behind those that had their turn before.
    have hnext (outcome : Option StepOutcome) :
        (front ++ [Taken.mk i s outcome]).map Taken.entry ++ rest = all :=
      (Taken.map_entry_concat front i s outcome rest).trans hall
    simp only [start]
    split
    next hhalted => exact ih (hnext _) (h.skip hhalted i s) (heffects.skip i s)
    next hopen =>
      rw [Bool.not_eq_true] at hopen
      split
      next e around hbind =>
        have hfailed : (s.bind g.context t.surroundings).1 = .error e := congrArg Prod.fst hbind
        refine ih (hnext (some { StepOutcome.unanswered g.name i s .failed with error := some (.binding e) })) ?_ ?_
        · simp only [fail, Trace.kinds_tell, Trace.calls_tell]
          rw [← List.append_assoc]
          exact h.unbound hopen i s e t
        · simp only [fail, Trace.calls_tell]
          exact heffects.unbound hfailed t
      next request around hbind =>
        have hbound : (s.bind g.context t.surroundings).1 = .ok request := congrArg Prod.fst hbind
        split
        next hawaited =>
          simp only [Trace.send, Trace.kinds_tell, Trace.calls_tell]
          rw [← List.append_assoc, ← List.append_assoc]
          exact .awaiting rfl hall { h with } { heffects with } hopen hawaited hbound
        next hdetached =>
          rw [Bool.not_eq_true] at hdetached
          refine ih (hnext none) ?_ ?_
          · simp only [Trace.send, Trace.kinds_tell, Trace.calls_tell]
            rw [← List.append_assoc, ← List.append_assoc]
            exact h.detach hopen hdetached (Call.mark_of_bind hbound i s.awaited)
          · simp only [Trace.send, Trace.calls_tell]
            rw [← List.append_assoc]
            exact heffects.detach hbound

/-- Wherever a group is, a stretch goes on with what it has told, sent and written. -/
theorem Tale.poll (h : Tale rules base all g kinds calls) (around : Surroundings) :
    Tale rules base all (g.poll rules true { surroundings := around }).1
      (kinds ++ (g.poll rules true { surroundings := around }).2.events.map Event.kind)
      (calls ++ (g.poll rules true { surroundings := around }).2.calls) := by
  cases h with
  | starting hstage hall h heffects =>
    simp only [GroupRun.poll, hstage]
    exact tale_start hall (by simpa using h) (by simpa using heffects)
  | @awaiting front i s rest kinds calls around' request hstage hall h heffects hopen hawaited hbind =>
    simp only [GroupRun.poll, hstage]
    cases hlookup : g.answers.lookup i with
    | none =>
      rw [List.map_nil, List.append_nil, List.append_nil]
      exact .awaiting hstage hall h heffects hopen hawaited hbind
    | some answer =>
      have hcall := Call.mark_of_bind hbind i s.awaited
      have hturn := h.settle hopen hawaited hcall answer { surroundings := around }
      have hwritten := heffects.settle hbind hlookup { surroundings := around }
      have hnext := (Taken.map_entry_concat front i s (some (.ofAnswer rules g.name i s answer)) rest).trans hall
      simp only [if_true]
      refine tale_start hnext ?_ ?_
      · rw [settle_eq, Trace.kinds_tell, Trace.calls_tell, List.map_nil, List.nil_append, List.append_nil]
        rwa [settle_eq] at hturn
      · rw [settle_eq, Trace.calls_tell, List.append_nil]
        rwa [settle_eq] at hwritten
  | joining hstage hall h heffects =>
    simp only [GroupRun.poll, hstage]
    exact tale_join hall (by simpa using h) (by simpa using heffects)
  | finished hstage hall h heffects =>
    simp only [GroupRun.poll, hstage, List.map_nil, List.append_nil]
    exact .finished hstage hall h heffects

theorem Tale.deliver (h : Tale rules base all g kinds calls) (index : Nat) (answer : Answer) :
    Tale rules base all (g.deliver index answer) kinds calls := by
  cases h with
  | starting hstage hall h heffects => exact .starting hstage hall { h with } (heffects.deliver index answer)
  | awaiting hstage hall h heffects hopen hawaited hbind =>
    exact .awaiting hstage hall { h with } (heffects.deliver index answer) hopen hawaited hbind
  | joining hstage hall h heffects => exact .joining hstage hall { h with } (heffects.deliver index answer)
  | finished hstage hall h heffects => exact .finished hstage hall { h with } (heffects.deliver index answer)

theorem Course.tale {name : String} {epoch : Nat} {group : StepGroup} {context : Context} {told : List Event}
    (h : Course rules (.of name epoch group context) g calls told) :
    Tale rules context (group.steps.zipIdx.map Prod.swap) g (told.map Event.kind) calls := by
  induction h with
  | begun => exact .starting rfl (List.nil_append _) (.nil rfl rfl rfl) (.nil (.of name epoch group context))
  | went _ around ih =>
    rw [List.map_append]
    exact ih.poll around
  | answered _ index answer ih => exact ih.deliver index answer

end GroupRun

/-! ### At the end -/

/-- What has become of a step, at last. -/
structure Taken.Becomes (name : String) (t : Taken) (o : StepOutcome) : Prop where
  tells : o.TellsOf name t.index t.step
  known : t.outcome = some o ∨ t.outcome = none ∧ o.wasSent = true

namespace Taken.Becomes

variable {rules : RunRules} {name : String} {t : Taken} {o : StepOutcome}

theorem telling_eq (h : t.Becomes name o) (hsettled : t.Settled name) : t.telling name = o.inTurn t.step := by
  obtain hknown | ⟨hnone, hsent⟩ := h.known
  · rw [telling, hknown]
  · rw [telling, hnone, StepOutcome.inTurn, if_pos hsent, hsettled.detached hnone, if_neg Bool.false_ne_true,
      h.tells.group, h.tells.workflow]

theorem sending_eq (h : t.Becomes name o) : t.sending = o.sending t.step := by
  obtain hknown | ⟨hnone, hsent⟩ := h.known
  · rw [sending, hknown]
  · rw [sending, hnone, StepOutcome.sending, if_pos hsent, h.tells.index, h.tells.workflow]

/-- Only what became of a step later is told after all turns. -/
theorem afterTurns_eq (h : t.Becomes name o) (hsettled : t.Settled name) :
    o.afterTurns t.step = if t.outcome.isNone then o.closing else [] := by
  obtain hknown | ⟨hnone, hsent⟩ := h.known
  · rw [hknown, Option.isNone_some, if_neg Bool.false_ne_true, StepOutcome.afterTurns]
    cases hsent : o.wasSent with
    | false => rfl
    | true => rw [hsettled.awaited o hknown hsent]; rfl
  · rw [hnone, StepOutcome.afterTurns, hsent, hsettled.detached hnone]
    rfl

theorem stops_eq (h : t.Becomes name o) (hsettled : t.Settled name) : t.stops rules = o.stops rules t.step := by
  obtain hknown | ⟨hnone, hsent⟩ := h.known
  · rw [stops, hknown, Option.any_some]
  · rw [StepOutcome.wasSent, Bool.and_eq_true, Bool.not_eq_true'] at hsent
    rw [stops, hnone, StepOutcome.stops, hsettled.detached hnone, hsent.2, Bool.or_false, Bool.and_false]
    rfl

theorem isSkipped_eq (h : t.Becomes name o) : t.isSkipped = (o.status == .skipped) := by
  obtain hknown | ⟨hnone, hsent⟩ := h.known
  · rw [isSkipped, hknown, Option.any_some]
  · rw [isSkipped, hnone, o.not_skipped_of_wasSent hsent]
    rfl

end Taken.Becomes

/-- Whether what was told and sent of a group is what became of its steps. -/
structure TellsSteps (rules : RunRules) (name : String) (steps : List Step) (outcomes : List StepOutcome)
    (told : List EventKind) (sent : List Call) : Prop where
  /-- First each step in its turn, and then those that were not awaited. -/
  told : told = (steps.zip outcomes).flatMap (fun e => e.2.inTurn e.1) ++
    (steps.zip outcomes).flatMap (fun e => e.2.afterTurns e.1)
  sent : sent.map Call.mark = (steps.zip outcomes).flatMap fun e => e.2.sending e.1
  tells : ∀ (i : Nat) (o : StepOutcome), outcomes[i]? = some o →
    ∃ s, steps[i]? = some s ∧ o.TellsOf name i s ∧ o.status ≠ .stale
  /-- The steps behind one that halts the group are passed over, and no others. -/
  passed : ∀ before e after, steps.zip outcomes = before ++ e :: after →
    (e.2.status = .skipped ↔ ∃ e' ∈ before, e'.2.stops rules e'.1 = true)

namespace GroupRun

variable {rules : RunRules} {name : String} {steps : List Step} {g : GroupRun} {front joined : List Taken}
  {kinds : List EventKind} {calls : List Call}

/-- What became of a step of a group. -/
def outcomeOf (g : GroupRun) (e : Nat × Step) : StepOutcome :=
  (g.outcomes.lookup e.1).getD (.unanswered g.name e.1 e.2 (if g.stale then .stale else .skipped))

theorem outcomeOf_eq (h : g.Ledger rules name steps []) {e : Nat × Step} {o : StepOutcome}
    (ho : (e.1, o) ∈ g.outcomes) : g.outcomeOf e = o := by
  rw [outcomeOf, lookup_of_mem (List.nodup_append.1 h.distinct).1 ho, Option.getD_some]

theorem zip_stepOutcomes (g : GroupRun) (hall : front.map Taken.entry = g.steps.zipIdx.map Prod.swap) :
    g.steps.zip g.stepOutcomes = front.map fun t => (t.step, g.outcomeOf t.entry) := by
  have hfront : g.steps.zipIdx = front.map fun t => (t.step, t.index) := by
    have hswap := congrArg (List.map Prod.swap) hall
    rw [List.map_map, List.map_map, Prod.swap_swap_eq, List.map_id] at hswap
    exact hswap.symm
  have hsteps : g.steps = g.steps.zipIdx.map Prod.fst := (List.zipIdx_map_fst 0 g.steps).symm
  rw [stepOutcomes]
  nth_rewrite 1 [hsteps]
  rw [List.zip_map', hfront, List.map_map]
  rfl

namespace Joins

/-- The answer that is taken up at the end is what has become of its step. -/
theorem outcomeOf_joined (h : Joins rules g front joined [] kinds calls) (hledger : g.Ledger rules name steps [])
    {u : Taken} (hu : u ∈ joined) : u.outcome = some (g.outcomeOf u.entry) ∧
      (g.outcomeOf u.entry).TellsOf g.name u.index u.step ∧ (g.outcomeOf u.entry).wasSent = true := by
  obtain ⟨o, hknown, htells, hsent⟩ := h.answered u hu
  have ho : (u.entry.1, o) ∈ g.outcomes := by
    rw [h.noted]
    exact List.mem_append_right _ (List.mem_filterMap.2 ⟨u, hu, by rw [Taken.noted, hknown]; rfl⟩)
  rw [outcomeOf_eq hledger ho]
  exact ⟨hknown, htells, hsent⟩

/-- The answer to a step that was not awaited is among those that were taken up at the end. -/
theorem exists_joined (h : Joins rules g front joined [] kinds calls) {t : Taken} (ht : t ∈ front)
    (hnone : t.outcome = none) : ∃ u ∈ joined, u.entry = t.entry := by
  have hpending : t.entry ∈ joined.map Taken.entry := by
    rw [← List.append_nil (joined.map Taken.entry), ← h.pending]
    exact List.mem_filterMap.2 ⟨t, ht, by rw [Taken.pending, hnone]; rfl⟩
  exact List.mem_map.1 hpending

/-- Every step has become something at the end, be it in its turn or later. -/
theorem becomes (h : Joins rules g front joined [] kinds calls) (hledger : g.Ledger rules name steps [])
    {t : Taken} (ht : t ∈ front) : t.Becomes g.name (g.outcomeOf t.entry) := by
  cases hknown : t.outcome with
  | some o =>
    have ho : (t.entry.1, o) ∈ g.outcomes := by
      rw [h.noted]
      exact List.mem_append_left _ (List.mem_filterMap.2 ⟨t, ht, by rw [Taken.noted, hknown]; rfl⟩)
    rw [outcomeOf_eq hledger ho]
    exact ⟨(h.settled t ht).tells o hknown, .inl hknown⟩
  | none =>
    obtain ⟨u, hu, hentry⟩ := h.exists_joined ht hknown
    obtain ⟨-, htells, hsent⟩ := h.outcomeOf_joined hledger hu
    obtain ⟨hindex, hstep⟩ := Prod.mk.inj hentry
    rw [hentry] at htells hsent
    exact ⟨by rwa [← hindex, ← hstep], .inr ⟨hknown, hsent⟩⟩

/-- The answers that are taken up at the end are those of the steps that were not awaited, in the order of the
steps. -/
theorem flatMap_joined {α : Type} (h : Joins rules g front joined [] kinds calls)
    (hledger : g.Ledger rules name steps []) (f : Step → StepOutcome → List α) :
    joined.flatMap (fun u => (u.outcome.map (f u.step)).getD []) =
      front.flatMap fun t => if t.outcome.isNone then f t.step (g.outcomeOf t.entry) else [] := by
  have hjoined : ∀ u ∈ joined, (u.outcome.map (f u.step)).getD [] = f u.entry.2 (g.outcomeOf u.entry) := by
    intro u hu
    rw [(h.outcomeOf_joined hledger hu).1]
    rfl
  have hfront : ∀ t ∈ front, t.pending.toList.flatMap (fun e => f e.2 (g.outcomeOf e)) =
      if t.outcome.isNone then f t.step (g.outcomeOf t.entry) else [] := by
    intro t _
    rw [Taken.pending]
    split
    · exact List.flatMap_singleton _ _
    · rfl
  have hpending := h.pending
  rw [List.append_nil] at hpending
  calc joined.flatMap (fun u => (u.outcome.map (f u.step)).getD [])
      = (joined.map Taken.entry).flatMap fun e => f e.2 (g.outcomeOf e) := by
        rw [List.flatMap_congr hjoined, List.flatMap_map]
    _ = front.flatMap fun t => t.pending.toList.flatMap fun e => f e.2 (g.outcomeOf e) := by
        rw [← hpending, List.filterMap_eq_flatMap_toList, List.flatMap_assoc]
    _ = front.flatMap fun t => if t.outcome.isNone then f t.step (g.outcomeOf t.entry) else [] :=
        List.flatMap_congr hfront

theorem closings (h : Joins rules g front joined [] kinds calls) (hledger : g.Ledger rules name steps []) :
    joined.flatMap Taken.closing = front.flatMap fun t => (g.outcomeOf t.entry).afterTurns t.step := by
  have hafter : ∀ t ∈ front, (g.outcomeOf t.entry).afterTurns t.step =
      if t.outcome.isNone then (g.outcomeOf t.entry).closing else [] := fun t ht =>
    (h.becomes hledger ht).afterTurns_eq (h.settled t ht)
  exact (h.flatMap_joined hledger fun _ => StepOutcome.closing).trans (List.flatMap_congr hafter).symm

/-- Only the steps behind one that halts the group have been passed over. -/
theorem skipped_iff (h : Joins rules g front joined [] kinds calls) (hledger : g.Ledger rules name steps [])
    {before after : List (Step × StepOutcome)} {e : Step × StepOutcome}
    (hsplit : (front.map fun t => (t.step, g.outcomeOf t.entry)) = before ++ e :: after) :
    e.2.status = .skipped ↔ ∃ e' ∈ before, e'.2.stops rules e'.1 = true := by
  obtain ⟨front₁, rest, rfl, rfl, hrest⟩ := List.map_eq_append_iff.1 hsplit
  obtain ⟨t, front₂, rfl, rfl, -⟩ := List.map_eq_cons_iff.1 hrest
  have hstops : ∀ t' ∈ front₁, t'.stops rules = (g.outcomeOf t'.entry).stops rules t'.step := fun t' ht' =>
    have hmem := List.mem_append_left (t :: front₂) ht'
    (h.becomes hledger hmem).stops_eq (h.settled t' hmem)
  have hskipped := h.passed front₁ t front₂ rfl
  rw [(h.becomes hledger (List.mem_append_right _ List.mem_cons_self)).isSkipped_eq] at hskipped
  rw [← beq_iff_eq, hskipped, List.any_eq_true]
  constructor
  · rintro ⟨t', ht', hstop⟩
    exact ⟨_, List.mem_map_of_mem ht', by rwa [← hstops t' ht']⟩
  · rintro ⟨e', he', hstop⟩
    obtain ⟨t', ht', rfl⟩ := List.mem_map.1 he'
    exact ⟨t', ht', by rwa [hstops t' ht']⟩

/-- At its end a group has told and sent just what became of its steps. -/
theorem tellsSteps {told : List Event} (h : Joins rules g front joined [] (told.map Event.kind) calls)
    (hledger : g.Ledger rules name steps []) (hstale : g.stale = false)
    (hall : front.map Taken.entry = steps.zipIdx.map Prod.swap) :
    TellsSteps rules name steps g.stepOutcomes (told.map Event.kind) calls := by
  have hzip : steps.zip g.stepOutcomes = front.map fun t => (t.step, g.outcomeOf t.entry) := by
    rw [← hledger.owns] at hall ⊢
    exact g.zip_stepOutcomes hall
  exact {
    told := by
      rw [hzip, h.told, List.flatMap_map, List.flatMap_map, h.closings hledger]
      exact congrArg (· ++ _) (List.flatMap_congr fun t ht => (h.becomes hledger ht).telling_eq (h.settled t ht))
    sent := by
      rw [hzip, h.sent, List.flatMap_map]
      exact List.flatMap_congr fun t ht => (h.becomes hledger ht).sending_eq
    tells := by
      intro i o ho
      obtain ⟨s, hs, htells⟩ := hledger.tells _ ((hledger.mem_outcomes_iff hstale).2 ho)
      exact ⟨s, hs, htells, hledger.status_ne_stale hstale (List.mem_of_getElem? ho)⟩
    passed := by
      intro before e after hsplit
      rw [hzip] at hsplit
      exact h.skipped_iff hledger hsplit }

end Joins

/-- When a group has come to its end, all of its tale is told. -/
theorem Course.finished {epoch : Nat} {group : StepGroup} {context : Context} {told : List Event}
    (h : Course rules (.of name epoch group context) g calls told) (hfin : g.isFinished = true) :
    ∃ front joined, front.map Taken.entry = group.steps.zipIdx.map Prod.swap ∧
      Joins rules g front joined [] (told.map Event.kind) calls ∧ Effects rules context g front joined calls ∧
      g.Ledger rules name group.steps [] := by
  have hstage := stage_of_isFinished hfin
  have hledger := h.ledger (ledger_of name epoch group context)
  rw [unsettled_of_isFinished hfin] at hledger
  generalize hkinds : told.map Event.kind = kinds
  have htale := h.tale
  rw [hkinds] at htale
  cases htale with
  | starting hstarting | awaiting hstarting | joining hstarting =>
    rw [hstage] at hstarting
    cases hstarting
  | finished _ hall hjoins heffects => exact ⟨_, _, hall, hjoins, heffects, hledger⟩

theorem Course.tellsSteps {epoch : Nat} {group : StepGroup} {context : Context} {told : List Event}
    (h : Course rules (.of name epoch group context) g calls told) (hfin : g.isFinished = true) :
    TellsSteps rules name group.steps g.stepOutcomes (told.map Event.kind) calls := by
  obtain ⟨front, joined, hall, hjoins, -, hledger⟩ := h.finished hfin
  exact hjoins.tellsSteps hledger h.stale hall

end GroupRun

namespace TellsSteps

variable {rules : RunRules} {name : String} {steps : List Step}

/-- Of a group that was given up there is nothing to tell. -/
theorem nil : TellsSteps rules name steps [] [] [] where
  told := by rw [List.zip_nil_right]; rfl
  sent := by rw [List.zip_nil_right]; rfl
  tells := fun _ _ ho => by cases ho
  passed := fun before e after h => by
    rw [List.zip_nil_right] at h
    simp at h

end TellsSteps

end BackOffice
