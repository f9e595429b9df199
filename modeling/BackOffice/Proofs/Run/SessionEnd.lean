import BackOffice.Proofs.Run.EpochProtocol
import BackOffice.Proofs.Run.Ledger
import Mathlib

/-!
What a run still does once it has told that the session has to be ended. The group whose answer brought the
end sends nothing more, and no group begins, be it in a later wave or in a later graph of the run. But the
run is halted only when its wave is over: until then the other groups of the wave go on as if nothing had
happened.
-/

namespace BackOffice

/-- Whether an event tells that the session has to be ended. -/
def EventKind.endsSession : EventKind → Bool
  | forceLogout _ => true
  | _ => false

/-- Whether a trace tells that the session has to be ended. -/
def Trace.EndsSession (t : Trace) : Prop := ∃ e ∈ t.events, e.kind.endsSession = true

namespace Trace

variable {t : Trace} {current : Bool} {epoch : Nat} {kinds : List EventKind}

theorem endsSession_tell (h : (t.tell current epoch kinds).EndsSession) :
    t.EndsSession ∨ ∃ kind ∈ kinds, kind.endsSession = true := by
  obtain ⟨e, he, hends⟩ := h
  simp only [tell] at he
  split at he
  · obtain he | he := List.mem_append.1 he
    · exact .inl ⟨e, he, hends⟩
    · obtain ⟨kind, hkind, rfl⟩ := List.mem_map.1 he
      exact .inr ⟨kind, hkind, hends⟩
  · exact .inl ⟨e, he, hends⟩

end Trace

theorem EventKind.endsSession_ofFailure (group workflow : String) (e : StepError) :
    (∃ kind ∈ ofFailure group workflow e, kind.endsSession = true) ↔ e.isAuth = true := by
  cases e <;> simp [ofFailure, endsSession, StepError.isAuth]

namespace GroupRun

variable {rules : RunRules} {current : Bool} {g : GroupRun} {t : Trace} {index : Nat} {s : Step}
  {answer : Answer} {rest : List (Nat × Step)}

/-! ### A group that has halted -/

theorem halted_settle (h : g.halted = true) : (g.settle rules index s answer t).1.halted = true := by
  simp only [settle]
  split
  · exact h
  · simp [fail, h]

theorem calls_start_of_halted (h : g.halted = true) : (start rules current rest g t).2.calls = t.calls := by
  induction rest generalizing g with
  | nil => exact calls_join
  | cons entry rest ih =>
    simp only [start, h, if_true]
    exact ih h

/-- A group that has halted sends nothing. -/
theorem calls_poll_of_halted (h : g.halted = true) : (g.poll rules current t).2.calls = t.calls := by
  simp only [poll]
  split
  · exact calls_start_of_halted h
  · split
    · rfl
    · split
      · exact (calls_start_of_halted (halted_settle h)).trans calls_settle
      · rfl
  · exact calls_join
  · rfl

/-! ### A group that asks for the end of the session -/

/-- Whether a group asks for the end of the session if it has done so before or if this was told. -/
def Admits (asked : Prop) (g : GroupRun) (t : Trace) : Prop :=
  asked ∨ t.EndsSession → g.forceLogout = true

variable {asked : Prop}

theorem admits_tell {kinds : List EventKind} (h : g.Admits asked t)
    (hkinds : ∀ kind ∈ kinds, kind.endsSession = false) : g.Admits asked (t.tell current g.epoch kinds) := by
  rintro (hasked | htold)
  · exact h (.inl hasked)
  · obtain htold | ⟨kind, hkind, hends⟩ := Trace.endsSession_tell htold
    · exact h (.inr htold)
    · rw [hkinds kind hkind] at hends
      cases hends

theorem admits_fail {envelope : Option Envelope} {e : StepError} (h : g.Admits asked t) :
    (g.fail rules index s envelope e t current).1.Admits asked
      (g.fail rules index s envelope e t current).2 := by
  rintro (hasked | htold)
  · simp [fail, h (.inl hasked)]
  · obtain htold | hkind := Trace.endsSession_tell htold
    · simp [fail, h (.inr htold)]
    · simp [fail, (EventKind.endsSession_ofFailure ..).1 hkind]

theorem admits_settle (h : g.Admits asked t) :
    (g.settle rules index s answer t).1.Admits asked (g.settle rules index s answer t).2 := by
  simp only [settle]
  split
  · exact admits_tell h (by simp [EventKind.endsSession])
  · exact admits_fail h

theorem admits_join (h : g.Admits asked t) :
    (join rules current rest g t).1.Admits asked (join rules current rest g t).2 := by
  induction rest generalizing g t with
  | nil => exact h
  | cons entry rest ih =>
    simp only [join]
    split
    · exact h
    · split
      · exact ih (admits_settle h)
      · exact ih h

theorem admits_start (h : g.Admits asked t) :
    (start rules current rest g t).1.Admits asked (start rules current rest g t).2 := by
  induction rest generalizing g t with
  | nil => exact admits_join h
  | cons entry rest ih =>
    have hsent (surroundings : Surroundings) (call : Call) : g.Admits asked (({ t with surroundings }.tell
        current g.epoch [.dispatched g.name entry.2.workflow]).send call) :=
      admits_tell (t := { t with surroundings }) h (by simp [EventKind.endsSession])
    simp only [start]
    split
    · exact ih h
    · split
      · exact ih (admits_fail h)
      · split
        · exact hsent _ _
        · exact ih (hsent _ _)

/-- A group that tells of the end of the session asks for it, and goes on asking. -/
theorem admits_poll (h : g.Admits asked t) :
    (g.poll rules current t).1.Admits asked (g.poll rules current t).2 := by
  simp only [poll]
  split
  · exact admits_start h
  · split
    · exact h
    · split
      · exact admits_start (admits_settle h)
      · exact h
  · exact admits_join h
  · exact h

theorem forceLogout_poll (h : g.forceLogout = true) : (g.poll rules current t).1.forceLogout = true :=
  @admits_poll rules current g t True (fun _ => h) (.inl trivial)

/-- An answer is taken up as the end of the session exactly when this is told. -/
theorem endsSession_settle : (∃ e ∈ (g.settle rules index s answer t).2.events.drop t.events.length,
    e.kind.endsSession = true) ↔ Verdict.isAuth rules.authKeys (Envelope.ofResult answer) = true := by
  have hauth : Verdict.isAuth rules.authKeys (Envelope.ofResult answer) =
      (StepError.ofVerdict? (Verdict.of rules.authKeys (Envelope.ofResult answer))).any StepError.isAuth := by
    rw [Verdict.of]
    split
    next h => rw [h]; rfl
    next h =>
      rw [Bool.eq_false_iff.2 h]
      split <;> rfl
  rw [hauth]
  simp only [settle]
  split
  next h => simp [h, Trace.tell, EventKind.endsSession]
  next e h =>
    rw [h, Option.any_some, ← EventKind.endsSession_ofFailure g.name s.workflow]
    simp [fail, Trace.tell]

end GroupRun

/-! ### A run that has ended -/

namespace Run

/-- Whether a run will not begin another group. -/
def Ended (r : Run) : Prop := r.halted = true ∨ r.stale = true

variable {rules : RunRules} {current : Bool} {r : Run} {o : GroupOutcome} {group : GroupRun}

theorem ended_absorb (h : r.Ended) : (r.absorb rules current o).Ended := by
  obtain h | h := h
  · exact .inl (by simp [absorb, h])
  · exact .inr (by simp [absorb, h])

/-- A group that asks for the end of the session ends its run. -/
theorem ended_absorb_of_forceLogout (hrule : rules.haltOnAuth = true) (h : group.forceLogout = true) :
    (r.absorb rules current group.outcome).Ended := by
  cases hstale : group.stale with
  | true => exact .inr (by simp [absorb, GroupRun.outcome, GroupRun.status, hstale])
  | false => exact .inl (by simp [absorb, GroupRun.outcome, h, hstale, hrule])

end Run

namespace GraphRun

variable {rules : RunRules} {counter : EpochCounter} {g g' : GraphRun} {t : Trace} {place : Nat}

theorem ended_foldl_merge {current : Bool} {groups : List (Nat × GroupRun)} (hrule : rules.haltOnAuth = true)
    (h : g.run.Ended ∨ ∃ e ∈ groups, e.2.forceLogout = true) :
    (groups.foldl (fun g e => g.merge rules current e.1 e.2) g).run.Ended := by
  induction groups generalizing g with
  | nil => simpa using h
  | cons e rest ih =>
    apply ih
    obtain h | ⟨e', he', hlogout⟩ := h
    · exact .inl (Run.ended_absorb (r := { g.run with context := _ }) h)
    · obtain rfl | he' := List.mem_cons.1 he'
      · exact .inl (Run.ended_absorb_of_forceLogout hrule hlogout)
      · exact .inr ⟨e', he', hlogout⟩

theorem running?_put (g : GraphRun) (place q : Nat) (group : GroupRun) :
    (g.put place group).running? q =
      if q = place then (g.running? place).map fun _ => group else g.running? q := by
  rw [running?_eq, atWork_put, lookup_replace, ← running?_eq, ← running?_eq]

/-! ### What is kept of a graph -/

/-- What holds of a graph at any time: its groups note their steps, and they run side by side only where
the rules have it so. -/
structure Kept (rules : RunRules) (g : GraphRun) : Prop where
  ledger : ∀ e ∈ g.atWork, ∃ name steps, e.2.Ledger rules name steps e.2.unsettled
  alone : rules.parallel = false → ∀ groups waves, g.stage ≠ .together groups waves

theorem kept_goOn (rest : List Nat) (waves : List (List Nat)) : (goOn rules counter rest waves g).Kept rules := by
  fun_induction goOn rules counter rest waves g with
  | case1 _ _ _ _ _ ih => exact ih
  | case2 _ _ _ _ _ _ ih => exact ih
  | case3 place rest waves g _ _ =>
    refine ⟨fun e he => ?_, fun _ _ _ h => by cases h⟩
    obtain rfl := List.mem_singleton.1 he
    exact ⟨_, _, GroupRun.ledger_of _ _ _ _⟩
  | case4 => exact ⟨fun e he => absurd he List.not_mem_nil, fun _ _ _ h => by cases h⟩
  | case5 wave waves g runnable g' _ hpar =>
    refine ⟨fun e he => ?_, fun hrule => by simp [hrule] at hpar⟩
    obtain ⟨i, -, rfl⟩ := List.mem_map.1 he
    exact ⟨_, _, GroupRun.ledger_of _ _ _ _⟩
  | case6 _ _ _ _ _ _ _ ih => exact ih

theorem kept_put {group : GroupRun} (h : g.Kept rules)
    (hgroup : ∃ name steps, group.Ledger rules name steps group.unsettled) :
    (g.put place group).Kept rules := by
  refine ⟨fun e he => ?_, fun hrule groups waves hs => ?_⟩
  · obtain rfl | he := mem_atWork_put he
    · exact hgroup
    · exact h.ledger e he
  · cases hstage : g.stage with
    | together groups waves => exact h.alone hrule _ _ hstage
    | alone i old rest waves =>
      simp only [put, hstage] at hs
      split at hs <;> cases hs
    | finished =>
      simp only [put, hstage] at hs
      cases hs

theorem kept_poll (h : g.Kept rules) : (g.poll rules counter place t).1.Kept rules := by
  simp only [poll]
  split
  · exact h
  next group hgroup =>
    obtain ⟨name, steps, hledger⟩ := h.ledger _ (mem_atWork_of_running? hgroup)
    exact kept_put h ⟨name, steps, hledger.poll⟩

theorem kept_deliver {index : Nat} {answer : Answer} (h : g.Kept rules) :
    (g.deliver place index answer).Kept rules := by
  simp only [deliver]
  split
  · exact h
  next group hgroup =>
    obtain ⟨name, steps, hledger⟩ := h.ledger _ (mem_atWork_of_running? hgroup)
    exact kept_put h ⟨name, steps, hledger.deliver⟩

theorem kept_close (h : g.Kept rules) : (g.close rules counter).Kept rules := by
  simp only [close]
  split
  · split
    · exact kept_goOn _ _
    · exact h
  · split
    · exact kept_goOn _ _
    · exact h
  · exact h

theorem kept_enter (h : g.Kept rules) : (g.enter rules counter t).1.Kept rules := by
  unfold enter
  split
  · exact h
  · exact kept_poll h

theorem kept_resume (h : g.Kept rules) : (g.resume rules counter place t).1.Kept rules := by
  simp only [resume]
  split
  · exact kept_enter (kept_close (kept_poll h))
  · exact kept_poll h

/-! ### After the end of the session -/

/-- Whether some group at work asks for the end of the session. -/
def Over (g : GraphRun) : Prop := ∃ place group, g.running? place = some group ∧ group.forceLogout = true

/-- Whether all groups at work were so before, and still ask for the end of the session if they did. -/
def Follows (g g' : GraphRun) : Prop :=
  ∀ place group', g'.running? place = some group' → ∃ group, g.running? place = some group ∧
    (group.forceLogout = true → group'.forceLogout = true)

theorem Follows.refl (g : GraphRun) : Follows g g := fun _ group h => ⟨group, h, id⟩

theorem follows_put {group group' : GroupRun} (h : g.running? place = some group)
    (hlogout : group.forceLogout = true → group'.forceLogout = true) : Follows g (g.put place group') := by
  intro q other hq
  rw [running?_put, h] at hq
  split at hq
  next heq =>
    subst heq
    exact ⟨group, h, Option.some.inj hq ▸ hlogout⟩
  next => exact ⟨other, hq, id⟩

theorem over_put {group group' : GroupRun} (hover : g.Over) (h : g.running? place = some group)
    (hlogout : group.forceLogout = true → group'.forceLogout = true) : (g.put place group').Over := by
  obtain ⟨q, other, hq, hother⟩ := hover
  by_cases heq : q = place
  · subst heq
    refine ⟨q, group', by rw [running?_put, if_pos rfl, h]; rfl, hlogout ?_⟩
    rwa [Option.some.inj (h.symm.trans hq)]
  · exact ⟨q, other, by rwa [running?_put, if_neg heq], hother⟩

theorem follows_poll : Follows g (g.poll rules counter place t).1 := by
  simp only [poll]
  split
  · exact .refl g
  next group hgroup => exact follows_put hgroup GroupRun.forceLogout_poll

theorem over_poll (h : g.Over) : (g.poll rules counter place t).1.Over := by
  simp only [poll]
  split
  · exact h
  next group hgroup => exact over_put h hgroup GroupRun.forceLogout_poll

theorem follows_deliver {index : Nat} {answer : Answer} : Follows g (g.deliver place index answer) := by
  simp only [deliver]
  split
  · exact .refl g
  next group hgroup => exact follows_put hgroup id

theorem over_deliver {index : Nat} {answer : Answer} (h : g.Over) : (g.deliver place index answer).Over := by
  simp only [deliver]
  split
  · exact h
  next group hgroup => exact over_put h hgroup id

/-- A group that tells of the end of the session asks for it. -/
theorem over_poll_of_told (ht : ¬ t.EndsSession) (h : (g.poll rules counter place t).2.EndsSession) :
    (g.poll rules counter place t).1.Over := by
  simp only [poll] at h ⊢
  split at h
  · exact absurd h ht
  next group hgroup =>
    refine ⟨place, _, by rw [running?_put, if_pos rfl, hgroup]; rfl, ?_⟩
    exact @GroupRun.admits_poll rules _ group t False (fun h' => absurd (h'.resolve_left id) ht) (.inr h)

/-- When the groups of a stage have finished and one of them asks for the end of the session, the graph is
over. -/
theorem close_over (hrule : rules.haltOnAuth = true) (h : g.Over) (hactive : g.active = []) :
    (g.close rules counter).stage = .finished ∧ (g.close rules counter).run.Ended := by
  have hfin : ∀ e ∈ g.atWork, e.2.isFinished = true := fun e => isFinished_of_active_eq_nil hactive
  obtain ⟨place, group, hgroup, hlogout⟩ := h
  have hmem := mem_atWork_of_running? hgroup
  have hended {g' : GraphRun} (h : g'.run.Ended) : g'.run.isStale counter = true ∨ g'.run.halted = true :=
    h.symm.imp_left fun h => by simp [Run.isStale, h]
  unfold atWork at hfin hmem
  cases hs : g.stage with
  | together groups waves =>
    simp only [hs] at hfin hmem
    have hrun := @ended_foldl_merge rules g (counter.isCurrent g.run.epoch) groups hrule
      (.inr ⟨_, hmem, hlogout⟩)
    simp only [close, hs]
    rw [if_pos (List.all_eq_true.2 hfin), run_goOn]
    exact ⟨goOn_refused (hended hrun) _ _, hrun⟩
  | alone i other rest waves =>
    simp only [hs, List.mem_singleton] at hfin hmem
    obtain ⟨rfl, rfl⟩ := Prod.mk.inj hmem
    have hrun : (({ g.run with context := group.context } : Run).absorb rules
        (counter.isCurrent g.run.epoch) group.outcome).Ended := Run.ended_absorb_of_forceLogout hrule hlogout
    simp only [close, hs]
    rw [if_pos (hfin _ rfl), run_goOn]
    exact ⟨goOn_refused (hended hrun) _ _, hrun⟩
  | finished => simp [hs] at hmem

/-- What a turn of a graph does once the end of the session was told: it tells nothing of a further group,
and sends what the group that goes on sends. -/
theorem resume_over (hrule : rules.haltOnAuth = true) (h : (g.poll rules counter place t).1.Over) :
    (g.resume rules counter place t).2 = (g.poll rules counter place t).2 ∧
      ((g.resume rules counter place t).1 = (g.poll rules counter place t).1 ∨
        (g.resume rules counter place t).1.stage = .finished ∧
          (g.resume rules counter place t).1.run.Ended) := by
  simp only [resume]
  split
  next hactive =>
    obtain ⟨hstage, hended⟩ := @close_over rules counter _ hrule h (List.isEmpty_iff.1 hactive)
    rw [enter_of_finished hstage]
    exact ⟨rfl, .inr ⟨hstage, hended⟩⟩
  next => exact ⟨rfl, .inl rfl⟩

theorem running?_of_not_parallel (hkept : g.Kept rules) (hrule : rules.parallel = false) {q : Nat}
    {group other : GroupRun} (h : g.running? place = some group) (hq : g.running? q = some other) :
    group = other := by
  cases hs : g.stage with
  | together groups waves => exact absurd hs (hkept.alone hrule groups waves)
  | alone i old rest waves =>
    simp only [running?, hs] at h hq
    split at h
    · split at hq
      · exact Option.some.inj (h.symm.trans hq)
      · cases hq
    · cases h
  | finished => simp [running?, hs] at h

/-- Once the end of the session was told, only a group sends something that has not halted, and whose own
answers did not bring the end. -/
theorem calls_poll_of_over (hrule : rules.haltOnAuth = true) (hkept : g.Kept rules) (h : g.Over)
    (hcalls : (g.poll rules counter place t).2.calls ≠ t.calls) :
    rules.parallel = true ∧
      ∃ group, g.running? place = some group ∧ group.halted = false ∧ group.forceLogout = false := by
  simp only [poll] at hcalls
  split at hcalls
  · exact absurd rfl hcalls
  next group hgroup =>
    obtain ⟨name, steps, hledger⟩ := hkept.ledger _ (mem_atWork_of_running? hgroup)
    have hhalted : ¬ group.halted = true := fun h => hcalls (GroupRun.calls_poll_of_halted h)
    have hlogout : ¬ group.forceLogout = true := fun h => hhalted (hledger.halted_of_forceLogout hrule h)
    refine ⟨?_, group, hgroup, Bool.eq_false_iff.2 hhalted, Bool.eq_false_iff.2 hlogout⟩
    rw [← Bool.not_eq_false]
    intro hparallel
    obtain ⟨q, other, hq, hother⟩ := h
    rw [running?_of_not_parallel hkept hparallel hgroup hq] at hlogout
    exact hlogout hother

end GraphRun

/-! ### One run in its own turns -/

namespace RunState

variable {rules : RunRules} {counter : EpochCounter} {around : Surroundings} {handle : Handle}
  {state : RunState} {turn : Turn}

/-- What a turn of its own makes of a run, with what is told and sent. -/
def take (rules : RunRules) (handle : Handle) (around : Surroundings) : Turn → RunState → RunState × Trace
  | .edit _ c, idle r => (idle { r with context := c }, { surroundings := around })
  | .work _ graph, idle r =>
    let (g, t) := (GraphRun.start rules handle.counter graph r).enter rules handle.counter
      { surroundings := around }
    (of g, t)
  | .answer _ place index answer, working g =>
    (working (g.deliver place index answer), { surroundings := around })
  | .resume _ place, working g =>
    let (g, t) := g.resume rules handle.counter place { surroundings := around }
    (of g, t)
  | .commit _, idle r => (closed (handle.commit r).2, { surroundings := around })
  | _, state => (state, { surroundings := around })

/-- The group that runs at a place. -/
def running? (state : RunState) (place : Nat) : Option GroupRun :=
  match state with
  | working g => g.running? place
  | _ => none

/-- What holds of a run at any time. -/
def Kept (rules : RunRules) : RunState → Prop
  | working g => g.Kept rules
  | _ => True

/-- Whether the end of the session was told in a run. -/
def Over : RunState → Prop
  | idle r => r.Ended
  | working g => g.Over
  | closed _ => True

/-- Whether all groups at work were so before, and still ask for the end of the session if they did. -/
def Follows (state state' : RunState) : Prop :=
  ∀ place group', state'.running? place = some group' → ∃ group, state.running? place = some group ∧
    (group.forceLogout = true → group'.forceLogout = true)

theorem Follows.refl (state : RunState) : Follows state state := fun _ group h => ⟨group, h, id⟩

theorem Follows.trans {state' state'' : RunState} (h : Follows state state') (h' : Follows state' state'') :
    Follows state state'' := by
  intro place group'' hgroup''
  obtain ⟨group', hgroup', hlogout'⟩ := h' place group'' hgroup''
  obtain ⟨group, hgroup, hlogout⟩ := h place group' hgroup'
  exact ⟨group, hgroup, hlogout' ∘ hlogout⟩

theorem follows_of_none {state' : RunState} (h : ∀ place, state'.running? place = none) :
    Follows state state' := by
  intro place group' hgroup'
  rw [h] at hgroup'
  cases hgroup'

theorem of_of_finished {g : GraphRun} (h : g.stage = .finished) : of g = idle g.run := by
  rw [of, GraphRun.isFinished, h]
  rfl

theorem kept_of {g : GraphRun} (h : g.Kept rules) : (of g).Kept rules := by
  unfold of
  split
  · trivial
  · exact h

theorem kept_take (h : state.Kept rules) : (take rules handle around turn state).1.Kept rules := by
  unfold take
  split
  · trivial
  · exact kept_of (GraphRun.kept_enter (GraphRun.kept_goOn _ _))
  · exact GraphRun.kept_deliver h
  · exact kept_of (GraphRun.kept_resume h)
  · trivial
  · exact h

theorem over_of {g : GraphRun} (h : g.Over) : (of g).Over := by
  obtain ⟨place, group, hgroup, -⟩ := id h
  unfold of
  split
  next hfin =>
    unfold GraphRun.isFinished at hfin
    split at hfin
    next hs => simp [GraphRun.running?, hs] at hgroup
    next => cases hfin
  next => exact h

theorem follows_of {g g' : GraphRun} (h : GraphRun.Follows g g') : Follows (working g) (of g') := by
  unfold of
  split
  · exact follows_of_none fun _ => rfl
  · exact h

theorem over_resume {g : GraphRun} {place : Nat} {t : Trace} (hrule : rules.haltOnAuth = true)
    (h : (g.poll rules counter place t).1.Over) :
    (of (g.resume rules counter place t).1).Over ∧
      Follows (working g) (of (g.resume rules counter place t).1) := by
  obtain ⟨-, heq | ⟨hstage, hended⟩⟩ := GraphRun.resume_over hrule h
  · rw [heq]
    exact ⟨over_of h, follows_of GraphRun.follows_poll⟩
  · rw [of_of_finished hstage]
    exact ⟨hended, follows_of_none fun _ => rfl⟩

theorem over_enter_of_told {g : GraphRun} {t : Trace} (ht : ¬ t.EndsSession)
    (h : (g.enter rules counter t).2.EndsSession) : (of (g.enter rules counter t).1).Over := by
  unfold GraphRun.enter at h ⊢
  split at h
  · exact absurd h ht
  · exact over_of (GraphRun.over_poll_of_told ht h)

theorem over_resume_of_told {g : GraphRun} {place : Nat} {t : Trace} (hrule : rules.haltOnAuth = true)
    (ht : ¬ t.EndsSession) (h : (g.resume rules counter place t).2.EndsSession) :
    (of (g.resume rules counter place t).1).Over := by
  by_cases hpoll : (g.poll rules counter place t).2.EndsSession
  · exact (over_resume hrule (GraphRun.over_poll_of_told ht hpoll)).1
  · simp only [GraphRun.resume] at h ⊢
    split at h
    next hactive =>
      rw [if_pos hactive]
      exact over_enter_of_told hpoll h
    next => exact absurd h hpoll

/-- A run in which the end of the session was told begins no group. -/
theorem over_take (hrule : rules.haltOnAuth = true) (h : state.Over) :
    (take rules handle around turn state).1.Over ∧
      Follows state (take rules handle around turn state).1 := by
  unfold take
  split
  next c r => exact ⟨h, follows_of_none fun _ => rfl⟩
  next graph r =>
    have hstage : (GraphRun.start rules handle.counter graph r).stage = .finished :=
      GraphRun.goOn_refused (h.symm.imp_left fun h => by simp [Run.isStale, h]) _ _
    rw [GraphRun.enter_of_finished hstage]
    dsimp only
    rw [of_of_finished hstage, GraphRun.run_start]
    exact ⟨h, follows_of_none fun _ => rfl⟩
  next place index answer g => exact ⟨GraphRun.over_deliver h, GraphRun.follows_deliver⟩
  next place g =>
    exact over_resume hrule (GraphRun.over_poll h)
  next => exact ⟨trivial, follows_of_none fun _ => rfl⟩
  next => exact ⟨h, .refl _⟩

/-- A turn that tells of the end of the session leaves the run over. -/
theorem over_take_of_told (hrule : rules.haltOnAuth = true)
    (h : (take rules handle around turn state).2.EndsSession) :
    (take rules handle around turn state).1.Over := by
  have hnone : ¬ ({ surroundings := around } : Trace).EndsSession := fun ⟨e, he, _⟩ =>
    absurd he List.not_mem_nil
  unfold take at h ⊢
  split at h
  next => exact absurd h hnone
  next => exact over_enter_of_told hnone h
  next => exact absurd h hnone
  next => exact over_resume_of_told hrule hnone h
  next => exact absurd h hnone
  next => exact absurd h hnone

/-- A run in which the end of the session was told sends nothing, but for what the other groups of its open
wave send. -/
theorem calls_take_of_over (hrule : rules.haltOnAuth = true) (hkept : state.Kept rules) (h : state.Over)
    (hcalls : (take rules handle around turn state).2.calls ≠ []) :
    rules.parallel = true ∧ ∃ run place group, turn = .resume run place ∧
      state.running? place = some group ∧ group.halted = false ∧ group.forceLogout = false := by
  unfold take at hcalls
  split at hcalls
  next => exact absurd rfl hcalls
  next run graph r =>
    have hstage : (GraphRun.start rules handle.counter graph r).stage = .finished :=
      GraphRun.goOn_refused (h.symm.imp_left fun h => by simp [Run.isStale, h]) _ _
    rw [GraphRun.enter_of_finished hstage] at hcalls
    exact absurd rfl hcalls
  next => exact absurd rfl hcalls
  next run place g =>
    have hresume := (@GraphRun.resume_over rules handle.counter g { surroundings := around } place hrule
      (GraphRun.over_poll h)).1
    dsimp only at hcalls
    rw [hresume] at hcalls
    obtain ⟨hparallel, group, hgroup, hnot⟩ := GraphRun.calls_poll_of_over hrule hkept h hcalls
    exact ⟨hparallel, run, place, group, rfl, hgroup, hnot⟩
  next => exact absurd rfl hcalls
  next => exact absurd rfl hcalls

end RunState

namespace Interplay

variable {s : Interplay} {run p : Nat} {turn : Turn} {state : RunState}

/-- The state of a run. -/
def stateOf (s : Interplay) (run : Nat) : Option RunState := s.runs[run]?.map BegunRun.state

/-- The group of a run that is at work at a place. -/
def groupAt? (s : Interplay) (run place : Nat) : Option GroupRun := (s.stateOf run).bind (·.running? place)

/-- Whether a turn tells that the session has to be ended. -/
def TellsEnd (s : Interplay) (turn : Turn) : Prop :=
  ∃ e ∈ (s.take turn).events.drop s.events.length, e.kind.endsSession = true

theorem rules_take (s : Interplay) (turn : Turn) : (s.take turn).rules = s.rules := by
  cases turn <;> simp only [take] <;> (try split) <;> rfl

theorem take_none (hrun : s.runs[run]? = none) (hturn : turn.run? = some run) : s.take turn = s := by
  cases turn with
  | begin | beginWith | fork | tick => cases hturn
  | edit other | work other | answer other | resume other | commit other =>
    obtain rfl : other = run := Option.some.inj hturn
    simp only [take, hrun]

/-- A turn of a run does to it what it does to the run on its own. -/
theorem take_own (hrun : s.runs[run]? = some ⟨p, state⟩) (hturn : turn.run? = some run) :
    (s.take turn).runs[run]? =
        some ⟨p, (state.take s.rules (s.handles[p]?.getD {}) s.surroundings turn).1⟩ ∧
      (s.take turn).events =
        s.events ++ (state.take s.rules (s.handles[p]?.getD {}) s.surroundings turn).2.events ∧
      (s.take turn).calls =
        s.calls ++ (state.take s.rules (s.handles[p]?.getD {}) s.surroundings turn).2.calls := by
  have hlt := (List.getElem?_eq_some_iff.1 hrun).1
  cases turn with
  | begin | beginWith | fork | tick => cases hturn
  | edit other | work other | answer other | resume other | commit other =>
    obtain rfl : other = run := Option.some.inj hturn
    cases state <;> simp only [take, hrun, RunState.take, carry, counterAt, List.getElem?_set_self hlt,
      List.append_nil, and_self]

/-- Whether the groups of all runs note their steps, and run side by side only where the rules have it so. -/
def Kept (s : Interplay) : Prop :=
  ∀ (run p : Nat) (state : RunState), s.runs[run]? = some ⟨p, state⟩ → state.Kept s.rules

theorem kept_take (h : s.Kept) (turn : Turn) : (s.take turn).Kept := by
  intro run p state hrun
  rw [rules_take]
  by_cases hlt : run < s.runs.length
  · by_cases hturn : turn.run? = some run
    · have hold : s.runs[run]? = some ⟨s.runs[run].handle, s.runs[run].state⟩ :=
        List.getElem?_eq_getElem hlt
      rw [(take_own hold hturn).1] at hrun
      cases hrun
      exact RunState.kept_take (h _ _ _ hold)
    · rw [runs_take hlt hturn] at hrun
      exact h run p state hrun
  · -- A run that was not there before has just been begun.
    obtain hruns | ⟨q, r, -, hruns⟩ | ⟨other, q, old, new, -, -, -, hruns⟩ := runs_take_cases s turn
    · rw [hruns, List.getElem?_eq_none (Nat.le_of_not_lt hlt)] at hrun
      cases hrun
    · rw [hruns, List.getElem?_append_right (Nat.le_of_not_lt hlt)] at hrun
      cases List.mem_singleton.1 (List.mem_of_getElem? hrun)
      trivial
    · rw [hruns, List.getElem?_eq_none (by simpa using Nat.le_of_not_lt hlt)] at hrun
      cases hrun

theorem kept_after (h : s.Kept) (turns : List Turn) : (s.after turns).Kept := by
  induction turns generalizing s with
  | nil => exact h
  | cons turn rest ih => exact ih (kept_take h turn)

theorem rules_after (s : Interplay) (turns : List Turn) : (s.after turns).rules = s.rules := by
  induction turns generalizing s with
  | nil => rfl
  | cons turn rest ih => exact (ih (s.take turn)).trans (rules_take s turn)

/-- Once the end of the session was told in a run, this remains so, and none of its groups begins. -/
theorem over_after (hrule : s.rules.haltOnAuth = true) (hrun : s.runs[run]? = some ⟨p, state⟩)
    (h : state.Over) (turns : List Turn) :
    ∃ state', (s.after turns).runs[run]? = some ⟨p, state'⟩ ∧ state'.Over ∧ state.Follows state' := by
  induction turns generalizing s state with
  | nil => exact ⟨state, hrun, h, .refl state⟩
  | cons turn rest ih =>
    have hrule' : (s.take turn).rules.haltOnAuth = true := by rwa [rules_take]
    by_cases hturn : turn.run? = some run
    · have hown := (take_own hrun hturn).1
      obtain ⟨hover, hfollows⟩ := RunState.over_take hrule h
      obtain ⟨state', hrun', hover', hfollows'⟩ := ih hrule' hown hover
      exact ⟨state', hrun', hover', hfollows.trans hfollows'⟩
    · refine ih hrule' ?_ h
      rwa [runs_take (List.getElem?_eq_some_iff.1 hrun).1 hturn]

/-- What a run still does in a turn once it has told of the end of the session. -/
structure WindsUp (s s' : Interplay) (run : Nat) (turn : Turn) : Prop where
  /-- Every group at work was so when the end was told. -/
  groups : ∀ place group', s'.groupAt? run place = some group' → (s.groupAt? run place).isSome = true
  /-- Something is sent only by a group that runs side by side with the one whose answer brought the end,
  and that has not halted itself. -/
  sends : (s'.take turn).calls ≠ s'.calls → s.rules.parallel = true ∧ ∃ place group group',
    turn = .resume run place ∧ s.groupAt? run place = some group ∧ group.forceLogout = false ∧
      s'.groupAt? run place = some group' ∧ group'.halted = false

theorem groupAt?_eq (hrun : s.runs[run]? = some ⟨p, state⟩) (place : Nat) :
    s.groupAt? run place = state.running? place := by
  simp [groupAt?, stateOf, hrun]

theorem windsUp_of_over {s' : Interplay} {state' : RunState} (hrules : s'.rules = s.rules)
    (hrule : s.rules.haltOnAuth = true) (hrun : s.runs[run]? = some ⟨p, state⟩)
    (hrun' : s'.runs[run]? = some ⟨p, state'⟩) (hkept : s'.Kept) (hover : state'.Over)
    (hfollows : state.Follows state') (hturn : turn.run? = some run) : WindsUp s s' run turn := by
  refine ⟨fun place group' hgroup' => ?_, fun hcalls => ?_⟩
  · rw [groupAt?_eq hrun'] at hgroup'
    obtain ⟨group, hgroup, -⟩ := hfollows place group' hgroup'
    rw [groupAt?_eq hrun, hgroup]
    rfl
  · obtain ⟨-, -, hsent⟩ := take_own hrun' hturn
    rw [hsent, Ne, List.append_right_eq_self] at hcalls
    rw [← hrules] at hrule
    obtain ⟨hparallel, other, place, group', rfl, hgroup', hhalted, hlogout'⟩ :=
      RunState.calls_take_of_over hrule (hkept _ _ _ hrun') hover hcalls
    obtain rfl : other = run := Option.some.inj hturn
    obtain ⟨group, hgroup, hlogout⟩ := hfollows place group' hgroup'
    refine ⟨hrules ▸ hparallel, place, group, group', rfl, ?_, ?_, ?_, hhalted⟩
    · rw [groupAt?_eq hrun, hgroup]
    · rw [← Bool.not_eq_true]
      intro h
      rw [hlogout h] at hlogout'
      cases hlogout'
    · rw [groupAt?_eq hrun', hgroup']

/-- An answer is taken up as the end of the session exactly when this is told. After that the run begins no
group, and the group that got the answer sends nothing more; but groups that run side by side with it go on
until their wave is over. -/
theorem winds_up_after_end (rules : RunRules) (surroundings : Surroundings) (turns : List Turn)
    (run : Nat) (turn : Turn) (hrule : rules.haltOnAuth = true) (hturn : turn.run? = some run)
    (htold : ((opening rules surroundings).after turns).TellsEnd turn) :
    (∀ (g : GroupRun) (index : Nat) (step : Step) (answer : Answer) (t : Trace),
      (∃ e ∈ (g.settle rules index step answer t).2.events.drop t.events.length,
        e.kind.endsSession = true) ↔ Verdict.isAuth rules.authKeys (Envelope.ofResult answer) = true) ∧
    ∀ later next, next.run? = some run →
      WindsUp (((opening rules surroundings).after turns).take turn)
        ((((opening rules surroundings).after turns).take turn).after later) run next := by
  refine ⟨fun _ _ _ _ _ => GroupRun.endsSession_settle, fun later next hnext => ?_⟩
  let s := (opening rules surroundings).after turns
  have hrules : s.rules = rules := rules_after _ turns
  have hkept : s.Kept := kept_after (fun _ _ _ h => by simp [opening] at h) turns
  cases hrun : s.runs[run]? with
  | none =>
    obtain ⟨e, he, -⟩ := htold
    rw [take_none hrun hturn, List.drop_length] at he
    cases he
  | some b =>
    obtain ⟨p, state⟩ := b
    obtain ⟨hrun', hevents, -⟩ := take_own hrun hturn
    rw [TellsEnd, hevents, List.drop_left] at htold
    rw [← hrules] at hrule
    have hover := RunState.over_take_of_told hrule htold
    have hrule' : (s.take turn).rules.haltOnAuth = true := by rwa [rules_take]
    obtain ⟨state', hrun'', hover', hfollows⟩ := over_after hrule' hrun' hover later
    exact windsUp_of_over (rules_after _ later) hrule' hrun' hrun'' (kept_after (kept_take hkept turn) later)
      hover' hfollows hnext

/-- Two groups that run side by side, the second with two steps. -/
def sidedGraph : WorkflowGraph :=
  ⟨[("a", ⟨[{ workflow := "A" }]⟩), ("b", ⟨[{ workflow := "B" }, { workflow := "C" }]⟩)]⟩

/-- An answer with a status and nothing else. -/
def statusAnswer (status : Nat) : Answer := .ok (.obj [("status", .ofNat status)])

/-- A run of two groups that wait, and the answer that ends the session has come for the first. -/
def refused : Interplay :=
  (opening {} ⟨.epoch, ⟨"id", 0⟩⟩).after
    [.begin 0, .work 0 sidedGraph, .resume 0 1, .answer 0 0 0 (statusAnswer 401)]

theorem refused_run_winds_up :
    refused.TellsEnd (.resume 0 0) ∧
      WindsUp (refused.take (.resume 0 0))
        ((refused.take (.resume 0 0)).after [.answer 0 1 0 (statusAnswer 200)]) 0 (.resume 0 1) := by
  have htold : refused.TellsEnd (.resume 0 0) := List.any_eq_true.1 (by cbv)
  exact ⟨htold, (winds_up_after_end {} ⟨.epoch, ⟨"id", 0⟩⟩ _ 0 (.resume 0 0) rfl rfl htold).2
    [.answer 0 1 0 (statusAnswer 200)] (.resume 0 1) rfl⟩

/-- The end of the session has been told, and the run still sends the next step of the other group. -/
theorem run_goes_on_after_end :
    refused.rules.haltOnAuth = true ∧ refused.TellsEnd (.resume 0 0) ∧
      (refused.take (.resume 0 0)).calls.map (·.request.workflow) = ["A", "B"] ∧
      (((refused.take (.resume 0 0)).after [.answer 0 1 0 (statusAnswer 200)]).take
        (.resume 0 1)).calls.map (·.request.workflow) = ["A", "B", "C"] := by
  refine ⟨?_, List.any_eq_true.1 ?_, ?_, ?_⟩
  · cbv
  · cbv
  · cbv
  · cbv

end Interplay

end BackOffice
