import BackOffice.Proofs.Run.Ending
import BackOffice.Proofs.Run.Ledger

/-!
What may become of a group while no newer run begins. It goes on at any time, in whatever surroundings, and any
answers arrive in any order. All along it keeps its ledger, adds writes to the context that it began with, and
tells of the end of a session right after the failure that brought it, and nowhere else.
-/

namespace BackOffice

namespace EventKind

/-- Whether an event belongs to the end of a session: it tells of it, or of the failure that brought it. -/
def isOfLogout : EventKind → Bool
  | forceLogout _ | failed _ _ (.auth _) => true
  | _ => false

end EventKind

/-- Whether each failure that ends a session is told with the end of the session right behind it, in the same
run and at the same time, and the end of a session is told nowhere else. -/
inductive Event.Paired : List Event → Prop
  | nil : Paired []
  | other {e : Event} {rest : List Event} (he : e.kind.isOfLogout = false) (h : Paired rest) : Paired (e :: rest)
  | logout {epoch : Nat} {group workflow : String} {entry : ErrorEntry} {time : Moment} {rest : List Event}
      (h : Paired rest) :
      Paired (⟨epoch, .failed group workflow (.auth entry), time⟩ :: ⟨epoch, .forceLogout entry, time⟩ :: rest)

namespace Event.Paired

variable {front back told : List Event} {e : Event} {group workflow : String} {entry : ErrorEntry}

theorem append (h : Paired front) (h' : Paired back) : Paired (front ++ back) := by
  induction h with
  | nil => exact h'
  | other he _ ih => exact .other he ih
  | logout _ ih => exact .logout ih

/-- Behind a failure that ends the session comes the end of the session. -/
theorem next (h : Paired (front ++ e :: back)) (he : e.kind = .failed group workflow (.auth entry)) :
    ∃ rest, back = ⟨e.epoch, .forceLogout entry, e.time⟩ :: rest := by
  generalize htold : front ++ e :: back = told at h
  induction h generalizing front with
  | nil => simp at htold
  | other hother _ ih =>
    cases front with
    | nil =>
      obtain ⟨rfl, -⟩ := List.cons.inj htold
      rw [he] at hother
      cases hother
    | cons f front => exact ih (List.cons.inj htold).2
  | @logout _ _ _ _ _ rest _ ih =>
    cases front with
    | nil =>
      obtain ⟨rfl, rfl⟩ := List.cons.inj htold
      cases he
      exact ⟨rest, rfl⟩
    | cons f front =>
      cases front with
      | nil =>
        obtain ⟨rfl, -⟩ := List.cons.inj (List.cons.inj htold).2
        cases he
      | cons f' front => exact ih (List.cons.inj (List.cons.inj htold).2).2

/-- Before the end of a session comes the failure that brought it. -/
theorem previous (h : Paired (front ++ e :: back)) (he : e.kind = .forceLogout entry) :
    ∃ rest group workflow, front = rest ++ [⟨e.epoch, .failed group workflow (.auth entry), e.time⟩] := by
  generalize htold : front ++ e :: back = told at h
  induction h generalizing front with
  | nil => simp at htold
  | other hother _ ih =>
    cases front with
    | nil =>
      obtain ⟨rfl, -⟩ := List.cons.inj htold
      rw [he] at hother
      cases hother
    | cons f front =>
      obtain ⟨rest, group, workflow, rfl⟩ := ih (List.cons.inj htold).2
      exact ⟨f :: rest, group, workflow, rfl⟩
  | @logout _ group workflow _ _ _ _ ih =>
    cases front with
    | nil =>
      obtain ⟨rfl, -⟩ := List.cons.inj htold
      cases he
    | cons f front =>
      cases front with
      | nil =>
        obtain ⟨hf, hrest⟩ := List.cons.inj htold
        obtain ⟨rfl, -⟩ := List.cons.inj hrest
        cases he
        exact ⟨[], group, workflow, by rw [hf, List.nil_append]⟩
      | cons f' front =>
        obtain ⟨rest, group, workflow, rfl⟩ := ih (List.cons.inj (List.cons.inj htold).2).2
        exact ⟨f :: f' :: rest, group, workflow, rfl⟩

end Event.Paired

/-- Whether a trace tells of one run, and of the end of its session as it should. -/
structure Trace.Orderly (epoch : Nat) (t : Trace) : Prop where
  paired : Event.Paired t.events
  epoch : ∀ e ∈ t.events, e.epoch = epoch

namespace Trace

variable {t : Trace} {epoch : Nat} {current : Bool}

theorem orderly_empty (epoch : Nat) (around : Surroundings) : Orderly epoch { surroundings := around } :=
  ⟨.nil, fun _ he => absurd he List.not_mem_nil⟩

theorem Orderly.append {events : List Event} (h : t.Orderly epoch) (hpaired : Event.Paired events)
    (hepoch : ∀ e ∈ events, e.epoch = epoch) : Orderly epoch { t with events := t.events ++ events } :=
  ⟨h.paired.append hpaired, List.forall_mem_append.2 ⟨h.epoch, hepoch⟩⟩

theorem Orderly.tell {kind : EventKind} (h : t.Orderly epoch) (hkind : kind.isOfLogout = false) :
    (t.tell current epoch [kind]).Orderly epoch := by
  simp only [Trace.tell]
  split
  · exact h.append (.other hkind .nil) (by simp)
  · exact h

theorem Orderly.tellFailure (h : t.Orderly epoch) (group workflow : String) (e : StepError) :
    (t.tell current epoch (EventKind.ofFailure group workflow e)).Orderly epoch := by
  simp only [Trace.tell]
  split
  · cases e with
    | auth entry => exact h.append (.logout .nil) (by simp [EventKind.ofFailure])
    | binding e | execution entry => exact h.append (.other rfl .nil) (by simp [EventKind.ofFailure])
  · exact h

end Trace

namespace GroupRun

variable {rules : RunRules} {first g : GroupRun} {t : Trace} {sent : List Call} {told : List Event} {index : Nat}
  {s : Step} {answer : Answer} {rest : List (Nat × Step)}

/-- What may have become of a group that is not superseded, with what it has sent and told since it began. -/
inductive Course (rules : RunRules) (first : GroupRun) : GroupRun → List Call → List Event → Prop
  | begun : Course rules first first [] []
  | went {g : GroupRun} {sent : List Call} {told : List Event} (h : Course rules first g sent told)
      (around : Surroundings) :
      Course rules first (g.poll rules true { surroundings := around }).1
        (sent ++ (g.poll rules true { surroundings := around }).2.calls)
        (told ++ (g.poll rules true { surroundings := around }).2.events)
  | answered {g : GroupRun} {sent : List Call} {told : List Event} (h : Course rules first g sent told)
      (index : Nat) (answer : Answer) : Course rules first (g.deliver index answer) sent told

/-! ### What a stretch tells -/

/-- Whether a stretch has told of the run of its group as it should. -/
def Keeps (epoch : Nat) (r : GroupRun × Trace) : Prop := r.1.epoch = epoch ∧ r.2.Orderly epoch

theorem keeps_fail {epoch : Nat} {envelope : Option Envelope} {e : StepError} {current : Bool}
    (h : Keeps epoch (g, t)) : Keeps epoch (g.fail rules index s envelope e t current) := by
  have hepoch : g.epoch = epoch := h.1
  subst hepoch
  exact ⟨rfl, h.2.tellFailure g.name s.workflow e⟩

theorem keeps_settle {epoch : Nat} (h : Keeps epoch (g, t)) :
    Keeps epoch (g.settle rules index s answer t) := by
  have hepoch : g.epoch = epoch := h.1
  subst hepoch
  simp only [settle]
  split
  · have htold : (t.tell true g.epoch [.completed g.name s.workflow]).Orderly g.epoch := h.2.tell rfl
    exact ⟨rfl, htold⟩
  · exact keeps_fail h

theorem keeps_join {epoch : Nat} {current : Bool} (h : Keeps epoch (g, t)) :
    Keeps epoch (join rules current rest g t) := by
  induction rest generalizing g t with
  | nil => exact h
  | cons entry rest ih =>
    simp only [join]
    split
    · exact h
    · split
      · exact ih (keeps_settle h)
      · exact ih h

theorem keeps_start {epoch : Nat} {current : Bool} (h : Keeps epoch (g, t)) :
    Keeps epoch (start rules current rest g t) := by
  induction rest generalizing g t with
  | nil => exact keeps_join h
  | cons entry rest ih =>
    have hsent (surroundings : Surroundings) (call : Call) : (({ t with surroundings }.tell current g.epoch
        [.dispatched g.name entry.2.workflow]).send call).Orderly epoch := by
      have hepoch : g.epoch = epoch := h.1
      subst hepoch
      have htold : (({ t with surroundings } : Trace).tell current g.epoch
          [.dispatched g.name entry.2.workflow]).Orderly g.epoch :=
        Trace.Orderly.tell ⟨h.2.paired, h.2.epoch⟩ rfl
      exact ⟨htold.paired, htold.epoch⟩
    simp only [start]
    split
    · exact ih h
    · split
      · exact ih (keeps_fail ⟨h.1, h.2.paired, h.2.epoch⟩)
      · split
        · exact ⟨h.1, hsent _ _⟩
        · exact ih ⟨h.1, hsent _ _⟩

theorem keeps_poll {epoch : Nat} {current : Bool} (h : Keeps epoch (g, t)) :
    Keeps epoch (g.poll rules current t) := by
  simp only [poll]
  split
  · exact keeps_start h
  · split
    · exact h
    · split
      · exact keeps_start (keeps_settle h)
      · exact h
  · exact keeps_join h
  · exact h

/-! ### What a stretch sends -/

/-- Whether a call is for one of some steps, bound in a context that the group may have written to. -/
def IsBound (steps : List (Nat × Step)) (context : Context) (call : Call) : Prop :=
  ∃ s writes around, (call.index, s) ∈ steps ∧ (s.bind (context.apply writes) around).1 = .ok call.request

theorem isBound_start {current : Bool} {call : Call} (h : call ∈ (start rules current rest g t).2.calls) :
    call ∈ t.calls ∨ IsBound rest g.context call := by
  -- Up to the first awaited step nothing is written.
  have hmore {i : Nat} {s : Step} {rest : List (Nat × Step)} {context : Context}
      (h : IsBound rest context call) : IsBound ((i, s) :: rest) context call := by
    obtain ⟨s', writes, around, hmem, hbind⟩ := h
    exact ⟨s', writes, around, List.mem_cons_of_mem _ hmem, hbind⟩
  revert h
  fun_induction start rules current rest g t with
  | case1 g t =>
    rw [calls_join]
    exact .inl
  | case2 i s rest g t _ ih => exact fun h => (ih h).imp_right hmore
  | case3 i s rest g t _ e around _ g' t' hfail ih =>
    intro h
    have hcalls : t'.calls = t.calls := by
      rw [← show _ = t' from congrArg Prod.snd hfail, calls_fail]
    obtain rfl : _ = g' := congrArg Prod.fst hfail
    rw [hcalls] at ih
    exact (ih h).imp_right hmore
  | case4 i s rest g t _ request around hbind _ =>
    intro h
    obtain h | h := List.mem_append.1 h
    · exact .inl (by simpa only [Trace.tell, apply_ite, ite_self] using h)
    · obtain rfl := List.mem_singleton.1 h
      exact .inr ⟨s, [], t.surroundings, List.mem_cons_self, by rw [Context.apply, List.foldl_nil, hbind]⟩
  | case5 i s rest g t _ request around hbind t' _ ih =>
    intro h
    obtain h | h := ih h
    · obtain h | h := List.mem_append.1 h
      · exact .inl (by simpa only [Trace.tell, apply_ite, ite_self] using h)
      · obtain rfl := List.mem_singleton.1 h
        exact .inr ⟨s, [], t.surroundings, List.mem_cons_self, by rw [Context.apply, List.foldl_nil, hbind]⟩
    · exact .inr (hmore h)

/-- Whatever a group sends is bound in its own context. -/
theorem isBound_poll {call : Call} (h : call ∈ (g.poll rules true t).2.calls) :
    call ∈ t.calls ∨ IsBound g.unsettled g.context call := by
  revert h
  simp only [poll]
  split
  next rest hs =>
    intro h
    refine (isBound_start h).imp_right ?_
    rintro ⟨s, writes, around, hmem, hbind⟩
    exact ⟨s, writes, around, by rw [unsettled, hs]; exact List.mem_append_left _ hmem, hbind⟩
  next i s rest hs =>
    split
    · exact .inl
    next answer _ =>
      intro h
      obtain h | ⟨s', writes, around, hmem, hbind⟩ := isBound_start h
      · rw [calls_settle] at h
        exact .inl h
      · obtain ⟨front, hfront⟩ := @exists_writes_settle ⟨rules, ⟨0⟩, t.surroundings, fun _ => .ok .null⟩ g i s
          answer t
        refine .inr ⟨s', front ++ writes, around, ?_, ?_⟩
        · rw [unsettled, hs]
          exact List.mem_append_left _ (List.mem_cons_of_mem _ hmem)
        · rw [Context.apply_append, ← hfront]
          exact hbind
  · rw [calls_join]
    exact .inl
  · exact .inl

/-! ### What a course keeps -/

namespace Course

theorem stale (h : Course rules first g sent told) : g.stale = first.stale := by
  induction h with
  | begun => rfl
  | went _ around ih => exact stale_poll.trans ih
  | answered _ index answer ih => exact ih

theorem ledger {name : String} {steps : List Step} (h : Course rules first g sent told)
    (hfirst : first.Ledger rules name steps first.unsettled) : g.Ledger rules name steps g.unsettled := by
  induction h with
  | begun => exact hfirst
  | went _ around ih => exact ih.poll
  | answered _ index answer ih => exact ih.deliver

/-- A group only adds writes to the context that it began with. -/
theorem exists_writes (h : Course rules first g sent told) :
    ∃ writes, g.context = first.context.apply writes := by
  induction h with
  | begun => exact ⟨[], rfl⟩
  | @went g _ _ _ around ih =>
    obtain ⟨front, hfront⟩ := ih
    obtain ⟨back, hback⟩ := exists_writes_poll (c := ⟨rules, ⟨0⟩, around, fun _ => .ok .null⟩) (g := g)
      (t := { surroundings := around })
    exact ⟨front ++ back, by rw [hback, hfront, Context.apply_append]⟩
  | answered _ index answer ih => exact ih

/-- All that a group sends is bound in the context that it began with, and what it has written there since. -/
theorem isBound {name : String} {steps : List Step} (h : Course rules first g sent told)
    (hfirst : first.Ledger rules name steps first.unsettled) {call : Call} (hcall : call ∈ sent) :
    ∃ s writes around, steps[call.index]? = some s ∧
      (s.bind (first.context.apply writes) around).1 = .ok call.request := by
  induction h with
  | begun => cases hcall
  | @went g sent _ hg around ih =>
    obtain hcall | hcall := List.mem_append.1 hcall
    · exact ih hcall
    · obtain hold | ⟨s, writes, around', hmem, hbind⟩ := isBound_poll hcall
      · cases hold
      · obtain ⟨front, hfront⟩ := hg.exists_writes
        refine ⟨s, front ++ writes, around', (hg.ledger hfirst).placed _ hmem, ?_⟩
        rw [Context.apply_append, ← hfront]
        exact hbind
  | answered _ index answer ih => exact ih hcall

theorem keeps (h : Course rules first g sent told) :
    g.epoch = first.epoch ∧ Event.Paired told ∧ ∀ e ∈ told, e.epoch = first.epoch := by
  induction h with
  | begun => exact ⟨rfl, .nil, fun _ he => absurd he List.not_mem_nil⟩
  | @went g _ _ _ around ih =>
    obtain ⟨hepoch, hpaired, htold⟩ := ih
    have hkept : Keeps g.epoch (g, { surroundings := around }) := ⟨rfl, Trace.orderly_empty g.epoch around⟩
    obtain ⟨hepoch', horderly⟩ := @keeps_poll rules g _ g.epoch true hkept
    rw [hepoch] at horderly hepoch'
    exact ⟨hepoch', hpaired.append horderly.paired, List.forall_mem_append.2 ⟨htold, horderly.epoch⟩⟩
  | answered _ index answer ih => exact ih

end Course

end GroupRun

end BackOffice
