import BackOffice.Proofs.Response.Levels
import BackOffice.Proofs.Run.Ending
import BackOffice.Proofs.Run.Ledger

/-!
What the class of an envelope says about all of its levels: it is a success when every level is one, it ends the
session by its own status or by an error of any level, and the error that it carries is the first that the levels
have depth first. So whatever a group writes into its context comes from answers that succeeded at every level.
-/

namespace BackOffice

namespace Verdict

variable {authKeys : List String} {e : Envelope}

/-- Whether the class of an envelope is what its levels say. -/
structure FitsLevels (authKeys : List String) (e : Envelope) : Prop where
  success_iff : of authKeys e = success ↔ ∀ d : Envelope, d.Within e → d.Succeeded
  auth_iff : (∃ entry, of authKeys e = auth entry) ↔
    e.status = 401 ∨ ∃ d : Envelope, d.Within e ∧ ∃ entry ∈ d.errors, ∃ key ∈ authKeys, entry.key = some key
  execution_iff : (∃ entry, of authKeys e = execution entry) ↔
    (¬∃ entry, of authKeys e = auth entry) ∧ of authKeys e ≠ success
  /-- The error that is carried and shown is the first of the first level, depth first, that has any. -/
  carries : ∀ entry, (e.levels.flatMap Envelope.errors).head? = some entry →
    e.allErrors.head? = some entry ∧ Verdict.entry? (of authKeys e) = some entry ∧
      Option.map UserError.ofEntry ( Verdict.entry? (of authKeys e)) = some (.ofEntry entry)

theorem isAuth_iff : isAuth authKeys e = true ↔
    e.status = 401 ∨ ∃ d : Envelope, d.Within e ∧ ∃ entry ∈ d.errors, ∃ key ∈ authKeys, entry.key = some key := by
  simp only [isAuth, Bool.or_eq_true, beq_iff_eq, List.any_eq_true, Envelope.mem_allErrors, Option.any_eq_true,
    List.contains_iff_mem]
  constructor
  · rintro (hstatus | ⟨entry, ⟨d, hd, hentry⟩, key, hkey, hmem⟩)
    · exact .inl hstatus
    · exact .inr ⟨d, hd, entry, hentry, key, hmem, hkey⟩
  · rintro (hstatus | ⟨d, hd, entry, hentry, key, hmem, hkey⟩)
    · exact .inl hstatus
    · exact .inr ⟨entry, ⟨d, hd, hentry⟩, key, hkey, hmem⟩

/-- An envelope that succeeded does not end the session. -/
theorem isAuth_of_isSuccess (h : e.isSuccess = true) : isAuth authKeys e = false := by
  have hstatus : e.status = 200 := ((Envelope.isSuccess_iff_levels e).1 h e (.self e)).1
  rw [isAuth, hstatus, Envelope.allErrors_of_isSuccess h]
  rfl

theorem of_eq_success_iff : of authKeys e = success ↔ e.isSuccess = true := by
  unfold of
  constructor
  · intro h
    split at h
    · cases h
    · split at h
      · assumption
      · cases h
  · intro h
    rw [isAuth_of_isSuccess h, h]
    rfl

theorem exists_auth_iff : (∃ entry, of authKeys e = auth entry) ↔ isAuth authKeys e = true := by
  unfold of
  constructor
  · rintro ⟨entry, h⟩
    split at h
    · assumption
    · split at h <;> cases h
  · intro h
    exact ⟨_, if_pos h⟩

/-- Whatever error there is first is carried. -/
theorem entry?_of {entry : ErrorEntry} (h : e.firstError? = some entry) :
    Verdict.entry? (of authKeys e) = some entry := by
  have hfailed : ¬e.isSuccess = true := by
    intro hsuccess
    rw [Envelope.firstError?_eq_head?, Envelope.allErrors_of_isSuccess hsuccess] at h
    cases h
  rw [of, if_neg hfailed, h]
  split <;> rfl

theorem fitsLevels (authKeys : List String) (e : Envelope) : FitsLevels authKeys e where
  success_iff := of_eq_success_iff.trans (Envelope.isSuccess_iff_levels e)
  auth_iff := exists_auth_iff.trans isAuth_iff
  execution_iff := by
    cases of authKeys e <;> simp
  carries := by
    intro entry hfirst
    rw [← Envelope.allErrors_eq_flatMap_levels] at hfirst
    have hcarried : Verdict.entry? (of authKeys e) = some entry :=
      entry?_of (e.firstError?_eq_head?.trans hfirst)
    exact ⟨hfirst, hcarried, congrArg (Option.map UserError.ofEntry) hcarried⟩

end Verdict

/-- What may happen to a group: it goes on, in a run that is current or superseded, or an answer comes. -/
inductive Incidence where
  | goesOn (current : Bool) (around : Surroundings)
  | answered (index : Nat) (answer : Answer)

namespace GroupRun

variable {rules : RunRules} {steps : List Step} {base : Context} {current : Bool} {g : GroupRun} {t : Trace}
  {index : Nat} {s : Step} {answer : Answer} {rest : List (Nat × Step)}

/-- The group after something has happened to it. -/
def meet (rules : RunRules) (g : GroupRun) : Incidence → GroupRun
  | .goesOn current around => (g.poll rules current { surroundings := around }).1
  | .answered index answer => g.deliver index answer

/-- Whether a write is one of a step whose answer has come and succeeded at every level. -/
def Earned (steps : List Step) (g : GroupRun) (w : Write) : Prop :=
  ∃ index s answer, steps[index]? = some s ∧ (index, answer) ∈ g.answers ∧
    w ∈ s.writesOf (Envelope.ofResult answer).data ∧ ∀ d : Envelope, d.Within (Envelope.ofResult answer) → d.Succeeded

/-- Whether a group has come from a context by writes of such steps only. -/
def Earns (steps : List Step) (base : Context) (g : GroupRun) : Prop :=
  ∃ writes, g.context = base.apply writes ∧ ∀ w ∈ writes, g.Earned steps w

theorem mem_answers_of_lookup {i : Nat} (h : g.answers.lookup i = some answer) : (i, answer) ∈ g.answers := by
  obtain ⟨front, back, hanswers, -⟩ := List.lookup_eq_some_iff.1 h
  rw [hanswers]
  exact List.mem_append_right _ List.mem_cons_self

/-- An answer is merged only if every level of it has succeeded. -/
theorem Earns.settle (h : g.Earns steps base) (hat : steps[index]? = some s)
    (hanswer : (index, answer) ∈ g.answers) : (g.settle rules index s answer t).1.Earns steps base := by
  obtain ⟨front, hcontext, hfront⟩ := h
  simp only [GroupRun.settle]
  split
  next hnone =>
    have hsuccess : Verdict.of rules.authKeys (Envelope.ofResult answer) = .success := by
      cases hverdict : Verdict.of rules.authKeys (Envelope.ofResult answer) <;>
        simp [StepError.ofVerdict?, hverdict] at hnone ⊢
    have hlevels := (Verdict.fitsLevels rules.authKeys _).success_iff.1 hsuccess
    refine ⟨front ++ s.writesOf (Envelope.ofResult answer).data, ?_, List.forall_mem_append.2 ⟨hfront, ?_⟩⟩
    · rw [Context.apply_append, ← hcontext]
    · exact fun w hw => ⟨index, s, answer, hat, hanswer, hw, hlevels⟩
  · exact ⟨front, hcontext, hfront⟩

theorem Earns.join (h : g.Earns steps base) (hrest : ∀ e ∈ rest, steps[e.1]? = some e.2) :
    (join rules current rest g t).1.Earns steps base := by
  induction rest generalizing g t with
  | nil => exact h
  | cons entry rest ih =>
    rw [List.forall_mem_cons] at hrest
    simp only [GroupRun.join]
    split
    · exact h
    next answer hlookup =>
      split
      · exact ih (h.settle hrest.1 (mem_answers_of_lookup hlookup)) hrest.2
      · exact ih h hrest.2

theorem Earns.start (h : g.Earns steps base) (hrest : ∀ e ∈ rest ++ g.detached, steps[e.1]? = some e.2) :
    (start rules current rest g t).1.Earns steps base := by
  induction rest generalizing g t with
  | nil => exact h.join hrest
  | cons entry rest ih =>
    have hlater : ∀ e ∈ rest ++ g.detached, steps[e.1]? = some e.2 :=
      fun e he => hrest e (List.mem_cons_of_mem _ he)
    simp only [GroupRun.start]
    split
    · exact ih h hlater
    · split
      · exact ih h hlater
      · split
        · exact h
        · -- A step that is not awaited is left too, behind those that were started before it.
          apply ih
          · exact h
          · intro e he
            rw [← List.append_assoc, List.mem_append, List.mem_singleton] at he
            obtain he | rfl := he
            · exact hlater e he
            · exact hrest entry List.mem_cons_self

theorem Earns.poll (h : g.Earns steps base) (hplaced : ∀ e ∈ g.unsettled, steps[e.1]? = some e.2) :
    (g.poll rules current t).1.Earns steps base := by
  simp only [unsettled] at hplaced
  simp only [GroupRun.poll]
  split
  next rest hs =>
    simp only [hs] at hplaced
    exact h.start hplaced
  next i s rest hs =>
    simp only [hs] at hplaced
    split
    · exact h
    next answer hlookup =>
      split
      · apply Earns.start (h.settle (hplaced (i, s) List.mem_cons_self) (mem_answers_of_lookup hlookup))
        rw [detached_settle]
        exact fun e he => hplaced e (List.mem_cons_of_mem _ he)
      · exact h
  next rest hs =>
    simp only [hs] at hplaced
    exact h.join hplaced
  next hs => exact h

theorem Earns.deliver (h : g.Earns steps base) : (g.deliver index answer).Earns steps base := by
  obtain ⟨writes, hcontext, hwrites⟩ := h
  refine ⟨writes, hcontext, fun w hw => ?_⟩
  obtain ⟨i, s, a, hat, ha, hwritten⟩ := hwrites w hw
  exact ⟨i, s, a, hat, List.mem_append_left _ ha, hwritten⟩

/-- Whatever happens to a group, it notes its steps, and writes only what successful answers say. -/
theorem earns_meets (name : String) (epoch : Nat) (group : StepGroup) (base : Context)
    (course : List Incidence) :
    (course.foldl (meet rules) (of name epoch group base)).Earns group.steps base := by
  suffices h : ∀ g : GroupRun, g.Ledger rules name group.steps g.unsettled → g.Earns group.steps base →
      (course.foldl (meet rules) g).Earns group.steps base from
    h _ (ledger_of name epoch group base) ⟨[], rfl, nofun⟩
  induction course with
  | nil => exact fun _ _ h => h
  | cons i rest ih =>
    intro g hledger h
    cases i with
    | goesOn current around => exact ih _ hledger.poll (h.poll hledger.placed)
    | answered index answer => exact ih _ hledger.deliver h.deliver

end GroupRun

/-- The class of an envelope is decided by all of its levels, and a group writes only what steps of its own take out
of answers that have succeeded at every level. -/
theorem Verdict.classified_by_levels :
    (∀ authKeys e, FitsLevels authKeys e) ∧
      ∀ (rules : RunRules) (name : String) (epoch : Nat) (group : StepGroup) (base : Context)
        (course : List Incidence),
        (course.foldl (GroupRun.meet rules) (.of name epoch group base)).Earns group.steps base :=
  ⟨fitsLevels, fun _ name epoch group base course => GroupRun.earns_meets name epoch group base course⟩

end BackOffice
