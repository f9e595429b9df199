import BackOffice.Proofs.Response.Classes

/-!
The status that is reported when no level of an envelope tells of an error. The error that is made up then has the
status of the envelope itself, although the levels in it may be what has failed. So it is a status that has failed
exactly when the envelope's own has.
-/

namespace BackOffice

namespace Envelope

variable {e : Envelope}

/-- Whether no level tells of an error. -/
def Unexplained (e : Envelope) : Prop := ∀ d : Envelope, d.Within e → d.errors = []

theorem unexplained_iff : e.Unexplained ↔ e.allErrors = [] := by
  rw [allErrors_eq_flatMap_levels, List.flatMap_eq_nil_iff]
  exact forall_congr' fun d => imp_congr_left mem_levels.symm

theorem Unexplained.firstError? (h : e.Unexplained) : e.firstError? = none := by
  rw [firstError?_eq_head?, unexplained_iff.1 h]
  rfl

/-- Without errors it is up to the statuses whether an envelope has succeeded. -/
theorem Unexplained.isSuccess_iff (h : e.Unexplained) :
    e.isSuccess = true ↔ ∀ d : Envelope, d.Within e → d.status = 200 := by
  rw [isSuccess_iff_levels]
  exact forall₂_congr fun d hd => and_iff_left (h d hd)

end Envelope

namespace Verdict

variable {authKeys : List String} {e : Envelope} {entry : ErrorEntry} {a b : Nat}

theorem failedWith_inj : failedWith a = failedWith b ↔ a = b := by
  refine ⟨fun h => ?_, congrArg failedWith⟩
  have hinfo : "request failed with status " ++ toString a = "request failed with status " ++ toString b :=
    congrArg ErrorEntry.info h
  exact Nat.repr_inj.1 (String.append_right_inj _ |>.1 hinfo)

/-- Without errors only the envelope's own status ends the session. -/
theorem isAuth_iff_of_unexplained (h : e.Unexplained) : isAuth authKeys e = true ↔ e.status = 401 := by
  rw [isAuth, Envelope.unexplained_iff.1 h]
  simp

/-- What is said of an envelope without errors. -/
theorem of_unexplained (h : e.Unexplained) :
    of authKeys e =
      if e.status = 401 then auth unauthorized
      else if e.isSuccess then success
      else execution (failedWith e.status) := by
  rw [of, h.firstError?, Option.getD_none, Option.getD_none]
  exact if_congr (isAuth_iff_of_unexplained h) rfl rfl

theorem of_unexplained_eq_execution_iff (h : e.Unexplained) :
    of authKeys e = execution entry ↔
      entry = failedWith e.status ∧ e.status ≠ 401 ∧ ∃ d : Envelope, d.Within e ∧ d.status ≠ 200 := by
  have hfailed : ¬e.isSuccess = true ↔ ∃ d : Envelope, d.Within e ∧ d.status ≠ 200 := by
    rw [h.isSuccess_iff]
    push Not
    rfl
  rw [of_unexplained h, ← hfailed]
  by_cases hauth : e.status = 401
  · simp [hauth]
  · by_cases hsuccess : e.isSuccess = true
    · simp [hauth, hsuccess]
    · simp [hauth, hsuccess, eq_comm]

/-- An envelope without errors is a failure when some level of it has another status than 200, unless its own status
ends the session. What is reported then is its own status; that is one of a level that has failed if and only if the
envelope's own is not 200. -/
theorem reported_status_failed_iff (authKeys : List String) (e : Envelope) (h : e.Unexplained) :
    ((∃ entry, of authKeys e = execution entry) ↔
        e.status ≠ 401 ∧ ∃ d : Envelope, d.Within e ∧ d.status ≠ 200) ∧
      ∀ entry, of authKeys e = execution entry →
        entry = failedWith e.status ∧
          ((∃ d : Envelope, d.Within e ∧ d.status ≠ 200 ∧ entry = failedWith d.status) ↔ e.status ≠ 200) := by
  simp only [of_unexplained_eq_execution_iff h]
  refine ⟨by simp, ?_⟩
  rintro entry ⟨rfl, -, -⟩
  refine ⟨rfl, fun ⟨d, _, hd, heq⟩ => ?_, fun hself => ⟨e, .self e, hself, rfl⟩⟩
  rwa [failedWith_inj.1 heq]

/-- A call that failed, with a call on its way that succeeded and one that failed otherwise. -/
def failedCall : Envelope := .mk 503 none [] (some [.mk 200 none [] none none]) (some [.mk 404 none [] none none])

theorem failedCall_reports_own_status :
    failedCall.Unexplained ∧ of defaultAuthKeys failedCall = execution (failedWith 503) ∧
      ∃ d : Envelope, d.Within failedCall ∧ d.status ≠ 200 ∧ failedWith 503 = failedWith d.status := by
  have hsilent : failedCall.Unexplained := Envelope.unexplained_iff.2 rfl
  have hclass : of defaultAuthKeys failedCall = execution (failedWith 503) := rfl
  have hreport := (reported_status_failed_iff defaultAuthKeys failedCall hsilent).2 _ hclass
  exact ⟨hsilent, hclass, hreport.2.2 (by decide)⟩

/-- A call that only failed because of a call on its way. -/
def failedOnTheWay : Envelope := .mk 200 none [] (some [.mk 500 none [] none none]) none

/-- The failure of a call on the way is reported as a failure with the status of success. -/
theorem nested_failure_reports_success :
    failedOnTheWay.Unexplained ∧ of defaultAuthKeys failedOnTheWay = execution (failedWith 200) ∧
      ¬∃ d : Envelope, d.Within failedOnTheWay ∧ d.status ≠ 200 ∧ failedWith 200 = failedWith d.status := by
  refine ⟨Envelope.unexplained_iff.2 rfl, rfl, ?_⟩
  rintro ⟨d, -, hd, heq⟩
  exact hd (failedWith_inj.1 heq).symm

end Verdict

end BackOffice
