import BackOffice.Proofs.Rehearsal.Lanes

/-!
Writes of flags on handles of their own. A flag is written on a new handle that no name, no run, no screen and no
other machine ever gets to stand for, so that no run can take the place of a write.
-/

namespace BackOffice

namespace Rehearsal

variable {s s' : Rehearsal} {c : Command} {place q : Nat} {told new : List Incident} {m : Machine}

/-- Whether something other than the write of a flag stands for the handle at a place. -/
inductive Refers (s : Rehearsal) (place : Nat) : Prop
  | known (h : s.Knows place)
  | lane (ℓ : Lane) (h : s.laneAt ℓ = some place)
  | machine (e : Nat × Machine) (he : e ∈ s.machines) (hplace : e.2.handle = place)
      (hwrite : e.2.purpose.lane? ≠ some .write)

/-- Whether all that stands for handles stands for handles that are there. -/
def Grounded (s : Rehearsal) : Prop := ∀ place, s.Refers place → place < s.handles.cells.length

/-- Whether a machine runs on a handle of its own, in the newest run. -/
structure OnItsOwn (s : Rehearsal) (m : Machine) : Prop where
  valid : m.handle < s.handles.cells.length
  alone : ¬ s.Refers m.handle
  newest : m.graph.run.epoch = (s.counterAt m.handle).current
  fresh : m.graph.Fresh

/-- Whether flags are written apart from everything else. -/
structure WritesApart (s : Rehearsal) : Prop where
  grounded : s.Grounded
  apart {e : Nat × Machine} (he : e ∈ s.machines) (hwrite : e.2.purpose.lane? = some .write) :
    s.OnItsOwn e.2

/-- A run works on a handle that something stands for. -/
theorem refers_of_usedBy (h : s.usedBy c = some place) : s.Refers place := by
  cases c with
  | run handle context work | begin handle name value => exact .known (.inl ⟨handle, h⟩)
  | goOn name work | commit name =>
    obtain ⟨entry, hrun, rfl⟩ := Option.map_eq_some_iff.1 h
    exact .known (.inr ⟨name, entry.2, hrun⟩)
  | loadMenu => exact .lane .menu h
  | selectNode node => exact .lane .node h
  | refresh | setPage index | setPageSize size | requestPage raw => exact .lane .page h
  | _ => cases h

theorem OnItsOwn.isStale (h : s.OnItsOwn m) : m.graph.run.isStale (s.counterAt m.handle) = false := by
  have hcurrent : (s.counterAt m.handle).isCurrent m.graph.run.epoch = true := by
    rw [EpochCounter.isCurrent, h.newest]
    exact beq_self_eq_true _
  exact GraphRun.isStale_eq_false hcurrent h.fresh.1.1

theorem refers_of_spares {used : Option Nat} (hs : s.Spares s' used) (h : s'.Refers q) :
    s.Refers q ∨ s.handles.cells.length ≤ q ∧ q < s'.handles.cells.length := by
  cases h with
  | known h => exact (hs.known h).imp_left .known
  | lane ℓ h => exact .inl (.lane ℓ (hs.lanes ℓ ▸ h))
  | machine e he hplace hwrite => exact .inl (.machine e (hs.machines ▸ he) hplace hwrite)

theorem refers_of_launch {s₁ : Rehearsal} {run : Run} {graph : WorkflowGraph} {purpose : Purpose}
    (hs : s.Spares s₁ (some place)) (hknown : ∀ q, s₁.Knows q → s.Knows q)
    (h : (s₁.launch place run graph purpose).1.Refers q) :
    s.Refers q ∨ q = place ∧ purpose.lane? ≠ some .write := by
  cases h with
  | known h => exact .inl (.known (hknown q h))
  | lane ℓ h => exact .inl (.lane ℓ (hs.lanes ℓ ▸ h))
  | machine e he hplace hwrite =>
    obtain he | rfl := mem_launch.1 he
    · exact .inl (.machine e (hs.machines ▸ he) hplace hwrite)
    · exact .inr ⟨hplace.symm, hwrite⟩

theorem WritesApart.still {used : Option Nat} (h : s.WritesApart) (hs : s.Spares s' used)
    (hused : ∀ q, used = some q → s.Refers q) : s'.WritesApart where
  grounded q hq := by
    have hlength := hs.handles
    obtain hq | ⟨-, hlt⟩ := refers_of_spares hs hq
    · have := h.grounded q hq
      omega
    · exact hlt
  apart {e} he hwrite := by
    rw [hs.machines] at he
    have hown := h.apart he hwrite
    have hne : used ≠ some e.2.handle := fun heq => hown.alone (hused _ heq)
    -- A handle that got known is new, and that of the write was there before.
    refine ⟨Nat.lt_of_lt_of_le hown.valid hs.handles, fun hrefers => ?_, ?_, hown.fresh⟩
    · obtain hrefers | ⟨hle, -⟩ := refers_of_spares hs hrefers
      · exact hown.alone hrefers
      · have := hown.valid
        omega
    · rw [counterAt, hs.handle hown.valid hne]
      exact hown.newest

theorem WritesApart.launched {s₁ : Rehearsal} {run : Run} {graph : WorkflowGraph} {purpose : Purpose}
    (h : s.WritesApart) (hs : s.Spares s₁ (some place)) (hknown : ∀ q, s₁.Knows q → s.Knows q)
    (hlane : purpose.lane? = c.lane?)
    (hplace : if c.lane? = some .write then
      place = s.handles.cells.length ∧ place < s₁.handles.cells.length else s.usedBy c = some place)
    (hrun : c.lane? ≠ none → place < s₁.handles.cells.length →
      run.stale = false ∧ run.epoch = (s₁.counterAt place).current ∧
        (s₁.counterAt place).current = (s.counterAt place).current + 1) :
    (s₁.launch place run graph purpose).1.WritesApart where
  grounded q hq := by
    have hlength := hs.handles
    obtain hq | ⟨rfl, hwrite⟩ := refers_of_launch hs hknown hq
    · exact Nat.lt_of_lt_of_le (h.grounded q hq) hlength
    · rw [if_neg (hlane ▸ hwrite)] at hplace
      exact Nat.lt_of_lt_of_le (h.grounded q (refers_of_usedBy hplace)) hlength
  apart {e} he hwrite := by
    obtain he | rfl := mem_launch.1 he
    · rw [hs.machines] at he
      have hown := h.apart he hwrite
      have hne : place ≠ e.2.handle := by
        intro heq
        split at hplace
        · have := hown.valid
          omega
        · exact hown.alone (heq ▸ refers_of_usedBy hplace)
      have hused : some place ≠ some e.2.handle := fun heq => hne (Option.some.inj heq)
      refine ⟨Nat.lt_of_lt_of_le hown.valid hs.handles, fun hrefers => ?_, ?_, hown.fresh⟩
      · obtain hrefers | ⟨heq, -⟩ := refers_of_launch hs hknown hrefers
        · exact hown.alone hrefers
        · exact hne heq.symm
      · have hcounter : (s₁.launch place run graph purpose).1.counterAt e.2.handle = s.counterAt e.2.handle :=
          congrArg Handle.counter (hs.handle hown.valid hused)
        rw [hcounter]
        exact hown.newest
    · -- A flag that is about to be written gets a handle for which nothing can stand yet.
      have hc : c.lane? = some .write := hlane.symm.trans hwrite
      rw [if_pos hc] at hplace
      obtain ⟨rfl, hlt⟩ := hplace
      obtain ⟨hstale, hepoch, -⟩ := hrun (by simp [hc]) hlt
      refine ⟨hlt, fun hrefers => ?_, ?_, ?_⟩
      · obtain hrefers | ⟨-, hnot⟩ := refers_of_launch hs hknown hrefers
        · exact Nat.lt_irrefl _ (h.grounded _ hrefers)
        · exact hnot hwrite
      · exact (congrArg Run.epoch GraphRun.run_start).trans hepoch
      · exact GraphRun.fresh_start (by simp [EpochCounter.isCurrent, hepoch]) hstale

theorem refers_of_setMachine {ticket : Nat} {g : GraphRun} (hm : (ticket, m) ∈ s.machines)
    (h : (s.setMachine ticket { m with graph := g }).Refers q) : s.Refers q := by
  cases h with
  | known h => exact .known h
  | lane ℓ h => exact .lane ℓ (by cases ℓ <;> exact h)
  | machine e he hplace hwrite =>
    obtain rfl | he := mem_setMachine he
    · exact .machine _ hm hplace hwrite
    · exact .machine e he hplace hwrite

theorem WritesApart.moved {ticket : Nat} {g : GraphRun} (h : s.WritesApart) (hm : (ticket, m) ∈ s.machines)
    (hg : m.graph.GoesOn s.rules (s.counterAt m.handle) g) :
    (s.setMachine ticket { m with graph := g }).WritesApart where
  grounded q hq := h.grounded q (refers_of_setMachine hm hq)
  apart {e} he hwrite := by
    obtain rfl | he := mem_setMachine he
    · have hown : s.OnItsOwn m := h.apart hm hwrite
      refine ⟨hown.valid, fun hrefers => hown.alone (refers_of_setMachine hm hrefers),
        hg.epoch.trans hown.newest, hg.fresh ?_ hown.fresh⟩
      rw [EpochCounter.isCurrent, hown.newest]
      exact beq_self_eq_true _
    · have hown := h.apart he hwrite
      exact ⟨hown.valid, fun hrefers => hown.alone (refers_of_setMachine hm hrefers), hown.newest, hown.fresh⟩

/-- A machine that ends makes no handle known but the one that it ran on. -/
theorem knows_finish (h : (s.finish m).1.Knows q) :
    s.Knows q ∨ q = m.handle ∧ m.purpose.lane? ≠ some .write := by
  by_cases hrun : ∃ name work, m.purpose = .run name work
  · obtain ⟨name, work, hp⟩ := hrun
    simp only [finish, hp] at h
    obtain rfl | h := knows_of_put h
    · exact .inr ⟨rfl, by simp [hp, Purpose.lane?]⟩
    · exact .inl h
  -- Only a run that is handed back is put under a name.
  · left
    have hsame := apply_finish (s := s) (m := m) (fun s => (s.handles.names, s.runs)) (fun _ => rfl)
      (fun _ _ => rfl) (fun hp => absurd hp hrun) (fun _ _ _ => rfl) fun _ _ _ => rfl
    obtain ⟨hnames, hruns⟩ := Prod.mk.inj hsame
    simpa only [Knows, Shared.place?, hnames, hruns] using h

theorem refers_of_concluded {ticket : Nat} (hm : (ticket, m) ∈ s.machines)
    (h : ((s.without ticket).finish m).1.Refers q) : s.Refers q := by
  have hs := settles_finish (s.without ticket) m
  cases h with
  | known h =>
    obtain h | ⟨rfl, hwrite⟩ := knows_finish h
    · exact .known h
    · exact .machine _ hm rfl hwrite
  | lane ℓ h =>
    rw [hs.lanes] at h
    exact .lane ℓ (by cases ℓ <;> exact h)
  | machine e he hplace hwrite =>
    rw [hs.machines, mem_without] at he
    exact .machine e he.1 hplace hwrite

theorem WritesApart.concluded {ticket : Nat} (h : s.WritesApart) (hm : (ticket, m) ∈ s.machines) :
    ((s.without ticket).finish m).1.WritesApart where
  grounded q hq := by
    rw [(settles_finish (s.without ticket) m).handles]
    exact h.grounded q (refers_of_concluded hm hq)
  apart {e} he hwrite := by
    have hs := settles_finish (s.without ticket) m
    rw [hs.machines, mem_without] at he
    have hown := h.apart he.1 hwrite
    refine ⟨hs.handles ▸ hown.valid, fun hrefers => hown.alone (refers_of_concluded hm hrefers), ?_, hown.fresh⟩
    rw [hs.counter]
    exact hown.newest

theorem WritesApart.shifts (h : s.WritesApart) (hs : Shifts s s' new) : s'.WritesApart := by
  cases hs with
  | still hspares hused hnew =>
    refine h.still hspares fun q hq => ?_
    obtain ⟨c, -, hplace, -⟩ := hused q hq
    exact refers_of_usedBy hplace
  | launched hspares hknown hlane hplace hrun => exact h.launched hspares hknown hlane hplace hrun
  | moved hm hg => exact h.moved hm hg
  | concluded hm hover => exact h.concluded hm

/-- In every course flags are written apart from everything else. -/
theorem writesApart_after (hmachines : s.machines = []) (hgrounded : s.Grounded) (cues : List Cue) :
    (s.after cues).WritesApart := by
  have hstart : s.WritesApart := ⟨hgrounded, fun he => by simp [hmachines] at he⟩
  refine after_of_takes (P := fun _ s => s.WritesApart) ?_ hstart cues
  intro told s s' new hs h
  exact h.shifts (Rehearsal.shifts hs)

end Rehearsal

end BackOffice
