import BackOffice.Proofs.Rehearsal.Shifts

/-!
Lanes of a rehearsal. The requests for a page, the loads of a menu and the loads of an entry each begin their
runs on one handle. As long as nothing else works on that handle, a request is refused as superseded exactly
when a later one of its lane has begun before it came to its end.
-/

namespace BackOffice

namespace Incident

/-- The number of a machine that has begun. -/
def begun? : Incident → Option Nat
  | began _ ticket _ => some ticket
  | _ => none

/-- Whether each incident stands in a relation to those before it. -/
def InTurn (P : List Incident → Incident → Prop) (told : List Incident) : Prop :=
  ∀ before i rest, told = before ++ i :: rest → P before i

variable {P : List Incident → Incident → Prop} {told new : List Incident}

theorem inTurn_nil : InTurn P [] := by
  intro before i rest h
  simp at h

theorem InTurn.append (h : InTurn P told)
    (hnew : ∀ before i rest, new = before ++ i :: rest → P (told ++ before) i) : InTurn P (told ++ new) := by
  intro before i rest heq
  obtain ⟨more, rfl, hsplit⟩ | ⟨more, rfl, hsplit⟩ := List.append_eq_append_iff.1 heq
  · exact hnew more i rest hsplit
  · cases more with
    | nil => simpa using hnew [] i rest hsplit.symm
    | cons j more =>
      obtain ⟨rfl, -⟩ := List.cons.inj hsplit
      exact h before i more rfl

end Incident

namespace Lane

/-- Whether nothing but a lane works on the handle at a place. -/
def Owns (ℓ : Lane) (place : Nat) (told : List Incident) : Prop :=
  ∀ c, Incident.asked c (some place) ∈ told → c.lane? = some ℓ

/-- Whether an incident is none on the handle at a place, or one of a lane. -/
def permits (ℓ : Lane) (place : Nat) : Incident → Bool
  | .asked c (some q) => q != place || c.lane? == some ℓ
  | _ => true

theorem owns_iff {ℓ : Lane} {place : Nat} {told : List Incident} :
    ℓ.Owns place told ↔ told.all (ℓ.permits place) = true := by
  rw [List.all_eq_true]
  constructor
  · intro h i hi
    unfold permits
    split
    next c q =>
      by_cases hq : q = place
      · subst hq
        simp [h c hi]
      · simp [hq]
    next => rfl
  · intro h c hc
    simpa [permits] using h _ hc

instance (ℓ : Lane) (place : Nat) (told : List Incident) : Decidable (ℓ.Owns place told) :=
  decidable_of_iff _ owns_iff.symm

/-- Whether a machine of a lane has begun after the one with this number. -/
def Later (ℓ : Lane) (told : List Incident) (ticket : Nat) : Prop :=
  ∃ c newer purpose, Incident.began c newer purpose ∈ told ∧ purpose.lane? = some ℓ ∧ ticket < newer

end Lane

/-! ### Errors of what is not superseded -/

theorem ScreenError.ofFailure_ne_stale (forceLogout : Bool) (e : UserError) :
    ofFailure forceLogout e ≠ .stale := by
  rw [ofFailure]
  split <;> simp

theorem GroupOutcome.failure_ne_stale {o : GroupOutcome} (h : o.status ≠ .stale) : o.failure ≠ .stale := by
  rw [failure, if_neg h]
  exact ScreenError.ofFailure_ne_stale _ _

theorem GraphOutcome.failure_ne_stale {o : GraphOutcome} (h : o.stale = false) : o.failure ≠ .stale := by
  rw [failure, h, if_neg Bool.false_ne_true]
  exact ScreenError.ofFailure_ne_stale _ _

theorem PermissionScreen.rowsOf_ne_stale {o : GroupOutcome} (h : o.status ≠ .stale) {e : ScreenError}
    (he : rowsOf o = .error e) : e ≠ .stale := by
  rw [rowsOf] at he
  split at he
  · cases he
  · cases he
    exact o.failure_ne_stale h

namespace Rehearsal

variable {s s' : Rehearsal} {ℓ : Lane} {place ticket : Nat} {told new : List Incident} {m : Machine}
  {purpose : Purpose}

theorem committing_of_isStale {f : Rehearsal → Rehearsal × Reply}
    (h : m.graph.run.isStale (s.counterAt m.handle) = true) : s.committing m f = (s, .refused .stale) := by
  have hcommit : (s.handleAt m.handle).commit m.graph.run = (s.handleAt m.handle, none) := by
    rw [Handle.commit, if_pos (by exact h)]
  rw [committing, hcommit]

theorem committing_of_current {f : Rehearsal → Rehearsal × Reply}
    (h : m.graph.run.isStale (s.counterAt m.handle) = false) :
    s.committing m f =
      f (s.setHandle m.handle { s.handleAt m.handle with committed := m.graph.run.context.clearJournal }) := by
  have hcurrent : ¬ m.graph.run.isStale (s.handleAt m.handle).counter = true := by
    simpa [counterAt] using h
  rw [committing, Handle.commit, if_neg hcurrent]

/-- What is superseded changes nothing at its end. -/
theorem finish_of_isStale (hlane : m.purpose.lane? = some ℓ) (hℓ : ℓ ≠ .write)
    (h : m.graph.run.isStale (s.counterAt m.handle) = true) : s.finish m = (s, .refused .stale) := by
  cases hp : m.purpose with
  | caller name copy work => simp [hp, Purpose.lane?] at hlane
  | run name work => simp [hp, Purpose.lane?] at hlane
  | write w => simp [hp, Purpose.lane?, hℓ.symm] at hlane
  | menu => simp only [finish, hp, committing_of_isStale h]
  | node n => simp only [finish, hp, committing_of_isStale h]
  | page p => simp only [finish, hp, committing_of_isStale h]

theorem takePermission_ne_stale {change : PermissionScreen → Except ScreenError PermissionScreen}
    {reply : PermissionScreen → Reply} (hchange : ∀ p e, change p = .error e → e ≠ .stale)
    (hreply : ∀ p, reply p ≠ .refused .stale) : (s.takePermission change reply).2 ≠ .refused .stale := by
  rw [takePermission]
  split
  · simp
  next p places hp =>
    split
    next e he => simpa using hchange p e he
    next => exact hreply _

theorem finish_ne_stale (hlane : m.purpose.lane? = some ℓ)
    (h : m.graph.run.isStale (s.counterAt m.handle) = false) (hfresh : m.graph.Fresh) :
    (s.finish m).2 ≠ .refused .stale := by
  have hstatus (name : String) : ((m.graph.outcome (s.counterAt m.handle)).only name).status ≠ .stale :=
    hfresh.status_only _ name
  have hmap {o : GroupOutcome} {f : List Json → PermissionScreen} {e : ScreenError} (ho : o.status ≠ .stale)
      (he : (PermissionScreen.rowsOf o).map f = .error e) : e ≠ .stale := by
    cases hrows : PermissionScreen.rowsOf o with
    | ok rows => simp [hrows, Except.map] at he
    | error e' =>
      rw [hrows] at he
      cases he
      exact PermissionScreen.rowsOf_ne_stale ho hrows
  cases hp : m.purpose with
  | caller name copy work => simp [hp, Purpose.lane?] at hlane
  | run name work => simp [hp, Purpose.lane?] at hlane
  | menu =>
    simp only [finish, hp, committing_of_current h]
    exact takePermission_ne_stale (fun p e he => hmap (hstatus _) he) (by simp)
  | node n =>
    simp only [finish, hp, committing_of_current h]
    exact takePermission_ne_stale (fun p e he => hmap (hstatus _) he) (by simp)
  | write w =>
    simp only [finish, hp]
    split
    · simp
    next p places hscreen =>
      simp only [PermissionScreen.acceptWrite]
      split
      next row hrow =>
        split at hrow
        · simp
        · cases hrow
      next e he =>
        split at he
        · cases he
        · cases he
          simpa using GroupOutcome.failure_ne_stale (by simp)
  | page p =>
    simp only [finish, hp, committing_of_current h]
    split
    · simp
    next t place ht =>
      simp only [TableScreen.accept]
      split
      next e he =>
        split at he
        · cases he
        · cases he
          simpa using GraphOutcome.failure_ne_stale h
      next => simp

/-! ### Which machines are under way -/

theorem mem_setMachine {e : Nat × Machine} (he : e ∈ (s.setMachine ticket m).machines) :
    e = (ticket, m) ∨ e ∈ s.machines := by
  obtain ⟨e', he', rfl⟩ := List.mem_map.1 he
  split
  · exact .inl rfl
  · exact .inr he'

theorem mem_without {e : Nat × Machine} : e ∈ (s.without ticket).machines ↔ e ∈ s.machines ∧ e.1 ≠ ticket := by
  simp [without]

theorem mem_launch {run : Run} {graph : WorkflowGraph} {e : Nat × Machine} :
    e ∈ (s.launch place run graph purpose).1.machines ↔
      e ∈ s.machines ∨ e = (s.tickets, ⟨place, purpose, .start s.rules (s.counterAt place) graph run⟩) := by
  simp [launch]

theorem mem_append_talk {i : Incident} (hnew : ∀ i ∈ new, i.isTalk = true) (hi : i.isTalk = false) :
    i ∈ told ++ new ↔ i ∈ told := by
  rw [List.mem_append, or_iff_left]
  intro h
  rw [hnew i h] at hi
  cases hi

/-- What has been told fits what is under way: machines get their numbers in turn, those under way have begun,
and those that have ended are not under way. -/
structure Accounts (told : List Incident) (s : Rehearsal) : Prop where
  tickets {c : Command} {ticket : Nat} {purpose : Purpose} (h : .began c ticket purpose ∈ told) :
    ticket < s.tickets
  order : (told.filterMap Incident.begun?).Pairwise (· < ·)
  running {e : Nat × Machine} (he : e ∈ s.machines) : ∃ c, .began c e.1 e.2.purpose ∈ told
  finished {ticket : Nat} {purpose : Purpose} {r : Reply} (h : .ended ticket purpose r ∈ told) :
    (∃ c, .began c ticket purpose ∈ told) ∧ ∀ e ∈ s.machines, e.1 ≠ ticket

theorem accounts_nil (hmachines : s.machines = []) : Accounts [] s where
  tickets h := absurd h List.not_mem_nil
  order := List.Pairwise.nil
  running he := by simp [hmachines] at he
  finished h := absurd h List.not_mem_nil

theorem Accounts.lt_tickets (h : Accounts told s) {e : Nat × Machine} (he : e ∈ s.machines) :
    e.1 < s.tickets := by
  obtain ⟨c, hc⟩ := h.running he
  exact h.tickets hc

theorem Accounts.still {used : Option Nat} (h : Accounts told s) (hs : s.Spares s' used)
    (hnew : ∀ i ∈ new, i.isTalk = true) : Accounts (told ++ new) s' where
  tickets hi := by
    rw [mem_append_talk hnew rfl] at hi
    rw [hs.tickets]
    exact h.tickets hi
  order := by
    have hbegun : new.filterMap Incident.begun? = [] := by
      rw [List.filterMap_eq_nil_iff]
      intro i hi
      have htalk := hnew i hi
      cases i <;> first | rfl | cases htalk
    rw [List.filterMap_append, hbegun, List.append_nil]
    exact h.order
  running he := by
    rw [hs.machines] at he
    obtain ⟨c, hc⟩ := h.running he
    exact ⟨c, List.mem_append_left _ hc⟩
  finished hi := by
    rw [mem_append_talk hnew rfl] at hi
    obtain ⟨⟨c, hc⟩, hgone⟩ := h.finished hi
    refine ⟨⟨c, List.mem_append_left _ hc⟩, ?_⟩
    rw [hs.machines]
    exact hgone

/-- A machine that begins gets the next number. -/
theorem Accounts.launched {s₁ : Rehearsal} {c : Command} {used handle : Option Nat} {run : Run}
    {graph : WorkflowGraph} (h : Accounts told s) (hs : s.Spares s₁ used) :
    Accounts (told ++ [.asked c handle, .began c s.tickets purpose])
      (s₁.launch place run graph purpose).1 where
  tickets hi := by
    simp only [List.mem_append, List.mem_cons, List.not_mem_nil, or_false, reduceCtorEq, false_or,
      Incident.began.injEq] at hi
    simp only [launch, hs.tickets]
    obtain hi | ⟨-, rfl, -⟩ := hi
    · have hlt := h.tickets hi
      omega
    · omega
  order := by
    simp only [List.filterMap_append, List.filterMap_cons, Incident.begun?, List.filterMap_nil]
    refine List.pairwise_append.2 ⟨h.order, List.pairwise_singleton _ _, fun k hk k' hk' => ?_⟩
    rw [List.mem_singleton.1 hk']
    obtain ⟨i, hi, hbegun⟩ := List.mem_filterMap.1 hk
    cases i with
    | began c ticket purpose =>
      cases hbegun
      exact h.tickets hi
    | asked | answered | ended => cases hbegun
  running he := by
    obtain he | rfl := mem_launch.1 he
    · rw [hs.machines] at he
      obtain ⟨c, hc⟩ := h.running he
      exact ⟨c, List.mem_append_left _ hc⟩
    · exact ⟨c, by simp [hs.tickets]⟩
  finished hi := by
    simp only [List.mem_append, List.mem_cons, List.not_mem_nil, or_false, reduceCtorEq] at hi
    obtain ⟨⟨c, hc⟩, hgone⟩ := h.finished hi
    refine ⟨⟨c, List.mem_append_left _ hc⟩, fun e he => ?_⟩
    obtain he | rfl := mem_launch.1 he
    · rw [hs.machines] at he
      exact hgone e he
    · have hlt := h.tickets hc
      simp only [hs.tickets]
      omega

theorem Accounts.moved {g : GraphRun} (h : Accounts told s) (hm : (ticket, m) ∈ s.machines) :
    Accounts told (s.setMachine ticket { m with graph := g }) where
  tickets hi := h.tickets hi
  order := h.order
  running he := by
    obtain rfl | he := mem_setMachine he
    · obtain ⟨c, hc⟩ := h.running hm
      exact ⟨c, hc⟩
    · exact h.running he
  finished hi := by
    obtain ⟨hbegan, hgone⟩ := h.finished hi
    refine ⟨hbegan, fun e he => ?_⟩
    obtain rfl | he := mem_setMachine he
    · have hne := hgone _ hm
      exact hne
    · exact hgone e he

theorem Accounts.concluded {r : Reply} (h : Accounts told s) (hm : (ticket, m) ∈ s.machines)
    (hs : (s.without ticket).Settles s') : Accounts (told ++ [.ended ticket m.purpose r]) s' where
  tickets hi := by
    simp only [List.mem_append, List.mem_singleton, reduceCtorEq, or_false] at hi
    rw [hs.tickets]
    exact h.tickets hi
  order := by
    simp only [List.filterMap_append, List.filterMap_cons, Incident.begun?, List.filterMap_nil,
      List.append_nil]
    exact h.order
  running he := by
    rw [hs.machines, mem_without] at he
    obtain ⟨c, hc⟩ := h.running he.1
    exact ⟨c, List.mem_append_left _ hc⟩
  finished hi := by
    rw [hs.machines]
    obtain hi | hi := List.mem_append.1 hi
    · obtain ⟨⟨c, hc⟩, hgone⟩ := h.finished hi
      exact ⟨⟨c, List.mem_append_left _ hc⟩, fun e he => hgone e (mem_without.1 he).1⟩
    · obtain ⟨rfl, rfl, -⟩ := Incident.ended.inj (List.mem_singleton.1 hi)
      obtain ⟨c, hc⟩ := h.running hm
      exact ⟨⟨c, List.mem_append_left _ hc⟩, fun e he => (mem_without.1 he).2⟩

theorem Accounts.shifts (h : Accounts told s) (hs : Shifts s s' new) : Accounts (told ++ new) s' := by
  cases hs with
  | still hspares hused hnew => exact h.still hspares hnew
  | launched hspares hknown hlane hplace hrun => exact h.launched hspares
  | moved hm hg =>
    rw [List.append_nil]
    exact h.moved hm
  | concluded hm hover => exact h.concluded hm (settles_finish _ _)

end Rehearsal

namespace GraphRun.GoesOn

variable {rules : RunRules} {counter : EpochCounter} {g g' : GraphRun}

theorem epoch (h : g.GoesOn rules counter g') : g'.run.epoch = g.run.epoch := by
  cases h with
  | poll place t => rw [run_poll]
  | deliver place index answer => rw [run_deliver]
  | close => exact epoch_close

theorem fresh (h : g.GoesOn rules counter g') (hc : counter.isCurrent g.run.epoch = true) (hg : g.Fresh) :
    g'.Fresh := by
  cases h with
  | poll place t => exact fresh_poll hc hg
  | deliver place index answer => exact fresh_deliver hg
  | close => exact fresh_close hc hg

end GraphRun.GoesOn

namespace Lane

open Rehearsal (Shifts Accounts)

variable {s s' : Rehearsal} {ℓ : Lane} {place q ticket : Nat} {told new : List Incident}

/-! ### One lane -/

theorem Owns.of_append (h : ℓ.Owns q (told ++ new)) : ℓ.Owns q told :=
  fun c hc => h c (List.mem_append_left _ hc)

theorem later_append_talk (hnew : ∀ i ∈ new, i.isTalk = true) :
    ℓ.Later (told ++ new) ticket ↔ ℓ.Later told ticket := by
  have hbegan (c : Command) (k : Nat) (purpose : Purpose) :
      .began c k purpose ∈ told ++ new ↔ .began c k purpose ∈ told := Rehearsal.mem_append_talk hnew rfl
  simp only [Later, hbegan]

theorem later_append_ended {k : Nat} {purpose : Purpose} {r : Reply} :
    ℓ.Later (told ++ [.ended k purpose r]) ticket ↔ ℓ.Later told ticket := by
  simp [Later]

theorem later_append_began {c : Command} {handle : Option Nat} {k : Nat} {purpose : Purpose} :
    ℓ.Later (told ++ [.asked c handle, .began c k purpose]) ticket ↔
      ℓ.Later told ticket ∨ purpose.lane? = some ℓ ∧ ticket < k := by
  constructor
  · rintro ⟨c', k', purpose', hmem, hlane, hlt⟩
    obtain hmem | hmem := List.mem_append.1 hmem
    · exact .inl ⟨c', k', purpose', hmem, hlane, hlt⟩
    · obtain ⟨-, rfl, rfl⟩ : c' = c ∧ k' = k ∧ purpose' = purpose := by simpa using hmem
      exact .inr ⟨hlane, hlt⟩
  · rintro (⟨c', k', purpose', hmem, hlane, hlt⟩ | ⟨hlane, hlt⟩)
    · exact ⟨c', k', purpose', List.mem_append_left _ hmem, hlane, hlt⟩
    · exact ⟨c, k, purpose, by simp, hlane, hlt⟩

/-- Whether a machine is the newest of its handle if none of its lane has begun since, and superseded
otherwise. -/
def Ranks (ℓ : Lane) (told : List Incident) (counter : EpochCounter) (ticket : Nat) (g : GraphRun) : Prop :=
  (ℓ.Later told ticket → g.run.epoch < counter.current) ∧
    (¬ ℓ.Later told ticket → g.run.epoch = counter.current ∧ g.Fresh)

theorem Ranks.le {counter : EpochCounter} {g : GraphRun} (h : ℓ.Ranks told counter ticket g) :
    g.run.epoch ≤ counter.current := by
  by_cases hlater : ℓ.Later told ticket
  · exact Nat.le_of_lt (h.1 hlater)
  · exact Nat.le_of_eq (h.2 hlater).1

/-- Whether the machines on a handle are those of a lane, and the newest of them is the newest run. -/
structure Holds (ℓ : Lane) (q : Nat) (told : List Incident) (s : Rehearsal) : Prop where
  lane : s.laneAt ℓ = some q
  valid : q < s.handles.cells.length
  inLane {e : Nat × Machine} (he : e ∈ s.machines) : e.2.handle = q ↔ e.2.purpose.lane? = some ℓ
  ranks {e : Nat × Machine} (he : e ∈ s.machines) (hq : e.2.handle = q) :
    ℓ.Ranks told (s.counterAt q) e.1 e.2.graph

theorem ne_write (hlane : s.laneAt ℓ = some q) : ℓ ≠ .write := by
  rintro rfl
  simp [Rehearsal.laneAt] at hlane

theorem usedBy_of_lane? {c : Command} (hlane : s.laneAt ℓ = some q) (hc : c.lane? = some ℓ) :
    s.usedBy c = some q := by
  rw [← hlane]
  cases c <;> simp only [Command.lane?, Option.some.injEq, reduceCtorEq] at hc <;> subst hc <;> rfl

theorem Holds.isStale_iff (h : ℓ.Holds q told s) {e : Nat × Machine} (he : e ∈ s.machines)
    (hq : e.2.handle = q) :
    (e.2.graph.run.isStale (s.counterAt q) = true ↔ ℓ.Later told e.1) ∧
      (e.2.graph.run.isStale (s.counterAt q) = false → e.2.graph.Fresh) := by
  obtain ⟨hlater, hnewest⟩ := h.ranks he hq
  by_cases hl : ℓ.Later told e.1
  · have hlt := hlater hl
    have hstale : e.2.graph.run.isStale (s.counterAt q) = true := by
      have hne : (s.counterAt q).current ≠ e.2.graph.run.epoch := by omega
      simp [Run.isStale, EpochCounter.isCurrent, hne]
    exact ⟨by simp [hstale, hl], by simp [hstale]⟩
  · obtain ⟨heq, hfresh⟩ := hnewest hl
    have hstale : e.2.graph.run.isStale (s.counterAt q) = false := by
      simp [Run.isStale, EpochCounter.isCurrent, heq, hfresh.1.1]
    exact ⟨by simp [hstale, hl], fun _ => hfresh⟩

theorem Holds.still {used : Option Nat} (h : ℓ.Holds q told s) (hs : s.Spares s' used)
    (hused : used ≠ some q) (hnew : ∀ i ∈ new, i.isTalk = true) : ℓ.Holds q (told ++ new) s' where
  lane := (hs.lanes ℓ).trans h.lane
  valid := Nat.lt_of_lt_of_le h.valid hs.handles
  inLane he := by
    rw [hs.machines] at he
    exact h.inLane he
  ranks he hq := by
    rw [hs.machines] at he
    rw [Ranks, later_append_talk hnew, Rehearsal.counterAt, hs.handle h.valid hused]
    exact h.ranks he hq

/-- A machine of the lane supersedes those before it, and one elsewhere leaves the lane alone. -/
theorem Holds.launched {s₁ : Rehearsal} {c : Command} {run : Run} {graph : WorkflowGraph} {purpose : Purpose}
    (h : ℓ.Holds q told s) (haccounts : Accounts told s) (hs : s.Spares s₁ (some place))
    (hpurpose : purpose.lane? = c.lane?) (hplace : place = q ↔ c.lane? = some ℓ)
    (hrun : c.lane? ≠ none → place < s₁.handles.cells.length →
      run.stale = false ∧ run.epoch = (s₁.counterAt place).current ∧
        (s₁.counterAt place).current = (s.counterAt place).current + 1) :
    ℓ.Holds q (told ++ [.asked c (s.usedBy c), .began c s.tickets purpose])
      (s₁.launch place run graph purpose).1 where
  lane := (hs.lanes ℓ).trans h.lane
  valid := Nat.lt_of_lt_of_le h.valid hs.handles
  inLane he := by
    obtain he | rfl := Rehearsal.mem_launch.1 he
    · rw [hs.machines] at he
      exact h.inLane he
    · rwa [hpurpose]
  ranks {e} he hq := by
    have hcounter : (s₁.launch place run graph purpose).1.counterAt q = s₁.counterAt q := rfl
    rw [hcounter, Ranks, later_append_began]
    obtain he | rfl := Rehearsal.mem_launch.1 he
    · rw [hs.machines] at he
      have hranks := h.ranks he hq
      have hlt : e.1 < s.tickets := haccounts.lt_tickets he
      by_cases hlane : c.lane? = some ℓ
      -- The count has gone up by one, so that all that was under way is superseded.
      · obtain rfl := hplace.2 hlane
        obtain ⟨-, -, hadvanced⟩ := hrun (by simp [hlane]) (Nat.lt_of_lt_of_le h.valid hs.handles)
        have hle := hranks.le
        refine ⟨fun _ => by omega, fun hnot => absurd (.inr ⟨hpurpose.trans hlane, hlt⟩) hnot⟩
      · have hne : some place ≠ some q := fun heq => hlane (hplace.1 (Option.some.inj heq))
        have hsame : s₁.counterAt q = s.counterAt q := congrArg Handle.counter (hs.handle h.valid hne)
        have hnone : ¬ (purpose.lane? = some ℓ ∧ e.1 < s.tickets) := fun hand => hlane (hpurpose ▸ hand.1)
        rw [hsame, or_iff_left hnone]
        exact hranks
    · -- The machine that has just begun is the newest of all.
      obtain rfl : place = q := hq
      have hlane : c.lane? = some ℓ := hplace.1 rfl
      obtain ⟨hstale, hepoch, -⟩ := hrun (by simp [hlane]) (Nat.lt_of_lt_of_le h.valid hs.handles)
      have hnot : ¬ (ℓ.Later told s₁.tickets ∨ purpose.lane? = some ℓ ∧ s₁.tickets < s.tickets) := by
        rw [hs.tickets]
        rintro (⟨c', k, purpose', hmem, -, hlt⟩ | ⟨-, hlt⟩)
        · have := haccounts.tickets hmem
          omega
        · omega
      refine ⟨fun hlater => absurd hlater hnot, fun _ => ⟨?_, ?_⟩⟩
      · rw [GraphRun.run_start, hepoch]
      · exact GraphRun.fresh_start (by simp [EpochCounter.isCurrent, hepoch]) hstale

theorem Holds.moved {m : Machine} {g : GraphRun} (h : ℓ.Holds q told s) (hm : (ticket, m) ∈ s.machines)
    (hg : m.graph.GoesOn s.rules (s.counterAt m.handle) g) :
    ℓ.Holds q told (s.setMachine ticket { m with graph := g }) where
  lane := by
    rw [← h.lane]
    cases ℓ <;> rfl
  valid := h.valid
  inLane he := by
    obtain rfl | he := Rehearsal.mem_setMachine he
    · have hiff := h.inLane hm
      exact hiff
    · exact h.inLane he
  ranks he hq := by
    have hcounter : (s.setMachine ticket { m with graph := g }).counterAt q = s.counterAt q := rfl
    rw [hcounter]
    obtain rfl | he := Rehearsal.mem_setMachine he
    · obtain rfl : m.handle = q := hq
      obtain ⟨hlater, hnewest⟩ := h.ranks hm rfl
      rw [Ranks, hg.epoch]
      refine ⟨hlater, fun hnot => ?_⟩
      obtain ⟨hepoch, hfresh⟩ := hnewest hnot
      have hcurrent : (s.counterAt m.handle).isCurrent m.graph.run.epoch = true := by
        rw [EpochCounter.isCurrent, beq_iff_eq]
        exact hepoch.symm
      exact ⟨hepoch, hg.fresh hcurrent hfresh⟩
    · exact h.ranks he hq

theorem Holds.concluded {k : Nat} {purpose : Purpose} {r : Reply} (h : ℓ.Holds q told s)
    (hs : (s.without ticket).Settles s') : ℓ.Holds q (told ++ [.ended k purpose r]) s' where
  lane := by
    rw [hs.lanes, ← h.lane]
    cases ℓ <;> rfl
  valid := by
    rw [hs.handles]
    exact h.valid
  inLane he := by
    rw [hs.machines, Rehearsal.mem_without] at he
    exact h.inLane he.1
  ranks he hq := by
    rw [hs.machines, Rehearsal.mem_without] at he
    rw [Ranks, later_append_ended, hs.counter]
    exact h.ranks he.1 hq

/-- A lane goes on while nothing else works on its handle. -/
theorem Holds.shifts (h : ℓ.Holds q told s) (haccounts : Accounts told s) (hs : Shifts s s' new)
    (howns : ℓ.Owns q (told ++ new)) : ℓ.Holds q (told ++ new) s' := by
  cases hs with
  | still hspares hused hnew =>
    apply h.still hspares _ hnew
    intro hq
    obtain ⟨c, hc, -, hlane⟩ := hused q hq
    rw [howns c (List.mem_append_right _ hc)] at hlane
    cases hlane
  | launched hspares hknown hlane hplace hrun =>
    rename_i c place run graph purpose
    -- A machine is set to work on the handle by the commands of the lane, and by no others.
    refine h.launched haccounts hspares hlane ⟨fun heq => ?_, fun hc => ?_⟩ hrun
    · subst heq
      split at hplace
      · have := h.valid
        omega
      · exact howns c (by simp [hplace])
    · have hwrite : c.lane? ≠ some .write := by
        rw [hc]
        simpa using ne_write h.lane
      rw [if_neg hwrite, usedBy_of_lane? h.lane hc] at hplace
      exact (Option.some.inj hplace).symm
  | moved hm hg =>
    rw [List.append_nil]
    exact h.moved hm hg
  | concluded hm hover => exact h.concluded (Rehearsal.settles_finish _ _)

/-- Whether a request is answered as it should be: as superseded if a later one of its lane has begun, and
otherwise as one that began after all that were answered before. -/
structure Judges (ℓ : Lane) (before : List Incident) (k : Nat) (r : Reply) : Prop where
  stale : r = .refused .stale ↔ ℓ.Later before k
  inOrder (hr : r ≠ .refused .stale) {k' : Nat} {purpose : Purpose} {r' : Reply}
    (hmem : .ended k' purpose r' ∈ before) (hlane : purpose.lane? = some ℓ) : k' < k

/-- Whether all requests of a lane are answered as they should be. -/
def Judged (ℓ : Lane) : List Incident → Prop :=
  Incident.InTurn fun before i => ∀ k purpose r, i = .ended k purpose r → purpose.lane? = some ℓ →
    ℓ.Judges before k r

theorem Holds.judges {m : Machine} (h : ℓ.Holds q told s) (haccounts : Accounts told s)
    (hm : (ticket, m) ∈ s.machines) (hlane : m.purpose.lane? = some ℓ) :
    ℓ.Judges told ticket ((s.without ticket).finish m).2 := by
  have hq : m.handle = q := (h.inLane hm).2 hlane
  obtain ⟨hiff, hfresh⟩ := h.isStale_iff hm hq
  have hcounter : (s.without ticket).counterAt m.handle = s.counterAt q := by rw [hq]; rfl
  have hstale : ((s.without ticket).finish m).2 = .refused .stale ↔ ℓ.Later told ticket := by
    rw [← hiff]
    constructor
    · intro hr
      cases hcurrent : m.graph.run.isStale (s.counterAt q) with
      | true => rfl
      | false =>
        have hne := Rehearsal.finish_ne_stale (s := s.without ticket) hlane (by rwa [hcounter]) (hfresh hcurrent)
        exact absurd hr hne
    · intro hstale
      rw [Rehearsal.finish_of_isStale hlane (ne_write h.lane) (by rwa [hcounter])]
  refine ⟨hstale, fun hr k' purpose r' hmem hlane' => ?_⟩
  -- What was answered before is no longer under way, and had it begun later, this one would be superseded.
  obtain ⟨⟨c, hbegan⟩, hgone⟩ := haccounts.finished hmem
  have hne : ticket ≠ k' := hgone _ hm
  have hnot : ¬ ticket < k' := fun hlt => hr (hstale.2 ⟨c, k', purpose, hbegan, hlane', hlt⟩)
  omega

/-- A request that is refused as superseded changes nothing. -/
theorem Holds.take_conclude {purpose : Purpose} (h : ℓ.Holds q told s)
    (htells : s.tells (.conclude ticket) = [.ended ticket purpose (.refused .stale)])
    (hlane : purpose.lane? = some ℓ) : s.take (.conclude ticket) = s.without ticket := by
  simp only [Rehearsal.tells] at htells
  simp only [Rehearsal.take]
  split at htells
  next m hm =>
    obtain ⟨-, rfl, hr⟩ := Incident.ended.inj (List.cons.inj htells).1
    have hmem := Rehearsal.mem_machines_of_machine? (Option.filter_eq_some_iff.1 hm).1
    have hq : m.handle = q := (h.inLane hmem).2 hlane
    obtain ⟨-, hfresh⟩ := h.isStale_iff hmem hq
    have hcounter : (s.without ticket).counterAt m.handle = s.counterAt q := by rw [hq]; rfl
    cases hstale : m.graph.run.isStale (s.counterAt q) with
    | true => simp only [Rehearsal.finish_of_isStale hlane (ne_write h.lane) (hcounter ▸ hstale)]
    | false =>
      have hne := Rehearsal.finish_ne_stale (s := s.without ticket) hlane (hcounter ▸ hstale) (hfresh hstale)
      exact absurd hr hne
  next => cases htells

theorem judged_shifts (h : ℓ.Holds q told s) (haccounts : Accounts told s) (hs : Shifts s s' new)
    (hj : ℓ.Judged told) : ℓ.Judged (told ++ new) := by
  apply Incident.InTurn.append hj
  intro before i rest hnew k purpose r hi hlane
  subst hi
  -- Only a machine that is concluded is answered.
  cases hs with
  | still hspares hused htalk =>
    have := htalk (.ended k purpose r) (by simp [hnew])
    cases this
  | launched hspares hknown hlane hplace hrun =>
    have hmem : Incident.ended k purpose r ∈ before ++ .ended k purpose r :: rest := by simp
    rw [← hnew] at hmem
    simp at hmem
  | moved hm hg => simp at hnew
  | concluded hm hover =>
    cases before with
    | nil =>
      obtain ⟨rfl, rfl, rfl⟩ := Incident.ended.inj (List.cons.inj hnew).1
      rw [List.append_nil]
      exact h.judges haccounts hm hlane
    | cons j before => simp at hnew

theorem holds_start (hmachines : s.machines = []) (hlane : s.laneAt ℓ = some q)
    (hvalid : q < s.handles.cells.length) : ℓ.Holds q [] s :=
  ⟨hlane, hvalid, fun he => by simp [hmachines] at he, fun he => by simp [hmachines] at he⟩

/-- After every course in which nothing else works on the handle of a lane. -/
theorem holds_after (hmachines : s.machines = []) (hlane : s.laneAt ℓ = some q)
    (hvalid : q < s.handles.cells.length) (cues : List Cue) :
    Accounts (s.told cues) (s.after cues) ∧
      (ℓ.Owns q (s.told cues) → ℓ.Holds q (s.told cues) (s.after cues) ∧ ℓ.Judged (s.told cues)) := by
  refine Rehearsal.after_of_takes (P := fun told s =>
    Accounts told s ∧ (ℓ.Owns q told → ℓ.Holds q told s ∧ ℓ.Judged told)) ?_
      ⟨Rehearsal.accounts_nil hmachines,
        fun _ => ⟨holds_start hmachines hlane hvalid, Incident.inTurn_nil⟩⟩ cues
  intro told s s' new htakes h
  have hs := Rehearsal.shifts htakes
  refine ⟨h.1.shifts hs, fun howns => ?_⟩
  obtain ⟨hholds, hjudged⟩ := h.2 howns.of_append
  exact ⟨hholds.shifts h.1 hs howns, judged_shifts hholds h.1 hs hjudged⟩

end Lane

end BackOffice
