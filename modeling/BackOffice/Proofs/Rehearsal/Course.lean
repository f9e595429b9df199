import BackOffice.Proofs.Run.Stretch
import BackOffice.Rehearsal.Play

/-!
Courses of a rehearsal. Between two awaits one thing happens: a command is carried out, a machine goes on, or
a machine that is over is concluded. Every list of such cues is a possible course, with the answers in any
order. What callers learn of a course is told as a list of incidents. The rounds of a rehearsal, with hooks and
queued calls, are courses of this kind.
-/

namespace BackOffice

/-- What no handle, no machine and no screen depends on. -/
structure Backdrop where
  surroundings : Surroundings
  backend : Replay
  hooks : Keyed (List Hook)
  events : List Event
  asides : List Reply
  queue : List QueuedCall

/-- What happens in a rehearsal between two awaits. Machines go by their numbers, groups by their places. -/
inductive Cue where
  | ask (c : Command)
  | poll (ticket place : Nat) (t : Trace)
  | answer (ticket place index : Nat) (answer : Answer)
  | close (ticket : Nat)
  | conclude (ticket : Nat)
  | elsewhere (b : Backdrop)

/-- What callers learn. -/
inductive Incident where
  /-- A command was asked for that works on the handle at a place. -/
  | asked (c : Command) (handle : Option Nat)
  /-- A command was answered at once. -/
  | answered (c : Command) (r : Reply)
  /-- A command has set a machine to work. -/
  | began (c : Command) (ticket : Nat) (purpose : Purpose)
  /-- A machine has come to its end, and whoever waited for it is answered. -/
  | ended (ticket : Nat) (purpose : Purpose) (r : Reply)

/-- How a graph goes on while the count of runs stands still. -/
inductive GraphRun.GoesOn (rules : RunRules) (counter : EpochCounter) (g : GraphRun) : GraphRun → Prop
  | poll (place : Nat) (t : Trace) : GoesOn rules counter g (g.poll rules counter place t).1
  | deliver (place index : Nat) (answer : Answer) : GoesOn rules counter g (g.deliver place index answer)
  | close : GoesOn rules counter g (g.close rules counter)

namespace Rehearsal

/-- The place of the handle on which a command begins a run, goes on with one or hands one in. A flag that is
flipped is written on a handle of its own. -/
def usedBy (s : Rehearsal) : Command → Option Nat
  | .run handle .. | .begin handle .. => s.handles.place? handle
  | .goOn name _ | .commit name => (s.runs.find? name).map Prod.fst
  | .loadMenu => s.permission.map fun p => p.2.1
  | .selectNode _ => s.permission.map fun p => p.2.2
  | .refresh | .setPage _ | .setPageSize _ | .requestPage _ => s.table.map Prod.snd
  | _ => none

/-- The machines that a command sets to work. -/
def newMachines (s : Rehearsal) (c : Command) : List (Nat × Machine) :=
  (s.command c).1.machines.drop s.machines.length

/-- Lets the graph of a machine change. -/
def moved (s : Rehearsal) (ticket : Nat) (f : Machine → GraphRun) : Rehearsal :=
  match s.machine? ticket with
  | some m => s.setMachine ticket { m with graph := f m }
  | none => s

/-- The rehearsal without a machine. -/
def without (s : Rehearsal) (ticket : Nat) : Rehearsal :=
  { s with machines := s.machines.filter (·.1 ≠ ticket) }

/-- A machine that has come to its end. -/
def over? (s : Rehearsal) (ticket : Nat) : Option Machine :=
  (s.machine? ticket).filter (·.graph.isFinished)

/-- What one cue does. A cue that cannot be taken changes nothing. -/
def take (s : Rehearsal) : Cue → Rehearsal
  | .ask c => (s.command c).1
  | .poll ticket place t => s.moved ticket fun m => (m.graph.poll s.rules (s.counterAt m.handle) place t).1
  | .answer ticket place index answer => s.moved ticket fun m => m.graph.deliver place index answer
  | .close ticket => s.moved ticket fun m => m.graph.close s.rules (s.counterAt m.handle)
  | .conclude ticket => match s.over? ticket with
    | some m => ((s.without ticket).finish m).1
    | none => s
  | .elsewhere b =>
    { s with
      surroundings := b.surroundings
      backend := b.backend
      hooks := b.hooks
      events := b.events
      asides := b.asides
      queue := b.queue }

/-- What callers learn of a command as it is carried out. -/
def tellsOf (s : Rehearsal) (c : Command) : List Incident :=
  .asked c (s.usedBy c) ::
    ((match (s.command c).2 with
      | .done r => [.answered c r]
      | _ => []) ++ (s.newMachines c).map fun e => .began c e.1 e.2.purpose)

/-- What callers learn of a cue. -/
def tells (s : Rehearsal) : Cue → List Incident
  | .ask c => s.tellsOf c
  | .conclude ticket => match s.over? ticket with
    | some m => [.ended ticket m.purpose ((s.without ticket).finish m).2]
    | none => []
  | _ => []

/-- Cues, one after another. -/
def after (s : Rehearsal) (cues : List Cue) : Rehearsal := cues.foldl take s

/-- What callers learn of a course. -/
def told : Rehearsal → List Cue → List Incident
  | _, [] => []
  | s, cue :: rest => s.tells cue ++ (s.take cue).told rest

variable {s s' : Rehearsal} {ticket : Nat} {m : Machine}

theorem after_append (s : Rehearsal) (front back : List Cue) :
    s.after (front ++ back) = (s.after front).after back := List.foldl_append

theorem told_append (s : Rehearsal) (front back : List Cue) :
    s.told (front ++ back) = s.told front ++ (s.after front).told back := by
  induction front generalizing s with
  | nil => rfl
  | cons cue rest ih => simp only [List.cons_append, told, ih, List.append_assoc, after, List.foldl_cons]

theorem mem_tellsOf {c : Command} {i : Incident} (hi : i ∈ s.tellsOf c) :
    i = .asked c (s.usedBy c) ∨ (∃ r, i = .answered c r) ∨ ∃ k purpose, i = .began c k purpose := by
  obtain rfl | hi := List.mem_cons.1 hi
  · exact .inl rfl
  obtain hi | hi := List.mem_append.1 hi
  · split at hi
    next r _ => exact .inr (.inl ⟨r, List.mem_singleton.1 hi⟩)
    next => cases hi
  · obtain ⟨e, -, rfl⟩ := List.mem_map.1 hi
    exact .inr (.inr ⟨e.1, e.2.purpose, rfl⟩)

/-! ### What one cue can do -/

/-- What becomes of a rehearsal by one cue, and what callers learn of it. -/
inductive Takes (s : Rehearsal) : Rehearsal → List Incident → Prop
  | command (c : Command) : Takes s (s.command c).1 (s.tellsOf c)
  | moved {ticket : Nat} {m : Machine} {g : GraphRun} (hm : (ticket, m) ∈ s.machines)
      (hg : m.graph.GoesOn s.rules (s.counterAt m.handle) g) :
      Takes s (s.setMachine ticket { m with graph := g }) []
  | concluded {ticket : Nat} {m : Machine} (hm : (ticket, m) ∈ s.machines)
      (hover : m.graph.isFinished = true) :
      Takes s ((s.without ticket).finish m).1 [.ended ticket m.purpose ((s.without ticket).finish m).2]
  | elsewhere (b : Backdrop) : Takes s (s.take (.elsewhere b)) []
  | nothing : Takes s s []

theorem mem_machines_of_machine? (h : s.machine? ticket = some m) : (ticket, m) ∈ s.machines := by
  obtain ⟨front, back, hsplit, -⟩ := List.lookup_eq_some_iff.1 h
  simp [hsplit]

theorem takes_moved {f : Machine → GraphRun}
    (hf : ∀ m : Machine, m.graph.GoesOn s.rules (s.counterAt m.handle) (f m)) :
    Takes s (s.moved ticket f) [] := by
  rw [Rehearsal.moved]
  split
  next m hm => exact .moved (mem_machines_of_machine? hm) (hf m)
  next => exact .nothing

theorem takes (s : Rehearsal) (cue : Cue) : Takes s (s.take cue) (s.tells cue) := by
  cases cue with
  | ask c => exact .command c
  | poll ticket place t => exact takes_moved fun m => .poll place t
  | answer ticket place index answer => exact takes_moved fun m => .deliver place index answer
  | close ticket => exact takes_moved fun m => .close
  | conclude ticket =>
    simp only [take, tells]
    split
    next m hm =>
      obtain ⟨hm, hover⟩ := Option.filter_eq_some_iff.1 hm
      exact .concluded (mem_machines_of_machine? hm) hover
    next => exact .nothing
  | elsewhere b => exact .elsewhere b

/-- A response with some data. -/
def dataPayload (data : Json) : Json :=
  .obj [("status", .ofNat 200), ("payload", .obj [("dataresponse", .obj [("data", data)])])]

/-- A response of a backend that has failed. -/
def failurePayload : Json := .obj [("status", .ofNat 500)]

/-- The call of a run of one step is made and answered, and the run comes to its end. -/
def roundTrip (ticket : Nat) (answer : Json) : List Cue :=
  let t : Trace := { surroundings := ⟨.epoch, ⟨"id", 0⟩⟩ }
  [.poll ticket 0 t, .answer ticket 0 0 (.ok answer), .poll ticket 0 t, .close ticket, .conclude ticket]

/-- What every cue keeps holds after any course. -/
theorem after_of_takes {P : List Incident → Rehearsal → Prop}
    (hstep : ∀ {told s s' new}, Takes s s' new → P told s → P (told ++ new) s') (h : P [] s)
    (cues : List Cue) : P (s.told cues) (s.after cues) := by
  have hrun (before : List Incident) (s : Rehearsal) (h : P before s) :
      P (before ++ s.told cues) (s.after cues) := by
    induction cues generalizing before s with
    | nil => rwa [told, List.append_nil]
    | cons cue rest ih =>
      rw [told, ← List.append_assoc]
      exact ih _ _ (hstep (takes s cue) h)
  exact hrun [] s h

/-! ### Rounds are courses -/

/-- Whether some course leads from one rehearsal to another. -/
def LeadsTo (s s' : Rehearsal) : Prop := ∃ cues, s.after cues = s'

namespace LeadsTo

theorem refl (s : Rehearsal) : s.LeadsTo s := ⟨[], rfl⟩

theorem cue (s : Rehearsal) (cue : Cue) : s.LeadsTo (s.take cue) := ⟨[cue], rfl⟩

theorem trans {s'' : Rehearsal} (h : s.LeadsTo s') (h' : s'.LeadsTo s'') : s.LeadsTo s'' := by
  obtain ⟨front, rfl⟩ := h
  obtain ⟨back, rfl⟩ := h'
  exact ⟨front ++ back, after_append s front back⟩

theorem foldl {α β : Type} {f : Rehearsal → β → α → Rehearsal × β}
    (hf : ∀ (s : Rehearsal) b a, s.LeadsTo (f s b a).1) (l : List α) (s : Rehearsal) (b : β) :
    s.LeadsTo (l.foldl (fun p a => f p.1 p.2 a) (s, b)).1 := by
  induction l generalizing s b with
  | nil => exact refl s
  | cons a rest ih => exact (hf s b a).trans (ih _ _)

end LeadsTo

theorem leadsTo_call (s : Rehearsal) (c : Call) : s.LeadsTo (s.call c).1 :=
  .cue s (.elsewhere ⟨s.surroundings, (s.call c).1.backend, (s.call c).1.hooks, s.events, s.asides, s.queue⟩)

theorem leadsTo_takeTrace (s : Rehearsal) (ticket group : Nat) (t : Trace) :
    s.LeadsTo (s.takeTrace ticket group t) :=
  .cue s (.elsewhere ⟨t.surroundings, s.backend, s.hooks, (s.takeTrace ticket group t).events, s.asides,
    (s.takeTrace ticket group t).queue⟩)

theorem leadsTo_asides (s : Rehearsal) (asides : List Reply) : s.LeadsTo { s with asides } :=
  .cue s (.elsewhere ⟨s.surroundings, s.backend, s.hooks, s.events, asides, s.queue⟩)

theorem leadsTo_queue (s : Rehearsal) (queue : List QueuedCall) : s.LeadsTo { s with queue } :=
  .cue s (.elsewhere ⟨s.surroundings, s.backend, s.hooks, s.events, s.asides, queue⟩)

theorem leadsTo_deliver (s : Rehearsal) (ticket group index : Nat) (answer : Answer) :
    s.LeadsTo (s.deliver ticket group index answer) := by
  have heq : s.deliver ticket group index answer = s.take (.answer ticket group index answer) := by
    simp only [deliver, take, Rehearsal.moved]
    split <;> simp [*]
  rw [heq]
  exact .cue s _

theorem leadsTo_polled (hm : s.machine? ticket = some m) (group : Nat) (t : Trace) :
    s.LeadsTo (s.setMachine ticket
      { m with graph := (m.graph.poll s.rules (s.counterAt m.handle) group t).1 }) := by
  have h := LeadsTo.cue s (.poll ticket group t)
  rwa [take, Rehearsal.moved, hm] at h

theorem leadsTo_closed (hm : s.machine? ticket = some m) :
    s.LeadsTo (s.setMachine ticket { m with graph := m.graph.close s.rules (s.counterAt m.handle) }) := by
  have h := LeadsTo.cue s (.close ticket)
  rwa [take, Rehearsal.moved, hm] at h

theorem leadsTo_conclude (hm : s.machine? ticket = some m) (hover : m.graph.isFinished = true) :
    s.LeadsTo (s.conclude ticket m).1 := by
  have h := LeadsTo.cue s (.conclude ticket)
  have hover? : s.over? ticket = some m := by rw [over?, hm, Option.filter_some, hover, if_pos rfl]
  rwa [take, hover?] at h

/-- Whether all that is carried on in a round of some depth is carried on by cues. -/
structure CarriedByCues (n : Nat) : Prop where
  activity (s : Rehearsal) (a : Activity) : s.LeadsTo (poll n s a).1
  machine (s : Rehearsal) (ticket : Nat) (calls : List (Nat × PendingCall)) :
    s.LeadsTo (pollMachine n s ticket calls).1
  group (s : Rehearsal) (ticket group : Nat) (calls : List (Nat × PendingCall)) :
    s.LeadsTo (pollGroup n s ticket group calls).1
  call (s : Rehearsal) (c : PendingCall) : s.LeadsTo (pollCall n s c).1

namespace CarriedByCues

variable {n : Nat}

theorem activity_succ (h : CarriedByCues n) (s : Rehearsal) (a : Activity) :
    s.LeadsTo (poll (n + 1) s a).1 := by
  cases a with
  | ready c =>
    have hcommand := LeadsTo.cue s (.ask c)
    simp only [take] at hcommand
    simp only [poll]
    rcases hc : s.command c with ⟨s', r | ticket | commands⟩
    all_goals rw [hc] at hcommand
    · exact hcommand
    · exact hcommand.trans (h.machine s' ticket [])
    · exact hcommand.trans (h.activity s' _)
  | running ticket calls => exact h.machine s ticket calls
  | together parts =>
    simp only [poll]
    exact LeadsTo.foldl (f := fun s done a => ((poll n s a).1, done ++ [(poll n s a).2]))
      (fun s _ a => h.activity s a) parts s []
  | done r => exact .refl s

theorem machine_succ (h : CarriedByCues n) (s : Rehearsal) (ticket : Nat) (calls : List (Nat × PendingCall)) :
    s.LeadsTo (pollMachine (n + 1) s ticket calls).1 := by
  simp only [pollMachine]
  cases hm : s.machine? ticket with
  | none => exact .refl s
  | some m =>
    by_cases hover : m.graph.isFinished = true
    · simp only [hover, if_true]
      exact leadsTo_conclude hm hover
    · simp only [hover, Bool.false_eq_true, if_false]
      have hgroups := LeadsTo.foldl (f := fun s calls group => pollGroup n s ticket group calls)
        (fun s calls group => h.group s ticket group calls) m.graph.active s calls
      rcases hs : m.graph.active.foldl (fun p group => pollGroup n p.1 ticket group p.2) (s, calls)
        with ⟨s', calls'⟩
      rw [hs] at hgroups
      simp only
      -- What the groups have set off may have changed the machine.
      cases hm' : s'.machine? ticket with
      | none => exact hgroups
      | some m' =>
        by_cases hactive : m'.graph.active.isEmpty = true
        · simp only [hactive, if_true]
          exact (hgroups.trans (leadsTo_closed hm')).trans (h.machine _ ticket [])
        · simp only [hactive, Bool.false_eq_true, if_false]
          exact hgroups

theorem group_succ (h : CarriedByCues n) (s : Rehearsal) (ticket group : Nat)
    (calls : List (Nat × PendingCall)) : s.LeadsTo (pollGroup (n + 1) s ticket group calls).1 := by
  simp only [pollGroup]
  cases hc : calls.lookup group with
  | some c =>
    have hcall := h.call s c
    rcases hs : pollCall n s c with ⟨s', ⟨index, during, delay, answer⟩, came⟩
    rw [hs] at hcall
    simp only [hs]
    cases came with
    | true => exact (hcall.trans (leadsTo_deliver s' ticket group index answer)).trans (h.group _ _ _ _)
    | false => exact hcall
  | none =>
    cases hm : s.machine? ticket with
    | none => exact .refl s
    | some m =>
      have hpolled := (leadsTo_polled hm group { surroundings := s.surroundings }).trans
        (leadsTo_takeTrace _ ticket group
          (m.graph.poll s.rules (s.counterAt m.handle) group { surroundings := s.surroundings }).2)
      simp only
      split
      · exact hpolled
      · exact (hpolled.trans (leadsTo_call _ _)).trans (h.group _ _ _ _)

theorem call_succ (h : CarriedByCues n) (s : Rehearsal) (c : PendingCall) :
    s.LeadsTo (pollCall (n + 1) s c).1 := by
  obtain ⟨index, during, delay, answer⟩ := c
  cases during with
  | cons a rest =>
    have hduring := h.activity s a
    simp only [pollCall]
    rcases hs : poll n s a with ⟨s', a'⟩
    rw [hs] at hduring
    cases a' with
    | done r => exact (hduring.trans (leadsTo_asides s' _)).trans (h.call _ _)
    | ready c => exact hduring
    | running ticket calls => exact hduring
    | together parts => exact hduring
  | nil => cases delay <;> exact .refl s

end CarriedByCues

/-- Whatever is carried on in a round, it is carried on by cues. -/
theorem carriedByCues (n : Nat) : CarriedByCues n := by
  induction n with
  | zero =>
    constructor <;> intros <;> simp only [poll, pollMachine, pollGroup, pollCall] <;> exact .refl _
  | succ n ih => exact ⟨ih.activity_succ, ih.machine_succ, ih.group_succ, ih.call_succ⟩

/-- Making the calls that are queued is a course. -/
theorem leadsTo_makeQueued (n : Nat) :
    (∀ s : Rehearsal, s.LeadsTo (makeQueued n s)) ∧
      ∀ (s : Rehearsal) q c, s.LeadsTo (settleCall n s q c) := by
  induction n with
  | zero =>
    refine ⟨fun s => ?_, fun s q c => ?_⟩ <;> simp only [makeQueued, settleCall] <;> exact .refl s
  | succ n ih =>
    obtain ⟨hqueued, hsettle⟩ := ih
    refine ⟨fun s => ?_, fun s q c => ?_⟩
    · simp only [makeQueued]
      split
      · exact .refl s
      next q rest hq =>
        split
        next hwants =>
          exact (((leadsTo_queue s rest).trans (leadsTo_call _ q.call)).trans (hsettle _ _ _)).trans (hqueued _)
        next => exact (leadsTo_queue s rest).trans (hqueued _)
    · have h := (carriedByCues n).call s c
      simp only [settleCall]
      rcases hs : pollCall n s c with ⟨s', ⟨index, during, delay, answer⟩, came⟩
      rw [hs] at h
      cases came with
      | true => exact h.trans (leadsTo_deliver s' q.ticket q.group index answer)
      | false => exact (h.trans (hqueued s')).trans (hsettle _ _ _)

theorem leadsTo_rounds (n : Nat) (s : Rehearsal) (a : Activity) : s.LeadsTo (s.rounds n a).1 := by
  induction n generalizing s a with
  | zero => exact .refl s
  | succ n ih =>
    have h := (carriedByCues n).activity s a
    simp only [rounds]
    rcases hs : poll n s a with ⟨s', a'⟩
    rw [hs] at h
    cases a' with
    | done r => exact h
    | ready c => exact (h.trans ((leadsTo_makeQueued n).1 s')).trans (ih _ _)
    | running ticket calls => exact (h.trans ((leadsTo_makeQueued n).1 s')).trans (ih _ _)
    | together parts => exact (h.trans ((leadsTo_makeQueued n).1 s')).trans (ih _ _)

/-- Whatever a command and its hooks set off, it is a course. -/
theorem leadsTo_scene (allowance : Nat) (s : Rehearsal) (c : Command) :
    s.LeadsTo (s.scene allowance c).1 := by
  have hbare : s.LeadsTo { s with asides := [], events := [] } :=
    .cue s (.elsewhere ⟨s.surroundings, s.backend, s.hooks, [], [], s.queue⟩)
  exact hbare.trans (leadsTo_rounds allowance _ _)

end Rehearsal

end BackOffice
