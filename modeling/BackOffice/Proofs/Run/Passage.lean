import BackOffice.Proofs.Run.GroupCourse
import BackOffice.Proofs.Run.Verdicts

/-!
A graph at work, in any surroundings and with any answers, while newer runs may begin at any time. What its groups
send and tell is noted by their places, and so is when each of them begins and ends. As long as no newer run begins,
a group begins once, when all that it comes after have ended and with their writes in its context, and ends once.
-/

namespace BackOffice

/-- The entries of one place. -/
def ofPlace {α : Type} (entries : List (Nat × α)) (place : Nat) : List α :=
  (entries.filter fun e => e.1 = place).map Prod.snd

section OfPlace

variable {α : Type} (entries : List (Nat × α)) (more : List α) {place q : Nat}

theorem ofPlace_append_self (place : Nat) :
    ofPlace (entries ++ more.map (place, ·)) place = ofPlace entries place ++ more := by
  have hall : (more.map (place, ·)).filter (fun e => e.1 = place) = more.map (place, ·) := by
    rw [List.filter_eq_self]
    simp
  rw [ofPlace, List.filter_append, List.map_append, hall, List.map_map]
  exact congrArg (_ ++ ·) more.map_id

variable {entries} in
theorem mem_ofPlace {e : Nat × α} (h : e ∈ entries) : e.2 ∈ ofPlace entries e.1 :=
  List.mem_map_of_mem (List.mem_filter.2 ⟨h, decide_eq_true rfl⟩)

theorem ofPlace_append_of_ne (h : q ≠ place) :
    ofPlace (entries ++ more.map (place, ·)) q = ofPlace entries q := by
  have hnone : (more.map (place, ·)).filter (fun e => e.1 = q) = [] := by
    rw [List.filter_eq_nil_iff]
    simpa using fun _ _ => Ne.symm h
  rw [ofPlace, List.filter_append, hnone, List.append_nil]
  rfl

end OfPlace

/-- An entry of a list with a new last entry is that entry, or stands in the list. -/
theorem concat_eq_append_cons {α : Type} {l front back : List α} {x y : α} (h : l ++ [x] = front ++ y :: back) :
    (front = l ∧ y = x ∧ back = []) ∨ ∃ back', back = back' ++ [x] ∧ l = front ++ y :: back' := by
  obtain rfl | ⟨back, z, rfl⟩ := List.eq_nil_or_concat back
  · obtain ⟨rfl, hx⟩ := List.append_inj' h rfl
    exact .inl ⟨rfl, (List.cons.inj hx).1.symm, rfl⟩
  · rw [List.concat_eq_append, ← List.cons_append, ← List.append_assoc] at h
    obtain ⟨rfl, hx⟩ := List.append_inj' h rfl
    obtain rfl := (List.cons.inj hx).1
    exact .inr ⟨back, List.concat_eq_append, rfl⟩

/-- What has become of a group of a graph. -/
inductive Milestone where
  | began (place : Nat) (group : GroupRun)
  /-- The group has come to its end, with these writes. -/
  | ended (place : Nat) (group : GroupRun) (writes : List Write)

namespace Milestone

def place : Milestone → Nat
  | began place _ | ended place _ _ => place

def writes : Milestone → List Write
  | began _ _ => []
  | ended _ _ writes => writes

end Milestone

/-- Whether groups of a graph have begun and ended in turn. -/
inductive Chronicle (graph : WorkflowGraph) (epoch : Nat) (start : Context) : List Milestone → Prop
  | nil : Chronicle graph epoch start []
  /-- A group begins when all that it comes after have ended, on all that was written until then. -/
  | began {log : List Milestone} {place : Nat} {name : String} {group : StepGroup} {context : Context}
      (h : Chronicle graph epoch start log) (hnew : ∀ m ∈ log, m.place ≠ place)
      (hgroup : graph.groups[place]? = some (name, group))
      (hafter : ∀ d ∈ (Plan.of graph).dependenciesAt place, ∃ last writes, .ended d last writes ∈ log)
      (hcontext : context.values = start.values.putAll (log.flatMap Milestone.writes)) :
      Chronicle graph epoch start (log ++ [.began place (.of name epoch group context)])
  /-- A group that has begun ends, with what it has written to its context. -/
  | ended {front back : List Milestone} {place : Nat} {first last : GroupRun} {writes : List Write}
      (h : Chronicle graph epoch start (front ++ .began place first :: back))
      (hnew : ∀ m ∈ front ++ back, m.place ≠ place) (hwrites : last.context = first.context.apply writes) :
      Chronicle graph epoch start (front ++ .began place first :: back ++ [.ended place last writes])

/-- Whether a group could begin behind some milestones. -/
structure Begins (graph : WorkflowGraph) (epoch : Nat) (start : Context) (front : List Milestone) (place : Nat)
    (first : GroupRun) : Prop where
  group : ∃ name group, graph.groups[place]? = some (name, group) ∧ first = .of name epoch group first.context
  after : ∀ d ∈ (Plan.of graph).dependenciesAt place, ∃ last writes, .ended d last writes ∈ front
  context : first.context.values = start.values.putAll (front.flatMap Milestone.writes)

/-- Whether a group has begun and ended once among some milestones. -/
structure RunsOnce (log front middle back : List Milestone) (place : Nat) (first last : GroupRun)
    (writes : List Write) : Prop where
  split : log = front ++ .began place first :: middle ++ .ended place last writes :: back
  once : ∀ m ∈ front ++ middle ++ back, m.place ≠ place
  writes : last.context = first.context.apply writes

namespace Chronicle

variable {graph : WorkflowGraph} {epoch : Nat} {start context : Context} {log front back : List Milestone}
  {m : Milestone} {place : Nat} {first last : GroupRun} {writes : List Write} {groups : List (Nat × GroupRun)}

theorem begins (h : Chronicle graph epoch start log) (hlog : log = front ++ .began place first :: back) :
    Begins graph epoch start front place first := by
  induction h generalizing back with
  | nil => simp at hlog
  | began h hnew hgroup hafter hcontext ih =>
    obtain ⟨rfl, hm, -⟩ | ⟨back', -, hlog⟩ := concat_eq_append_cons hlog
    · cases hm
      exact ⟨⟨_, _, hgroup, rfl⟩, hafter, hcontext⟩
    · exact ih hlog
  | ended h hnew hwrites ih =>
    obtain ⟨-, hm, -⟩ | ⟨back', -, hlog⟩ := concat_eq_append_cons hlog
    · cases hm
    · exact ih hlog

/-- What has not ended has begun once, and nothing else has become of it. -/
theorem underway (h : Chronicle graph epoch start log) (hbegan : .began place first ∈ log)
    (hopen : ∀ last writes, .ended place last writes ∉ log) :
    ∃ front back, log = front ++ .began place first :: back ∧ ∀ m ∈ front ++ back, m.place ≠ place := by
  induction h with
  | nil => cases hbegan
  | @began log q name group context h hnew _ _ _ ih =>
    obtain hold | hm := List.mem_append.1 hbegan
    · obtain ⟨front, back, rfl, hothers⟩ := ih hold fun last writes hmem =>
        hopen last writes (List.mem_append_left _ hmem)
      refine ⟨front, back ++ [.began q (.of name epoch group context)], by simp, ?_⟩
      rw [← List.append_assoc]
      exact List.forall_mem_append.2 ⟨hothers, List.forall_mem_singleton.2 (hnew _ hold).symm⟩
    · cases List.mem_singleton.1 hm
      exact ⟨log, [], rfl, by rwa [List.append_nil]⟩
  | @ended _ _ q _ last writes h hnew _ ih =>
    have hne : q ≠ place := by
      rintro rfl
      exact hopen last writes (List.mem_append_right _ (List.mem_singleton.2 rfl))
    obtain hold | hm := List.mem_append.1 hbegan
    · obtain ⟨front, back, hlog, hothers⟩ := ih hold fun last writes hmem =>
        hopen last writes (List.mem_append_left _ hmem)
      refine ⟨front, back ++ [.ended q last writes], by rw [hlog]; simp, ?_⟩
      rw [← List.append_assoc]
      exact List.forall_mem_append.2 ⟨hothers, List.forall_mem_singleton.2 hne⟩
    · cases List.mem_singleton.1 hm

/-- What has ended has begun before, once, and nothing else has become of it. -/
theorem runsOnce (h : Chronicle graph epoch start log) (hended : .ended place last writes ∈ log) :
    ∃ front middle back first, RunsOnce log front middle back place first last writes := by
  induction h with
  | nil => cases hended
  | @began log q name group context h hnew _ _ _ ih =>
    obtain hold | hm := List.mem_append.1 hended
    · obtain ⟨front, middle, back, first, hruns⟩ := ih hold
      refine ⟨front, middle, back ++ [.began q (.of name epoch group context)], first, ?_, ?_, hruns.writes⟩
      · rw [hruns.split]
        simp
      · rw [← List.append_assoc]
        exact List.forall_mem_append.2 ⟨hruns.once, List.forall_mem_singleton.2 (hnew _ hold).symm⟩
    · cases List.mem_singleton.1 hm
  | @ended front' back' q first' last' writes' h hnew hwrites ih =>
    obtain hold | hm := List.mem_append.1 hended
    · obtain ⟨front, middle, back, first, hruns⟩ := ih hold
      have hne : q ≠ place := by
        rintro rfl
        obtain hmem | hmem := List.mem_append.1 hold
        · exact hnew _ (List.mem_append_left _ hmem) rfl
        · obtain hm | hmem := List.mem_cons.1 hmem
          · cases hm
          · exact hnew _ (List.mem_append_right _ hmem) rfl
      refine ⟨front, middle, back ++ [.ended q last' writes'], first, ?_, ?_, hruns.writes⟩
      · rw [hruns.split]
        simp
      · rw [← List.append_assoc]
        exact List.forall_mem_append.2 ⟨hruns.once, List.forall_mem_singleton.2 hne⟩
    · cases List.mem_singleton.1 hm
      exact ⟨front', back', [], first', rfl, by rwa [List.append_nil], hwrites⟩

/-- Groups that are under way end one after another. -/
theorem append_ended (h : Chronicle graph epoch start log) (writes : GroupRun → List Write)
    (hnodup : (groups.map Prod.fst).Nodup)
    (hopen : ∀ e ∈ groups, ∃ front back first, log = front ++ .began e.1 first :: back ∧
      (∀ m ∈ front ++ back, m.place ≠ e.1) ∧ e.2.context = first.context.apply (writes e.2)) :
    Chronicle graph epoch start (log ++ groups.map fun e => .ended e.1 e.2 (writes e.2)) := by
  induction groups generalizing log with
  | nil => rwa [List.map_nil, List.append_nil]
  | cons e rest ih =>
    rw [List.map_cons, List.nodup_cons] at hnodup
    rw [List.forall_mem_cons] at hopen
    rw [List.map_cons, ← List.singleton_append, ← List.append_assoc]
    refine ih ?_ hnodup.2 fun e' he' => ?_
    · obtain ⟨front, back, first, rfl, hothers, hwrites⟩ := hopen.1
      exact .ended h hothers hwrites
    · obtain ⟨front, back, first, rfl, hothers, hwrites⟩ := hopen.2 e' he'
      have hne : e.1 ≠ e'.1 := fun heq => hnodup.1 (heq ▸ List.mem_map_of_mem he')
      refine ⟨front, back ++ [.ended e.1 e.2 (writes e.2)], first, by simp, ?_, hwrites⟩
      rw [← List.append_assoc]
      exact List.forall_mem_append.2 ⟨hothers, List.forall_mem_singleton.2 hne⟩

/-- Groups of a wave begin one after another, on what was written before the wave. -/
theorem append_began (h : Chronicle graph epoch start log) (hnodup : (groups.map Prod.fst).Nodup)
    (hnew : ∀ e ∈ groups, ∀ m ∈ log, m.place ≠ e.1)
    (hgroup : ∀ e ∈ groups, ∃ name group, graph.groups[e.1]? = some (name, group) ∧
      e.2 = .of name epoch group context)
    (hafter : ∀ e ∈ groups, ∀ d ∈ (Plan.of graph).dependenciesAt e.1, ∃ last writes, .ended d last writes ∈ log)
    (hcontext : context.values = start.values.putAll (log.flatMap Milestone.writes)) :
    Chronicle graph epoch start (log ++ groups.map fun e => .began e.1 e.2) := by
  induction groups generalizing log with
  | nil => rwa [List.map_nil, List.append_nil]
  | cons e rest ih =>
    rw [List.map_cons, List.nodup_cons] at hnodup
    rw [List.forall_mem_cons] at hnew hgroup hafter
    rw [List.map_cons, ← List.singleton_append, ← List.append_assoc]
    obtain ⟨name, group, hat, hfirst⟩ := hgroup.1
    have hbegan : Chronicle graph epoch start (log ++ [.began e.1 e.2]) := by
      rw [hfirst]
      exact .began h hnew.1 hat hafter.1 hcontext
    refine ih hbegan hnodup.2 (fun e' he' => ?_) hgroup.2 (fun e' he' d hd => ?_) ?_
    · have hne : e.1 ≠ e'.1 := fun heq => hnodup.1 (heq ▸ List.mem_map_of_mem he')
      exact List.forall_mem_append.2 ⟨hnew.2 e' he', List.forall_mem_singleton.2 hne⟩
    · obtain ⟨last, writes, hmem⟩ := hafter.2 e' he' d hd
      exact ⟨last, writes, List.mem_append_left _ hmem⟩
    · rw [List.flatMap_append]
      exact hcontext.trans (congrArg _ (List.append_nil _).symm)

end Chronicle

/-- A graph on its way, with what has come of it so far. -/
structure Passage where
  counter : EpochCounter
  graph : GraphRun
  log : List Milestone
  /-- The requests that have not been answered, by place. -/
  out : List (Nat × Call) := []
  sent : List (Nat × Call) := []
  told : List (Nat × Event) := []

/-- What happens to a graph from outside. -/
inductive PassageMove where
  /-- A group goes on, in some surroundings. -/
  | go (place : Nat) (around : Surroundings)
  /-- A request of a group is answered. -/
  | arrive (place index : Nat) (answer : Answer)
  /-- The groups of a stage have all finished, and the next stage is opened. -/
  | close
  /-- A newer run begins. -/
  | overtake

namespace GraphRun

/-- The groups at work begin. -/
def beginnings (g : GraphRun) : List Milestone := g.atWork.map fun e => .began e.1 e.2

/-- The groups at work end, with what they have written since their stage was opened. -/
def endings (g : GraphRun) : List Milestone :=
  g.atWork.map fun e => .ended e.1 e.2 (e.2.context.writesSince g.base.mark)

end GraphRun

namespace Passage

/-- A graph that is set to work in a run that has just begun. -/
def opening (rules : RunRules) (counter : EpochCounter) (graph : WorkflowGraph) (context : Context) : Passage :=
  let g := GraphRun.start rules counter graph { epoch := counter.current, context }
  { counter, graph := g, log := g.beginnings }

/-- A group is replaced by what it has become, and what came of it is noted. -/
def put (p : Passage) (place : Nat) (group : GroupRun) (calls : List Call) (events : List Event) : Passage :=
  { p with
    graph := p.graph.put place group
    out := p.out ++ calls.map (place, ·)
    sent := p.sent ++ calls.map (place, ·)
    told := p.told ++ events.map (place, ·) }

/-- Whether a call is out. -/
def isOut (p : Passage) (place index : Nat) : Bool := p.out.any fun e => e.1 = place ∧ e.2.index = index

/-- A call is no longer out. -/
def settled (p : Passage) (place index : Nat) : Passage :=
  { p with out := p.out.filter fun e => ¬ (e.1 = place ∧ e.2.index = index) }

/-- What happens. What cannot happen changes nothing. -/
def move (rules : RunRules) (p : Passage) : PassageMove → Passage
  | .go place around => match p.graph.running? place with
    | none => p
    | some group =>
      let (group, t) := group.poll rules (p.counter.isCurrent p.graph.run.epoch) { surroundings := around }
      p.put place group t.calls t.events
  | .arrive place index answer =>
    if p.isOut place index then
      { p.settled place index with graph := p.graph.deliver place index answer }
    else p
  | .close =>
    if p.graph.isFinished || !p.graph.active.isEmpty then p
    else
      let g := p.graph.close rules p.counter
      { p with graph := g, log := p.log ++ p.graph.endings ++ g.beginnings }
  | .overtake => { p with counter := p.counter.advance }

/-- Moves, one after another. -/
def follow (rules : RunRules) (p : Passage) (moves : List PassageMove) : Passage := moves.foldl (move rules) p

/-- What the group at a place has sent. -/
def sentBy (p : Passage) (place : Nat) : List Call := ofPlace p.sent place

/-- What was told of the group at a place. -/
def toldBy (p : Passage) (place : Nat) : List Event := ofPlace p.told place

/-- Whether no newer run has begun. -/
def Current (p : Passage) : Prop := p.counter.isCurrent p.graph.run.epoch = true

end Passage

end BackOffice
