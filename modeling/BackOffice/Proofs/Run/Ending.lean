import BackOffice.Proofs.Context.Reads
import BackOffice.Proofs.Run.Stretch

/-!
Where a group ends, told from the start. While no newer run begins, no time passes and the backend answers
the same request always the same way, every answer is what the backend will say to the request that was
sent, whenever it arrives. So a group ends where it would if all answers came at once.
-/

namespace BackOffice

/-- What a run meets: its rules, the count of runs, surroundings that stand still, and what the backend
answers. -/
structure Conditions where
  rules : RunRules
  counter : EpochCounter
  surroundings : Surroundings
  serve : Request → Answer

/-- The answers that are known by step index. -/
abbrev Known := Nat → Option Answer

namespace Known

/-- What is known once requests are out: their answers, unless there is an older one. -/
def learn (c : Conditions) (known : Known) (calls : List Call) : Known :=
  fun i => (known i).or ((calls.find? (·.index = i)).map fun call => c.serve call.request)

/-- The answer for a step; it is only asked for when there is one. -/
def answer (known : Known) (index : Nat) : Answer := (known index).getD (.ok .null)

variable {c : Conditions} {known : Known} {index : Nat} {a : Answer}

theorem learn_nil : known.learn c [] = known := by
  funext i
  simp [learn]

theorem learn_append (front back : List Call) :
    known.learn c (front ++ back) = (known.learn c front).learn c back := by
  funext i
  simp only [learn, List.find?_append, Option.map_or, Option.or_assoc]

theorem learn_of_eq_some {calls : List Call} (h : known index = some a) :
    known.learn c calls index = some a := by
  rw [learn, h, Option.some_or]

theorem isSome_learn {calls : List Call} {call : Call} (h : call ∈ calls) :
    (known.learn c calls call.index).isSome = true := by
  have hfind : (calls.find? fun other => decide (other.index = call.index)).isSome = true :=
    List.find?_isSome.2 ⟨call, h, by simp⟩
  rw [learn, Option.isSome_or, Option.isSome_map, hfind, Bool.or_true]

theorem isSome_learn_of_isSome {calls : List Call} (h : (known index).isSome = true) :
    (known.learn c calls index).isSome = true := by
  rw [learn, Option.isSome_or, h, Bool.true_or]

theorem answer_of_eq_some (h : known index = some a) : known.answer index = a := by
  rw [answer, h, Option.getD_some]

end Known

namespace GroupRun

variable {c : Conditions} {known : Known} {g : GroupRun} {t : Trace} {rest : List (Nat × Step)}

/-! ### Where a group ends -/

/-- A group without its answers, at its end. -/
def bare (g : GroupRun) : GroupRun := { g with answers := [], stage := .finished }

/-- Takes up an answer, whatever is told of it. -/
def taken (c : Conditions) (g : GroupRun) (index : Nat) (s : Step) (a : Answer) : GroupRun :=
  (g.settle c.rules index s a { surroundings := c.surroundings }).1

/-- Takes up that a step could not be bound. -/
def unbound (c : Conditions) (g : GroupRun) (index : Nat) (s : Step) (e : BindingError) : GroupRun :=
  (g.fail c.rules index s none (.binding e) { surroundings := c.surroundings } true).1

/-- Takes up the answers of detached steps when all are known. -/
def joinAll (c : Conditions) (known : Known) : List (Nat × Step) → GroupRun → GroupRun
  | [], g => g
  | (i, s) :: rest, g => joinAll c known rest (g.taken c i s (known.answer i))

/-- Goes through steps when every answer comes at once, with the requests that are sent. -/
def through (c : Conditions) : Known → List (Nat × Step) → GroupRun → GroupRun × List Call
  | known, [], g => (joinAll c known g.detached g, [])
  | known, (i, s) :: rest, g =>
    if g.halted then through c known rest (g.giveUp i s .skipped)
    else match (s.bind g.context c.surroundings).1 with
      | .error e => through c known rest (g.unbound c i s e)
      | .ok request =>
        let call : Call := ⟨i, request, s.awaited⟩
        let known := known.learn c [call]
        let (g, calls) :=
          if s.awaited then through c known rest (g.taken c i s (known.answer i))
          else through c known rest { g with detached := g.detached ++ [(i, s)] }
        (g, call :: calls)

/-- Where a group ends from its stage on, and what it still sends. -/
def ending (c : Conditions) (known : Known) (g : GroupRun) : GroupRun × List Call :=
  match g.stage with
  | .starting rest => through c known rest g.bare
  | .awaiting i s rest => through c known rest (g.bare.taken c i s (known.answer i))
  | .joining rest => (joinAll c known rest g.bare, [])
  | .finished => (g.bare, [])

theorem ending_of_isFinished (h : g.isFinished = true) : g.ending c known = (g.bare, []) := by
  rw [ending, stage_of_isFinished h]

theorem bare_settle (index : Nat) (s : Step) (a : Answer) (t : Trace) :
    (g.settle c.rules index s a t).1.bare = g.bare.taken c index s a := by
  simp only [taken, settle]
  split <;> rfl

theorem answers_settle (index : Nat) (s : Step) (a : Answer) (t : Trace) :
    (g.settle c.rules index s a t).1.answers = g.answers := by
  simp only [settle]
  split <;> rfl

theorem ending_join (hknown : ∀ i a, g.answers.lookup i = some a → known i = some a) :
    ending c known (join c.rules true rest g t).1 = (joinAll c known rest g.bare, []) := by
  induction rest generalizing g t with
  | nil => rfl
  | cons entry rest ih =>
    obtain ⟨i, s⟩ := entry
    simp only [join]
    split
    · rfl
    next a h =>
      have hanswers := @answers_settle c g i s a t
      rw [if_pos trivial, ih (by rwa [hanswers]), bare_settle, joinAll,
        Known.answer_of_eq_some (hknown i a h)]

/-- A stretch of starting steps leads to where the group goes when every answer comes at once. -/
theorem ending_start (hplain : ∀ e ∈ rest, e.2.Plain) (ht : t.surroundings = c.surroundings)
    (hknown : ∀ i a, g.answers.lookup i = some a → known i = some a) :
    ∃ calls, (start c.rules true rest g t).2.calls = t.calls ++ calls ∧
      through c known rest g.bare =
        ((ending c (known.learn c calls) (start c.rules true rest g t).1).1,
          calls ++ (ending c (known.learn c calls) (start c.rules true rest g t).1).2) := by
  induction rest generalizing g t known with
  | nil =>
    refine ⟨[], by rw [start, calls_join, List.append_nil], ?_⟩
    rw [Known.learn_nil, start, ending_join hknown]
    rfl
  | cons entry rest ih =>
    obtain ⟨i, s⟩ := entry
    rw [List.forall_mem_cons] at hplain
    have hbind := @Step.surroundings_bind s g.context c.surroundings hplain.1
    have hhalted : g.bare.halted = g.halted := rfl
    have hcontext : g.bare.context = g.context := rfl
    simp only [start, through, hhalted, hcontext, ht]
    split
    · exact ih hplain.2 ht hknown
    rcases hb : s.bind g.context c.surroundings with ⟨e | request, around⟩
    all_goals
      rw [hb] at hbind
      obtain rfl : around = c.surroundings := hbind
    · have hfail : (g.fail c.rules i s none (.binding e) { t with surroundings := c.surroundings }
          true).2.surroundings = c.surroundings := surroundings_fail
      obtain ⟨calls, hcalls, hending⟩ := ih (g := (g.fail c.rules i s none (.binding e) t true).1)
        hplain.2 hfail hknown
      exact ⟨calls, hcalls.trans (by rw [calls_fail]), hending⟩
    · dsimp only
      split
      · exact ⟨[⟨i, request, s.awaited⟩], rfl, rfl⟩
      · -- From here on the answer of the step that was sent counts as known.
        have htell : ((({ t with surroundings := c.surroundings } : Trace).tell true g.epoch
            [.dispatched g.name s.workflow]).send ⟨i, request, s.awaited⟩).surroundings =
              c.surroundings := rfl
        have hlearn (i' : Nat) (a : Answer) (h : g.answers.lookup i' = some a) :
            known.learn c [⟨i, request, s.awaited⟩] i' = some a := Known.learn_of_eq_some (hknown i' a h)
        obtain ⟨calls, hcalls, hending⟩ := ih (g := { g with detached := g.detached ++ [(i, s)] })
          hplain.2 htell hlearn
        refine ⟨⟨i, request, s.awaited⟩ :: calls, ?_, ?_⟩
        · rw [hcalls]
          simp [Trace.send, Trace.tell]
        · have happend := @Known.learn_append c known [⟨i, request, s.awaited⟩] calls
          rw [List.singleton_append] at happend
          rw [happend]
          exact congrArg (fun r => (r.1, _ :: r.2)) hending

theorem answers_join (current : Bool) : (join c.rules current rest g t).1.answers = g.answers := by
  induction rest generalizing g t with
  | nil => rfl
  | cons entry rest ih =>
    simp only [join]
    split
    · rfl
    · split
      · exact ih.trans (answers_settle _ _ _ _)
      · exact ih

theorem answers_start (current : Bool) : (start c.rules current rest g t).1.answers = g.answers := by
  induction rest generalizing g t with
  | nil => exact answers_join _
  | cons entry rest ih =>
    simp only [start]
    split
    · exact ih
    · split
      · exact ih
      · split
        · rfl
        · exact ih

theorem answers_poll : (g.poll c.rules true t).1.answers = g.answers := by
  simp only [poll]
  split
  · exact answers_start _
  · split
    · rfl
    · exact (answers_start _).trans (answers_settle _ _ _ _)
  · exact answers_join _
  · rfl

/-! ### What a group waits for -/

/-- The steps that are still to be started. -/
def pending (g : GroupRun) : List (Nat × Step) :=
  match g.stage with
  | .starting rest | .awaiting _ _ rest => rest
  | _ => []

/-- The steps whose answers are still to be taken up. -/
def expected (g : GroupRun) : List Nat :=
  match g.stage with
  | .starting _ => g.detached.map Prod.fst
  | .awaiting i _ _ => i :: g.detached.map Prod.fst
  | .joining rest => rest.map Prod.fst
  | .finished => []

/-- So does any stretch. -/
theorem ending_poll (hplain : ∀ e ∈ g.pending, e.2.Plain) (ht : t.surroundings = c.surroundings)
    (hknown : ∀ i a, g.answers.lookup i = some a → known i = some a) :
    ∃ calls, (g.poll c.rules true t).2.calls = t.calls ++ calls ∧
      g.ending c known =
        (((g.poll c.rules true t).1.ending c (known.learn c calls)).1,
          calls ++ ((g.poll c.rules true t).1.ending c (known.learn c calls)).2) := by
  have hidle : ∃ calls, t.calls = t.calls ++ calls ∧
      g.ending c known =
        ((g.ending c (known.learn c calls)).1, calls ++ (g.ending c (known.learn c calls)).2) :=
    ⟨[], (List.append_nil _).symm, by rw [Known.learn_nil, List.nil_append]⟩
  simp only [poll]
  -- A group that has not what it needs stays where it is.
  split
  next rest h =>
    rw [ending, h]
    simp only [pending, h] at hplain
    exact ending_start hplain ht hknown
  next i s rest h =>
    simp only [pending, h] at hplain
    split
    next => exact hidle
    next a ha =>
      obtain ⟨calls, hcalls, hending⟩ := ending_start (g := (g.settle c.rules i s a t).1) hplain
        (surroundings_settle.trans ht) (by rwa [answers_settle])
      refine ⟨calls, hcalls.trans (by rw [calls_settle]), ?_⟩
      rw [ending, h]
      simp only [Known.answer_of_eq_some (hknown i a ha), ← bare_settle (t := t)]
      exact hending
  next rest h =>
    refine ⟨[], by rw [calls_join, List.append_nil], ?_⟩
    rw [Known.learn_nil, ending_join hknown, ending, h]
    rfl
  next => exact hidle

theorem pending_join : (join c.rules true rest g t).1.pending = [] := by
  induction rest generalizing g t with
  | nil => rfl
  | cons entry rest ih =>
    simp only [join]
    split
    · rfl
    · exact ih

theorem pending_start : (start c.rules true rest g t).1.pending ⊆ rest := by
  induction rest generalizing g t with
  | nil =>
    rw [start, pending_join]
    exact List.Subset.refl _
  | cons entry rest ih =>
    simp only [start]
    split
    · exact List.subset_cons_of_subset _ ih
    · split
      · exact List.subset_cons_of_subset _ ih
      · split
        · exact List.subset_cons_self _ _
        · exact List.subset_cons_of_subset _ ih

theorem surroundings_start (hplain : ∀ e ∈ rest, e.2.Plain) (ht : t.surroundings = c.surroundings) :
    (start c.rules true rest g t).2.surroundings = c.surroundings := by
  induction rest generalizing g t with
  | nil => rw [start, surroundings_join, ht]
  | cons entry rest ih =>
    rw [List.forall_mem_cons] at hplain
    have hbind := @Step.surroundings_bind entry.2 g.context c.surroundings hplain.1
    simp only [start, ht]
    split
    · exact ih hplain.2 ht
    · split
      next heq =>
        rw [heq] at hbind
        exact ih hplain.2 (surroundings_fail.trans hbind)
      next heq =>
        rw [heq] at hbind
        split
        · exact hbind
        · exact ih hplain.2 hbind

theorem expected_join : (join c.rules true rest g t).1.expected ⊆ rest.map Prod.fst := by
  induction rest generalizing g t with
  | nil => exact List.Subset.refl _
  | cons entry rest ih =>
    simp only [join]
    split
    · exact List.Subset.refl _
    · exact List.subset_cons_of_subset _ ih

theorem calls_subset_start : t.calls ⊆ (start c.rules true rest g t).2.calls := by
  induction rest generalizing g t with
  | nil =>
    rw [start, calls_join]
    exact List.Subset.refl _
  | cons entry rest ih =>
    simp only [start]
    split
    · exact ih
    · split
      · refine List.Subset.trans ?_ ih
        rw [calls_fail]
        exact List.Subset.refl _
      · split
        · exact List.subset_append_left _ _
        · refine List.Subset.trans ?_ ih
          exact List.subset_append_left _ _

/-- A group only waits for steps that were detached before or whose requests it has just sent. -/
theorem expected_start {i : Nat} :
    i ∈ (start c.rules true rest g t).1.expected →
      i ∈ g.detached.map Prod.fst ∨
        ∃ call ∈ (start c.rules true rest g t).2.calls, call.index = i := by
  fun_induction start c.rules true rest g t with
  | case1 => exact fun h => .inl (expected_join h)
  | case2 _ _ _ _ _ _ ih => exact ih
  | case3 j s rest g t _ e around _ g' t' hfail ih =>
    obtain rfl : _ = g' := congrArg Prod.fst hfail
    exact ih
  | case4 j s rest g t _ request around _ _ =>
    intro h
    rcases List.mem_cons.1 h with rfl | h
    · exact .inr ⟨_, List.mem_append_right _ (List.mem_singleton.2 rfl), rfl⟩
    · exact .inl h
  | case5 j s rest g t _ request around _ t' _ ih =>
    intro h
    obtain h | h := ih h
    · rw [List.map_append, List.mem_append] at h
      obtain h | h := h
      · exact .inl h
      · have hsent : ⟨j, request, s.awaited⟩ ∈ t'.calls :=
          List.mem_append_right _ (List.mem_singleton.2 rfl)
        exact .inr ⟨_, calls_subset_start hsent, (List.mem_singleton.1 h).symm⟩
    · exact .inr h

theorem surroundings_poll (hplain : ∀ e ∈ g.pending, e.2.Plain) (ht : t.surroundings = c.surroundings) :
    (g.poll c.rules true t).2.surroundings = c.surroundings := by
  simp only [poll]
  split
  next rest h =>
    simp only [pending, h] at hplain
    exact surroundings_start hplain ht
  next i s rest h =>
    simp only [pending, h] at hplain
    split
    · exact ht
    · exact surroundings_start hplain (surroundings_settle.trans ht)
  · exact surroundings_join.trans ht
  · exact ht

theorem pending_poll : (g.poll c.rules true t).1.pending ⊆ g.pending := by
  simp only [poll]
  split
  next rest h =>
    rw [pending.eq_1 g, h]
    exact pending_start
  next i s rest h =>
    split
    · exact List.Subset.refl _
    · rw [pending.eq_1 g, h]
      exact pending_start
  · rw [pending_join]
    exact List.nil_subset _
  · exact List.Subset.refl _

theorem expected_poll {i : Nat} (h : i ∈ (g.poll c.rules true t).1.expected) :
    i ∈ g.expected ∨ ∃ call ∈ (g.poll c.rules true t).2.calls, call.index = i := by
  revert h
  simp only [poll]
  split
  next rest h =>
    rw [expected.eq_1 g, h]
    exact expected_start
  next j s rest h =>
    split
    · exact .inl
    next a _ =>
      intro hi
      obtain hi | hi := expected_start hi
      · rw [detached_settle] at hi
        rw [expected.eq_1 g, h]
        exact .inl (List.mem_cons_of_mem _ hi)
      · exact .inr hi
  next rest h =>
    rw [expected.eq_1 g, h]
    exact fun hi => .inl (expected_join hi)
  · exact .inl

/-! ### How far a group is from its end -/

/-- A bound on the stretches that a group has before it. -/
def weight (g : GroupRun) : Nat :=
  match g.stage with
  | .starting rest | .awaiting _ _ rest => 2 * rest.length + g.detached.length + 2
  | .joining rest => rest.length + 1
  | .finished => 0

/-- The step whose answer a group needs to go on. -/
def needs? (g : GroupRun) : Option Nat :=
  match g.stage with
  | .awaiting i _ _ => some i
  | .joining rest => rest.head?.map Prod.fst
  | _ => none

theorem mem_expected_of_needs? {i : Nat} (h : i ∈ g.needs?) : i ∈ g.expected := by
  cases hs : g.stage with
  | awaiting j s rest =>
    rw [needs?, hs] at h
    obtain rfl : j = i := Option.some.inj h
    rw [expected, hs]
    exact List.mem_cons_self
  | joining rest =>
    rw [needs?, hs] at h
    rw [expected, hs]
    obtain ⟨entry, hentry, rfl⟩ := Option.map_eq_some_iff.1 h
    exact List.mem_map_of_mem (List.mem_of_mem_head? hentry)
  | _ => simp [needs?, hs] at h

theorem weight_join : (join c.rules true rest g t).1.weight ≤ rest.length + 1 := by
  fun_induction join c.rules true rest g t with
  | case1 => simp [weight]
  | case2 => simp [weight]
  | case3 i s rest g t answer _ _ g' t' _ ih =>
    rw [List.length_cons]
    omega
  | case4 i s rest g t answer _ _ ih =>
    rw [List.length_cons]
    omega

theorem weight_start :
    (start c.rules true rest g t).1.weight ≤ 2 * rest.length + g.detached.length + 1 := by
  fun_induction start c.rules true rest g t with
  | case1 g t =>
    have := @weight_join c g t g.detached
    rw [List.length_nil]
    omega
  | case2 j s rest g t _ ih =>
    rw [List.length_cons]
    have : (g.giveUp j s .skipped).detached = g.detached := rfl
    rw [this] at ih
    omega
  | case3 j s rest g t _ e around _ g' t' hfail ih =>
    obtain rfl : _ = g' := congrArg Prod.fst hfail
    have : (g.fail c.rules j s none (.binding e) { t with surroundings := around } true).1.detached =
        g.detached := rfl
    rw [this] at ih
    rw [List.length_cons]
    omega
  | case4 j s rest g t _ request around _ _ =>
    simp only [weight, List.length_cons]
    omega
  | case5 j s rest g t _ request around _ t' _ ih =>
    simp only [List.length_append, List.length_singleton] at ih
    rw [List.length_cons]
    omega

/-- A group that has what it needs gets further. -/
theorem weight_poll_lt (hfin : g.isFinished = false)
    (hneeds : ∀ i ∈ g.needs?, (g.answers.lookup i).isSome = true) :
    (g.poll c.rules true t).1.weight < g.weight := by
  simp only [poll]
  split
  next rest h =>
    have hstart := @weight_start c g t rest
    have hweight : g.weight = 2 * rest.length + g.detached.length + 2 := by simp only [weight, h]
    omega
  next i s rest h =>
    obtain ⟨a, ha⟩ := Option.isSome_iff_exists.1 (hneeds i (by rw [needs?, h]; rfl))
    have hstart := @weight_start c (g.settle c.rules i s a t).1 (g.settle c.rules i s a t).2 rest
    have hweight : g.weight = 2 * rest.length + g.detached.length + 2 := by simp only [weight, h]
    rw [detached_settle] at hstart
    simp only [ha, if_true]
    omega
  next rest h =>
    have hweight : g.weight = rest.length + 1 := by simp only [weight, h]
    cases rest with
    | nil => simp [join, weight, h]
    | cons entry rest =>
      obtain ⟨i, s⟩ := entry
      obtain ⟨a, ha⟩ := Option.isSome_iff_exists.1 (hneeds i (by rw [needs?, h]; rfl))
      have hjoin := @weight_join c (g.settle c.rules i s a t).1 (g.settle c.rules i s a t).2 rest
      rw [List.length_cons] at hweight
      simp only [join, ha, if_true]
      omega
  next h => simp [isFinished, h] at hfin

/-! ### What a group writes -/

theorem exists_writes_settle (index : Nat) (s : Step) (a : Answer) (t : Trace) :
    ∃ writes, (g.settle c.rules index s a t).1.context = g.context.apply writes := by
  simp only [settle]
  split
  · exact ⟨_, rfl⟩
  · exact ⟨[], rfl⟩

theorem exists_writes_join :
    ∃ writes, (join c.rules true rest g t).1.context = g.context.apply writes := by
  induction rest generalizing g t with
  | nil => exact ⟨[], rfl⟩
  | cons entry rest ih =>
    simp only [join]
    split
    · exact ⟨[], rfl⟩
    next a _ =>
      obtain ⟨front, hfront⟩ := @exists_writes_settle c g entry.1 entry.2 a t
      obtain ⟨back, hback⟩ := @ih (g.settle c.rules entry.1 entry.2 a t).1
        (g.settle c.rules entry.1 entry.2 a t).2
      exact ⟨front ++ back, by rw [if_pos trivial, hback, hfront, Context.apply_append]⟩

theorem exists_writes_start :
    ∃ writes, (start c.rules true rest g t).1.context = g.context.apply writes := by
  induction rest generalizing g t with
  | nil => exact exists_writes_join
  | cons entry rest ih =>
    simp only [start]
    split
    · exact ih
    · split
      · exact ih
      · split
        · exact ⟨[], rfl⟩
        · exact ih

/-- A stretch only adds writes to the context of a group. -/
theorem exists_writes_poll :
    ∃ writes, (g.poll c.rules true t).1.context = g.context.apply writes := by
  simp only [poll]
  split
  · exact exists_writes_start
  next i s rest _ =>
    split
    · exact ⟨[], rfl⟩
    next a _ =>
      obtain ⟨front, hfront⟩ := @exists_writes_settle c g i s a t
      obtain ⟨back, hback⟩ := @exists_writes_start c (g.settle c.rules i s a t).1
        (g.settle c.rules i s a t).2 rest
      exact ⟨front ++ back, by rw [if_pos trivial, hback, hfront, Context.apply_append]⟩
  · exact exists_writes_join
  · exact ⟨[], rfl⟩

end GroupRun

end BackOffice
