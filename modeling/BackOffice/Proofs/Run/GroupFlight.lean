import BackOffice.Proofs.Run.Ending

/-!
A group with its requests out. Answers arrive in any order, and the group goes on at any time. No move
changes where it ends, and it can always be brought there.
-/

namespace BackOffice

/-- A group on its way, with the requests that are out. -/
structure GroupFlight where
  group : GroupRun
  surroundings : Surroundings
  out : List Call := []

/-- What happens to a group from outside: it gets to go on, or the answer for a step arrives. -/
inductive GroupMove where
  | go
  | arrive (index : Nat)

namespace GroupFlight

def move (c : Conditions) (f : GroupFlight) : GroupMove → GroupFlight
  | .go =>
    let (group, t) := f.group.poll c.rules true { surroundings := f.surroundings }
    { group, surroundings := t.surroundings, out := f.out ++ t.calls }
  | .arrive index => match f.out.find? (·.index = index) with
    | none => f
    | some call =>
      { f with
        group := f.group.deliver index (c.serve call.request)
        out := f.out.filter (·.index ≠ index) }

/-- The requests that a group sends in a move. -/
def sends (c : Conditions) (f : GroupFlight) : GroupMove → List Call
  | .go => (f.group.poll c.rules true { surroundings := f.surroundings }).2.calls
  | .arrive _ => []

/-- Moves, one after another. -/
def follow (c : Conditions) (f : GroupFlight) (moves : List GroupMove) : GroupFlight :=
  moves.foldl (move c) f

variable {c : Conditions} {f : GroupFlight}

/-- The answers that a group has or will get for the requests that are out. -/
def known (c : Conditions) (f : GroupFlight) : Known := Known.learn c (f.group.answers.lookup ·) f.out

/-- Where a group ends, and what it still sends. -/
def fate (c : Conditions) (f : GroupFlight) : GroupRun × List Call := f.group.ending c (f.known c)

/-- Nothing that a group waits for gets lost. -/
structure Sound (c : Conditions) (f : GroupFlight) : Prop where
  still : f.surroundings = c.surroundings
  plain : ∀ e ∈ f.group.pending, e.2.Plain
  known : ∀ i ∈ f.group.expected, (f.known c i).isSome = true

theorem known_append (calls : List Call) :
    Known.learn c (f.group.answers.lookup ·) (f.out ++ calls) = (f.known c).learn c calls :=
  Known.learn_append _ _

theorem find?_filter_index (calls : List Call) (index i : Nat) :
    (calls.filter (·.index ≠ index)).find? (·.index = i) =
      if i = index then none else calls.find? (·.index = i) := by
  rw [List.find?_filter]
  split
  next h =>
    subst h
    simp
  next h =>
    congr 1
    funext call
    by_cases hi : call.index = i <;> simp [hi, h]

/-- An answer that arrives tells nothing new. -/
theorem known_arrive {index : Nat} {call : Call} (h : f.out.find? (·.index = index) = some call) :
    Known.learn c ((f.group.deliver index (c.serve call.request)).answers.lookup ·)
      (f.out.filter (·.index ≠ index)) = f.known c := by
  funext i
  simp only [known, Known.learn, GroupRun.deliver, List.lookup_append, find?_filter_index]
  by_cases hi : i = index
  · subst hi
    simp [h]
  · have hbeq : (i == index) = false := by simpa using hi
    simp [hi, List.lookup_cons, hbeq]

theorem fate_arrive (index : Nat) : (f.move c (.arrive index)).fate c = f.fate c := by
  cases h : f.out.find? (·.index = index) with
  | none => simp only [move, h]
  | some call =>
    have hknown := @known_arrive c f index call h
    simp only [move, h, fate, known]
    rw [hknown]
    rfl

/-- When a group goes on, it only gets closer to where it ends. -/
theorem fate_go (hf : f.Sound c) :
    f.fate c = (((f.move c .go).fate c).1, f.sends c .go ++ ((f.move c .go).fate c).2) := by
  obtain ⟨calls, hcalls, hending⟩ := GroupRun.ending_poll (t := { surroundings := f.surroundings })
    hf.plain hf.still fun i a h => @Known.learn_of_eq_some c (f.group.answers.lookup ·) i a f.out h
  rw [List.nil_append] at hcalls
  have hanswers := @GroupRun.answers_poll c f.group { surroundings := f.surroundings }
  have hknown : (f.move c .go).known c = (f.known c).learn c calls := by
    rw [← known_append, ← hcalls, ← hanswers]
    rfl
  have hgroup : (f.move c .go).group =
      (f.group.poll c.rules true { surroundings := f.surroundings }).1 := rfl
  have hsends : f.sends c .go = calls := hcalls
  rw [fate, fate, hknown, hgroup, hsends]
  exact hending

/-- No move changes where a group ends, and what it sends on the way. -/
theorem fate_move (hf : f.Sound c) (m : GroupMove) :
    f.fate c = (((f.move c m).fate c).1, f.sends c m ++ ((f.move c m).fate c).2) := by
  cases m with
  | go => exact fate_go hf
  | arrive index => rw [fate_arrive, sends, List.nil_append]

theorem sound_go (hf : f.Sound c) : (f.move c .go).Sound c := by
  refine ⟨GroupRun.surroundings_poll hf.plain hf.still,
    fun e he => hf.plain e (GroupRun.pending_poll he), fun i hi => ?_⟩
  have hanswers := @GroupRun.answers_poll c f.group { surroundings := f.surroundings }
  have hknown : (f.move c .go).known c =
      (f.known c).learn c (f.group.poll c.rules true { surroundings := f.surroundings }).2.calls := by
    rw [← known_append, ← hanswers]
    rfl
  rw [hknown]
  obtain hi | ⟨call, hcall, rfl⟩ := GroupRun.expected_poll hi
  · exact Known.isSome_learn_of_isSome (hf.known i hi)
  · exact Known.isSome_learn hcall

theorem sound_arrive (hf : f.Sound c) (index : Nat) : (f.move c (.arrive index)).Sound c := by
  cases h : f.out.find? (·.index = index) with
  | none =>
    simp only [move, h]
    exact hf
  | some call =>
    have hknown := @known_arrive c f index call h
    simp only [move, h]
    refine ⟨hf.still, hf.plain, fun i hi => ?_⟩
    rw [known, hknown]
    exact hf.known i hi

theorem sound_move (hf : f.Sound c) (m : GroupMove) : (f.move c m).Sound c := by
  cases m with
  | go => exact sound_go hf
  | arrive index => exact sound_arrive hf index

theorem sound_follow (hf : f.Sound c) (moves : List GroupMove) : (f.follow c moves).Sound c := by
  induction moves generalizing f with
  | nil => exact hf
  | cons m rest ih => exact ih (sound_move hf m)

theorem exists_writes_follow (moves : List GroupMove) :
    ∃ writes, (f.follow c moves).group.context = f.group.context.apply writes := by
  induction moves generalizing f with
  | nil => exact ⟨[], rfl⟩
  | cons m rest ih =>
    have hmove : ∃ front, (f.move c m).group.context = f.group.context.apply front := by
      cases m with
      | go => exact GroupRun.exists_writes_poll
      | arrive index =>
        simp only [move]
        split <;> exact ⟨[], rfl⟩
    obtain ⟨front, hfront⟩ := hmove
    obtain ⟨back, hback⟩ := @ih (f.move c m)
    exact ⟨front ++ back, by rw [Context.apply_append, ← hfront]; exact hback⟩

/-! ### Every group can be brought to its end -/

/-- A group that waits for an answer can get it. -/
theorem exists_answered (hf : f.Sound c) :
    ∃ moves, (f.follow c moves).Sound c ∧
      (f.follow c moves).group.weight = f.group.weight ∧
      (f.follow c moves).group.isFinished = f.group.isFinished ∧
      ∀ i ∈ (f.follow c moves).group.needs?,
        ((f.follow c moves).group.answers.lookup i).isSome = true := by
  -- A group needs one answer at a time; unless it is there, its request is out.
  by_cases hready : ∀ i ∈ f.group.needs?, (f.group.answers.lookup i).isSome = true
  · exact ⟨[], hf, rfl, rfl, hready⟩
  · obtain ⟨i, himp⟩ := Classical.not_forall.1 hready
    obtain ⟨hi, hnone⟩ := Classical.not_imp.1 himp
    have hlookup : f.group.answers.lookup i = none := by
      rwa [Bool.not_eq_true, Option.isSome_eq_false_iff, Option.isNone_iff_eq_none] at hnone
    have hknown := hf.known i (GroupRun.mem_expected_of_needs? hi)
    rw [known, Known.learn, hlookup, Option.none_or, Option.isSome_map] at hknown
    obtain ⟨call, hcall⟩ := Option.isSome_iff_exists.1 hknown
    have hmove : f.follow c [.arrive i] =
        { f with
          group := f.group.deliver i (c.serve call.request)
          out := f.out.filter (·.index ≠ i) } := by
      simp only [follow, List.foldl_cons, List.foldl_nil, move, hcall]
    have hsound : (f.follow c [.arrive i]).Sound c := sound_arrive hf i
    rw [hmove] at hsound
    refine ⟨[.arrive i], ?_⟩
    rw [hmove]
    refine ⟨hsound, rfl, rfl, fun j hj => ?_⟩
    obtain rfl : i = j := Option.some.inj (hi.symm.trans hj)
    simp [GroupRun.deliver, List.lookup_append]

/-- A group that nothing holds up ends when its answers arrive and it gets to go on. -/
theorem exists_finished (hf : f.Sound c) : ∃ moves, (f.follow c moves).group.isFinished = true := by
  -- Every stretch that has its answer makes the group lighter.
  induction hn : f.group.weight using Nat.strongRecOn generalizing f with
  | ind n ih =>
    by_cases hfin : f.group.isFinished = true
    · exact ⟨[], hfin⟩
    · obtain ⟨moves, hsound, hweight, hsame, hready⟩ := exists_answered hf
      have hlt : ((f.follow c moves).move c .go).group.weight < n := by
        rw [← hn, ← hweight]
        exact GroupRun.weight_poll_lt (hsame.trans (Bool.eq_false_iff.2 hfin)) hready
      obtain ⟨more, hmore⟩ := ih _ hlt (sound_go hsound) rfl
      refine ⟨moves ++ .go :: more, ?_⟩
      rwa [follow, List.foldl_append, List.foldl_cons]

end GroupFlight

end BackOffice
