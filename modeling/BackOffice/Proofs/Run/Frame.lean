import BackOffice.Proofs.Run.Carry

/-!
What a group makes of the context it is given. In contexts that agree on what its steps read, a group
ends the same way, sends the same requests and makes the same writes; and it writes only under the keys of
its steps.
-/

namespace BackOffice

/-- The keys that the steps of a group read, from outside or from each other. -/
def StepGroup.reads (group : StepGroup) : List String := group.steps.flatMap Step.reads

theorem Step.keys_writesOf (s : Step) (data : Option Json) {key : String}
    (h : key ∈ (s.writesOf data).map Prod.fst) : key ∈ s.writes := by
  rw [writesOf, List.map_append, List.mem_append] at h
  rw [writes, List.mem_append]
  obtain h | h := h
  · left
    cases hs : s.slot with
    | none => simp [hs] at h
    | some slot => simpa [hs] using h
  · right
    obtain ⟨w, hw, rfl⟩ := List.mem_map.1 h
    obtain ⟨b, hb, hval⟩ := List.mem_filterMap.1 hw
    obtain ⟨v, -, rfl⟩ := Option.map_eq_some_iff.1 hval
    exact List.mem_map_of_mem hb

/-- Whether an answer ends the session. -/
def Conditions.endsSession (c : Conditions) (a : Answer) : Bool :=
  Verdict.isAuth c.rules.authKeys (Envelope.ofResult a)

namespace GroupRun

variable {c : Conditions} {known : Known}

/-- A group with another context. -/
def inContext (g : GroupRun) (context : Context) : GroupRun := { g with context }

/-- What an answer does to a group does not depend on the context. -/
theorem taken_inContext (g : GroupRun) (index : Nat) (s : Step) (a : Answer) :
    ∃ (r : GroupRun) (writes : List Write), (∀ key ∈ writes.map Prod.fst, key ∈ s.writes) ∧
      r.detached = g.detached ∧
      ∀ b, (g.inContext b).taken c index s a = r.inContext (b.apply writes) := by
  cases h : StepError.ofVerdict? (Verdict.of c.rules.authKeys (Envelope.ofResult a)) with
  | none =>
    refine ⟨g.taken c index s a, s.writesOf (Envelope.ofResult a).data,
      fun key hkey => s.keys_writesOf _ hkey, detached_settle _ _ _ _, fun b => ?_⟩
    simp only [taken, settle, h, inContext]
    rfl
  | some e =>
    refine ⟨g.taken c index s a, [], fun key hkey => absurd hkey List.not_mem_nil,
      detached_settle _ _ _ _, fun b => ?_⟩
    simp only [taken, settle, h, inContext]
    rfl

theorem joinAll_inContext (rest : List (Nat × Step)) (g : GroupRun) :
    ∃ (r : GroupRun) (writes : List Write),
      (∀ key ∈ writes.map Prod.fst, key ∈ rest.flatMap fun e => e.2.writes) ∧
      ∀ b, joinAll c known rest (g.inContext b) = r.inContext (b.apply writes) := by
  induction rest generalizing g with
  | nil => exact ⟨g, [], fun key hkey => absurd hkey List.not_mem_nil, fun b => rfl⟩
  | cons entry rest ih =>
    obtain ⟨i, s⟩ := entry
    obtain ⟨r, front, hfront, -, hr⟩ := @taken_inContext c g i s (known.answer i)
    obtain ⟨r', back, hback, hr'⟩ := ih r
    refine ⟨r', front ++ back, fun key hkey => ?_, fun b => ?_⟩
    · rw [List.map_append, List.mem_append] at hkey
      rw [List.flatMap_cons, List.mem_append]
      exact hkey.imp (hfront key) (hback key)
    · rw [joinAll, hr, hr', Context.apply_append]

/-- Whether a group goes the same way through steps, and makes the same writes, in all contexts that agree
with its own on what the steps read, and writes only under the keys of its steps. -/
def Framed (c : Conditions) (known : Known) (rest : List (Nat × Step)) (g : GroupRun) : Prop :=
  ∃ (r : GroupRun) (writes : List Write) (calls : List Call),
    (∀ key ∈ writes.map Prod.fst, key ∈ (g.detached ++ rest).flatMap fun e => e.2.writes) ∧
    ∀ b, Context.AgreeOn (rest.flatMap fun e => e.2.reads) b g.context →
      through c known rest (g.inContext b) = (r.inContext (b.apply writes), calls)

theorem mem_writes_of_mem_rest {detached rest : List (Nat × Step)} {entry : Nat × Step} {key : String}
    (h : key ∈ (detached ++ rest).flatMap fun e => e.2.writes) :
    key ∈ (detached ++ entry :: rest).flatMap fun e => e.2.writes := by
  rw [List.flatMap_append, List.mem_append] at h ⊢
  rw [List.flatMap_cons, List.mem_append]
  exact h.imp_right .inr

theorem agreeOn_cons {entry : Nat × Step} {rest : List (Nat × Step)} {a b : Context}
    (h : Context.AgreeOn ((entry :: rest).flatMap fun e => e.2.reads) a b) :
    Context.AgreeOn entry.2.reads a b ∧ Context.AgreeOn (rest.flatMap fun e => e.2.reads) a b := by
  rw [List.flatMap_cons] at h
  exact ⟨fun key hkey => h key (List.mem_append_left _ hkey),
    fun key hkey => h key (List.mem_append_right _ hkey)⟩

/-- A step that is passed over leaves the context and the detached steps alone. -/
theorem framed_passed {entry : Nat × Step} {rest : List (Nat × Step)} {g next : GroupRun}
    (h : Framed c known rest next) (hdetached : next.detached = g.detached)
    (hcontext : next.context = g.context)
    (hnext : ∀ b, Context.AgreeOn entry.2.reads b g.context →
      through c known (entry :: rest) (g.inContext b) = through c known rest (next.inContext b)) :
    Framed c known (entry :: rest) g := by
  obtain ⟨r, writes, calls, hwrites, hr⟩ := h
  rw [hdetached] at hwrites
  rw [hcontext] at hr
  refine ⟨r, writes, calls, fun key hkey => mem_writes_of_mem_rest (hwrites key hkey), fun b hb => ?_⟩
  rw [hnext b (agreeOn_cons hb).1]
  exact hr b (agreeOn_cons hb).2

/-- The answer of an awaited step makes the same writes wherever it is taken up. -/
theorem framed_awaited {i : Nat} {s : Step} {rest : List (Nat × Step)} {g : GroupRun} {request : Request}
    (hhalted : ¬ g.halted = true) (hbind : ∀ b, Context.AgreeOn s.reads b g.context →
      (s.bind b c.surroundings).1 = .ok request) (hawaited : s.awaited = true)
    (h : ∀ g, Framed c (known.learn c [⟨i, request, s.awaited⟩]) rest g) :
    Framed c known ((i, s) :: rest) g := by
  obtain ⟨r, front, hfront, hdetached, hr⟩ := @taken_inContext c g i s
    ((known.learn c [⟨i, request, s.awaited⟩]).answer i)
  obtain ⟨r', back, calls, hback, hr'⟩ := h (r.inContext (g.context.apply front))
  rw [show (r.inContext (g.context.apply front)).detached = g.detached from hdetached] at hback
  refine ⟨r', front ++ back, ⟨i, request, s.awaited⟩ :: calls, fun key hkey => ?_, fun b hb => ?_⟩
  · rw [List.map_append, List.mem_append] at hkey
    obtain hkey | hkey := hkey
    · rw [List.flatMap_append, List.mem_append, List.flatMap_cons, List.mem_append]
      exact .inr (.inl (hfront key hkey))
    · exact mem_writes_of_mem_rest (hback key hkey)
  · obtain ⟨hreads, hrest⟩ := agreeOn_cons hb
    have hon := hr' (b.apply front) (hrest.apply front)
    rw [through, if_neg (show ¬ (g.inContext b).halted = true from hhalted),
      show (s.bind (g.inContext b).context c.surroundings).1 = .ok request from hbind b hreads]
    simp only [hawaited, if_true] at hr hon ⊢
    rw [hr b, Context.apply_append]
    exact congrArg (fun p => (p.1, _ :: p.2)) hon

theorem framed_detached {i : Nat} {s : Step} {rest : List (Nat × Step)} {g : GroupRun} {request : Request}
    (hhalted : ¬ g.halted = true) (hbind : ∀ b, Context.AgreeOn s.reads b g.context →
      (s.bind b c.surroundings).1 = .ok request) (hdetached : ¬ s.awaited = true)
    (h : ∀ g, Framed c (known.learn c [⟨i, request, s.awaited⟩]) rest g) :
    Framed c known ((i, s) :: rest) g := by
  obtain ⟨r, writes, calls, hwrites, hr⟩ := h { g with detached := g.detached ++ [(i, s)] }
  rw [List.append_assoc] at hwrites
  refine ⟨r, writes, ⟨i, request, s.awaited⟩ :: calls, hwrites, fun b hb => ?_⟩
  obtain ⟨hreads, hrest⟩ := agreeOn_cons hb
  rw [through, if_neg (show ¬ (g.inContext b).halted = true from hhalted),
    show (s.bind (g.inContext b).context c.surroundings).1 = .ok request from hbind b hreads]
  simp only [hdetached] at hr ⊢
  exact congrArg (fun p => (p.1, _ :: p.2)) (hr b hrest)

/-- In contexts that agree on what its steps read, a group goes the same way and makes the same writes. -/
theorem framed (known : Known) (rest : List (Nat × Step)) (g : GroupRun) : Framed c known rest g := by
  induction rest generalizing known g with
  | nil =>
    obtain ⟨r, writes, hwrites, hr⟩ := @joinAll_inContext c known g.detached g
    rw [← List.append_nil g.detached] at hwrites
    exact ⟨r, writes, [], hwrites, fun b _ => congrArg (·, []) (hr b)⟩
  | cons entry rest ih =>
    obtain ⟨i, s⟩ := entry
    by_cases hhalted : g.halted = true
    · refine framed_passed (ih known (g.giveUp i s .skipped)) rfl rfl fun b _ => ?_
      rw [through, if_pos (show (g.inContext b).halted = true from hhalted)]
      rfl
    -- The step is bound, or not bound, in the same way wherever what it reads is the same.
    have hbound (b : Context) (h : Context.AgreeOn s.reads b g.context) :
        (s.bind b c.surroundings).1 = (s.bind g.context c.surroundings).1 := by rw [Step.bind_congr h]
    cases hbind : (s.bind g.context c.surroundings).1 with
    | error e =>
      refine framed_passed (ih known (g.unbound c i s e)) rfl rfl fun b hb => ?_
      rw [through, if_neg (show ¬ (g.inContext b).halted = true from hhalted),
        show (s.bind (g.inContext b).context c.surroundings).1 = .error e from (hbound b hb).trans hbind]
      rfl
    | ok request =>
      have hok (b : Context) (h : Context.AgreeOn s.reads b g.context) := (hbound b h).trans hbind
      by_cases hawaited : s.awaited = true
      · exact framed_awaited hhalted hok hawaited (ih _)
      · exact framed_detached hhalted hok hawaited (ih _)

/-! ### The end of the session -/

theorem stale_taken (g : GroupRun) (index : Nat) (s : Step) (a : Answer) :
    (g.taken c index s a).stale = g.stale := stale_settle

theorem stale_joinAll (rest : List (Nat × Step)) (g : GroupRun) :
    (joinAll c known rest g).stale = g.stale := by
  induction rest generalizing g with
  | nil => rfl
  | cons entry rest ih => exact (ih _).trans (stale_taken _ _ _ _)

theorem stale_through (known : Known) (rest : List (Nat × Step)) (g : GroupRun) :
    (through c known rest g).1.stale = g.stale := by
  fun_induction through c known rest g with
  | case1 => exact stale_joinAll _ _
  | case2 _ _ _ _ _ _ ih => exact ih
  | case3 _ _ _ _ _ _ _ _ ih => exact ih
  | case4 known i s rest g hhalted request hbind call known' g' calls heq ih1 ih2 =>
    split at heq
    · rw [heq] at ih1
      exact ih1.trans (stale_taken _ _ _ _)
    · rw [heq] at ih2
      exact ih2

theorem forceLogout_taken {g : GroupRun} {index : Nat} {s : Step} {a : Answer}
    (h : c.endsSession a = false) : (g.taken c index s a).forceLogout = g.forceLogout := by
  have hof : Verdict.of c.rules.authKeys (Envelope.ofResult a) =
      if (Envelope.ofResult a).isSuccess then .success
      else .execution ((Envelope.ofResult a).firstError?.getD
        (Verdict.failedWith (Envelope.ofResult a).status)) :=
    if_neg (Bool.eq_false_iff.1 h)
  simp only [taken, settle, hof]
  split
  · rfl
  next e heq =>
    have he : e.isAuth = false := by
      split at heq
      · cases heq
      · cases heq
        rfl
    simp only [fail, he, Bool.or_false]

theorem forceLogout_joinAll {rest : List (Nat × Step)} {g : GroupRun}
    (h : ∀ e ∈ rest, c.endsSession (known.answer e.1) = false) :
    (joinAll c known rest g).forceLogout = g.forceLogout := by
  induction rest generalizing g with
  | nil => rfl
  | cons entry rest ih =>
    rw [List.forall_mem_cons] at h
    exact (ih h.2).trans (forceLogout_taken h.1)

/-- A group asks for the end of the session only when an answer to one of its requests brings it. -/
theorem forceLogout_through {known : Known} {rest : List (Nat × Step)} {g : GroupRun}
    (hknown : ∀ i a, known i = some a → c.endsSession a = false)
    (hdetached : ∀ e ∈ g.detached, (known e.1).isSome = true)
    (hcalls : ∀ call ∈ (through c known rest g).2, c.endsSession (c.serve call.request) = false) :
    (through c known rest g).1.forceLogout = g.forceLogout := by
  revert hcalls
  fun_induction through c known rest g with
  | case1 known g =>
    refine fun _ => forceLogout_joinAll fun e he => ?_
    obtain ⟨a, ha⟩ := Option.isSome_iff_exists.1 (hdetached e he)
    rw [Known.answer_of_eq_some ha]
    exact hknown _ _ ha
  | case2 known i s rest g hhalted ih => exact ih hknown hdetached
  | case3 known i s rest g hhalted e hbind ih =>
    exact fun hcalls => (ih hknown hdetached hcalls).trans (Bool.or_false _)
  | case4 known i s rest g hhalted request hbind call known' g' calls heq ih1 ih2 =>
    intro hcalls
    rw [List.forall_mem_cons] at hcalls
    have hlearn : ∀ j a, known' j = some a → c.endsSession a = false := by
      intro j a hj
      rcases Option.or_eq_some_iff.1 hj with hj | ⟨-, hj⟩
      · exact hknown j a hj
      · obtain ⟨other, hother, rfl⟩ := Option.map_eq_some_iff.1 hj
        rw [List.mem_singleton.1 (List.mem_of_find?_eq_some hother)]
        exact hcalls.1
    obtain ⟨a, ha⟩ := Option.isSome_iff_exists.1 (Known.isSome_learn (List.mem_singleton_self call))
    have hdetached' : ∀ e ∈ g.detached, (known' e.1).isSome = true := fun e he =>
      Known.isSome_learn_of_isSome (hdetached e he)
    split at heq
    · rw [heq] at ih1
      refine (ih1 hlearn (by rwa [taken, detached_settle]) hcalls.2).trans (forceLogout_taken ?_)
      rw [Known.answer_of_eq_some ha]
      exact hlearn i a ha
    · rw [heq] at ih2
      refine ih2 hlearn (fun e he => ?_) hcalls.2
      obtain he | he := List.mem_append.1 he
      · exact hdetached' e he
      · rw [List.mem_singleton.1 he]
        exact Option.isSome_iff_exists.2 ⟨a, ha⟩

end GroupRun

namespace GraphRun

variable {c : Conditions} {g : GraphRun} {place : Nat} {b : Context}

/-- A group of a graph ends the same way wherever it reads the same, and makes the same writes. -/
theorem ending_groupRun (g : GraphRun) (place : Nat) (base : Context) :
    ∃ (r : GroupRun) (writes : List Write) (calls : List Call),
      (∀ key ∈ writes.map Prod.fst, key ∈ (g.groupAt place).2.writes) ∧
      ∀ b, Context.AgreeOn (g.groupAt place).2.reads b base →
        (g.groupRun place b).ending c .nothing = (r.inContext (b.apply writes), calls) := by
  have hsteps {α : Type} (f : Step → List α) :
      ((g.groupAt place).2.steps.zipIdx.map fun s => (s.2, s.1)).flatMap (fun e => f e.2) =
        (g.groupAt place).2.steps.flatMap f := by
    rw [List.flatMap_map, ← List.flatMap_map Prod.fst, List.zipIdx_map_fst]
  obtain ⟨r, writes, calls, hwrites, hr⟩ := GroupRun.framed (c := c) .nothing
    ((g.groupAt place).2.steps.zipIdx.map fun s => (s.2, s.1)) (g.groupRun place base).bare
  refine ⟨r, writes, calls, fun key hkey => ?_, fun b hb => hr b ?_⟩
  · rw [StepGroup.writes, ← hsteps]
    exact hwrites key hkey
  · rwa [hsteps, ← StepGroup.reads]

theorem stale_ending : ((g.groupRun place b).ending c .nothing).1.stale = false :=
  GroupRun.stale_through _ _ _

theorem forceLogout_ending
    (h : ∀ call ∈ ((g.groupRun place b).ending c .nothing).2,
      c.endsSession (c.serve call.request) = false) :
    ((g.groupRun place b).ending c .nothing).1.forceLogout = false :=
  GroupRun.forceLogout_through (fun _ _ h => by cases h) (fun _ h => absurd h List.not_mem_nil) h

end GraphRun

end BackOffice
