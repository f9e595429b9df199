import BackOffice.Proofs.Run.Carry
import BackOffice.Proofs.Run.Frame
import BackOffice.Proofs.Run.Ledger

/-!
Keys that nothing writes. When no step of a graph writes a key, every run of the graph leaves the value under
that key as it was at the start, whatever is answered and whatever other runs begin meanwhile.
-/

namespace BackOffice

variable {key : String} {a b c : Context}

/-- Whether a context comes from another by writes of other keys. -/
def Context.Spares (key : String) (a b : Context) : Prop :=
  ∃ writes : List Write, key ∉ writes.map Prod.fst ∧ b = a.apply writes

namespace Context.Spares

theorem refl (key : String) (a : Context) : a.Spares key a := ⟨[], List.not_mem_nil, rfl⟩

theorem apply {writes : List Write} (h : a.Spares key b) (hwrites : key ∉ writes.map Prod.fst) :
    a.Spares key (b.apply writes) := by
  obtain ⟨front, hfront, rfl⟩ := h
  refine ⟨front ++ writes, ?_, (apply_append a front writes).symm⟩
  rw [List.map_append, List.mem_append]
  exact not_or.2 ⟨hfront, hwrites⟩

theorem trans (h : a.Spares key b) (h' : b.Spares key c) : a.Spares key c := by
  obtain ⟨writes, hwrites, rfl⟩ := h'
  exact h.apply hwrites

theorem find?_eq (h : a.Spares key b) : b.values.find? key = a.values.find? key := by
  obtain ⟨writes, hwrites, rfl⟩ := h
  exact find?_apply_of_notMem hwrites

theorem notMem_writesSince (h : a.Spares key b) : key ∉ (b.writesSince a.mark).map Prod.fst := by
  obtain ⟨writes, hwrites, rfl⟩ := h
  rwa [writesSince_apply]

end Context.Spares

namespace GroupRun

variable {rules : RunRules} {current : Bool} {g : GroupRun} {t : Trace} {index : Nat} {s : Step}
  {answer : Answer} {rest : List (Nat × Step)}

/-- Whether a group has written other keys only, and has only steps left that write others. -/
structure Spares (key : String) (base : Context) (g : GroupRun) : Prop where
  written : base.Spares key g.context
  left : ∀ e ∈ g.unsettled, key ∉ e.2.writes

theorem spares_settle (h : a.Spares key g.context) (hs : key ∉ s.writes) :
    a.Spares key (g.settle rules index s answer t).1.context := by
  simp only [settle]
  split
  · exact h.apply fun hmem => hs (s.keys_writesOf _ hmem)
  · exact h

theorem spares_join (h : a.Spares key g.context) (hrest : ∀ e ∈ rest, key ∉ e.2.writes) :
    (join rules current rest g t).1.Spares key a := by
  induction rest generalizing g t with
  | nil => exact ⟨h, hrest⟩
  | cons entry rest ih =>
    have hlater := (List.forall_mem_cons.1 hrest).2
    simp only [join]
    split
    · exact ⟨h, hrest⟩
    · split
      · exact ih (spares_settle h (hrest entry List.mem_cons_self)) hlater
      · exact ih h hlater

theorem spares_start (h : a.Spares key g.context) (hrest : ∀ e ∈ rest ++ g.detached, key ∉ e.2.writes) :
    (start rules current rest g t).1.Spares key a := by
  induction rest generalizing g t with
  | nil => exact spares_join h hrest
  | cons entry rest ih =>
    have hlater : ∀ e ∈ rest ++ g.detached, key ∉ e.2.writes :=
      fun e he => hrest e (List.mem_cons_of_mem _ he)
    simp only [start]
    split
    · exact ih h hlater
    · split
      · exact ih h hlater
      · split
        · exact ⟨h, hrest⟩
        · -- A step that is not awaited is left too, behind those that were started before it.
          apply ih
          · exact h
          · intro e he
            rw [← List.append_assoc, List.mem_append, List.mem_singleton] at he
            obtain he | rfl := he
            · exact hlater e he
            · exact hrest entry List.mem_cons_self

theorem Spares.poll (h : g.Spares key a) : (g.poll rules current t).1.Spares key a := by
  have hstay := h
  obtain ⟨hwritten, hleft⟩ := h
  simp only [unsettled] at hleft
  simp only [GroupRun.poll]
  split
  next rest hs =>
    simp only [hs] at hleft
    exact spares_start hwritten hleft
  next i s rest hs =>
    simp only [hs] at hleft
    split
    · exact hstay
    · split
      · apply spares_start (spares_settle hwritten (hleft (i, s) List.mem_cons_self))
        rw [detached_settle]
        exact fun e he => hleft e (List.mem_cons_of_mem _ he)
      · exact ⟨hwritten, fun e he => absurd he List.not_mem_nil⟩
  next rest hs =>
    simp only [hs] at hleft
    exact spares_join hwritten hleft
  next hs => exact hstay

end GroupRun

namespace GraphRun

variable {rules : RunRules} {counter : EpochCounter} {g : GraphRun} {place : Nat}

/-- Whether a graph has left a value as it was at the start, and has only steps that write other keys. -/
structure Spares (key : String) (start : Context) (g : GraphRun) : Prop where
  steps : ∀ entry ∈ g.groups, ∀ s ∈ entry.2.steps, key ∉ s.writes
  run : start.Spares key g.run.context
  working : ∀ e ∈ g.atWork, e.2.Spares key g.base

theorem spares_groupRun (hsteps : ∀ entry ∈ g.groups, ∀ s ∈ entry.2.steps, key ∉ s.writes) (place : Nat)
    (base : Context) : (g.groupRun place base).Spares key base := by
  refine ⟨.refl key base, fun e he => ?_⟩
  have hmem : e.2 ∈ (g.groupAt place).2.steps := by
    simp only [groupRun, GroupRun.of, GroupRun.unsettled, List.append_nil, List.mem_map] at he
    obtain ⟨indexed, hindexed, rfl⟩ := he
    exact (List.mem_zipIdx' hindexed).2 ▸ List.getElem_mem _
  rw [groupAt] at hmem
  cases hentry : g.groups[place]? with
  | none => simp [hentry] at hmem
  | some entry =>
    rw [hentry] at hmem
    exact hsteps entry (List.mem_of_getElem? hentry) e.2 hmem

theorem spares_goOn (hsteps : ∀ entry ∈ g.groups, ∀ s ∈ entry.2.steps, key ∉ s.writes)
    (hrun : a.Spares key g.run.context) (rest : List Nat) (waves : List (List Nat)) :
    (goOn rules counter rest waves g).Spares key a := by
  fun_induction goOn rules counter rest waves g with
  | case1 _ _ _ _ _ ih => exact ih hsteps hrun
  | case2 _ _ _ _ _ _ ih => exact ih hsteps hrun
  -- A group alone works on the context of the run, and groups together on snapshots of it.
  | case3 place rest waves g hs hh =>
    refine ⟨hsteps, hrun, fun e he => ?_⟩
    rw [List.mem_singleton.1 he]
    exact spares_groupRun hsteps place g.run.context
  | case4 => exact ⟨hsteps, hrun, fun e he => absurd he List.not_mem_nil⟩
  | case5 wave waves g runnable g' hopen hpar =>
    obtain ⟨-, hrun', hgroups⟩ := openWave_cases hopen
    rw [← hgroups] at hsteps
    rw [← hrun'] at hrun
    refine ⟨hsteps, hrun, fun e he => ?_⟩
    obtain ⟨place, -, rfl⟩ := List.mem_map.1 he
    exact spares_groupRun hsteps place g'.run.context.snapshot
  | case6 wave waves g runnable g' hopen hpar ih =>
    obtain ⟨-, hrun', hgroups⟩ := openWave_cases hopen
    exact ih (hgroups ▸ hsteps) (hrun' ▸ hrun)

theorem spares_start {graph : WorkflowGraph} {run : Run}
    (hsteps : ∀ entry ∈ graph.groups, ∀ s ∈ entry.2.steps, key ∉ s.writes) :
    (start rules counter graph run).Spares key run.context :=
  spares_goOn hsteps (.refl key run.context) _ _

theorem Spares.put {group group' : GroupRun} (h : g.Spares key a) (hrunning : g.running? place = some group)
    (hgroup : group.Spares key g.base → group'.Spares key g.base) : (g.put place group').Spares key a := by
  refine ⟨h.steps, h.run, fun e he => ?_⟩
  rw [base_put]
  obtain rfl | he := mem_atWork_put he
  · exact hgroup (h.working (place, group) (mem_atWork_of_running? hrunning))
  · exact h.working e he

theorem Spares.poll {t : Trace} (h : g.Spares key a) : (g.poll rules counter place t).1.Spares key a := by
  simp only [GraphRun.poll]
  split
  · exact h
  next group hrunning => exact h.put hrunning GroupRun.Spares.poll

theorem Spares.deliver {index : Nat} {answer : Answer} (h : g.Spares key a) :
    (g.deliver place index answer).Spares key a := by
  simp only [GraphRun.deliver]
  split
  · exact h
  next group hrunning => exact h.put hrunning fun hgroup => ⟨hgroup.written, hgroup.left⟩

theorem groups_foldl_merge {current : Bool} (groups : List (Nat × GroupRun)) :
    (groups.foldl (fun g e => g.merge rules current e.1 e.2) g).groups = g.groups := by
  apply apply_foldl GraphRun.groups
  exact fun _ _ => rfl

/-- The writes that groups have made on their snapshots are made again. -/
theorem spares_foldl_merge {current : Bool} {groups : List (Nat × GroupRun)} {base : Context}
    (hbase : base.mark = 0) (hrun : a.Spares key g.run.context) (hgroups : ∀ e ∈ groups, e.2.Spares key base) :
    a.Spares key (groups.foldl (fun g e => g.merge rules current e.1 e.2) g).run.context := by
  induction groups generalizing g with
  | nil => exact hrun
  | cons e rest ih =>
    rw [List.forall_mem_cons] at hgroups
    refine ih ?_ hgroups.2
    have hwrites := hgroups.1.written.notMem_writesSince
    rw [hbase] at hwrites
    cases current with
    | true => exact hrun.apply hwrites
    | false => exact hrun

theorem Spares.close (h : g.Spares key a) : (g.close rules counter).Spares key a := by
  obtain ⟨hsteps, hrun, hworking⟩ := h
  have hstay : g.Spares key a := ⟨hsteps, hrun, hworking⟩
  simp only [GraphRun.close]
  unfold atWork base at hworking
  cases hs : g.stage with
  | together groups waves =>
    simp only [hs] at hworking ⊢
    split
    · refine spares_goOn ?_ (spares_foldl_merge rfl hrun hworking) _ _
      rw [groups_foldl_merge]
      exact hsteps
    · exact hstay
  | alone i group rest waves =>
    simp only [hs, List.mem_singleton, forall_eq] at hworking ⊢
    split
    · apply spares_goOn
      · exact hsteps
      · exact hrun.trans hworking.written
    · exact hstay
  | finished => exact hstay

/-- All contexts that a graph works on have the value that was there at the start. -/
theorem Spares.find?_eq (h : g.Spares key a) (hc : c ∈ g.contexts) :
    c.values.find? key = a.values.find? key := by
  obtain rfl | hc := List.mem_cons.1 hc
  · exact h.run.find?_eq
  · obtain ⟨e, he, rfl⟩ := List.mem_map.1 hc
    have hbase : g.base.values = g.run.context.values := by
      unfold base
      split <;> rfl
    rw [(h.working e he).written.find?_eq, hbase, h.run.find?_eq]

end GraphRun

end BackOffice
