import BackOffice.Proofs.Run.ArrivalOrder
import BackOffice.Proofs.Run.Frame
import Mathlib

/-!
Running the groups of a wave side by side or one by one comes to the same when none of them reads what
another writes. Then each group reads, behind the groups before it, what it would have read in the context
from before the wave, and it makes the same writes there.
-/

namespace BackOffice

/-- Whether no step of a group reads an entry, or a part of one, that another group writes. -/
def StepGroup.Ignores (reader writer : StepGroup) : Prop :=
  ∀ key ∈ reader.reads, ∀ k ∈ Context.entriesOf key, k ∉ writer.writes

instance (reader writer : StepGroup) : Decidable (reader.Ignores writer) :=
  inferInstanceAs (Decidable (∀ key ∈ reader.reads, ∀ k ∈ Context.entriesOf key, k ∉ writer.writes))

/-- Whether no step of a group reads an entry, or a part of one, that another group of its wave writes. -/
def WorkflowGraph.Apart (graph : WorkflowGraph) : Prop :=
  ∀ wave ∈ (Plan.of graph).waves, ∀ w ∈ wave, ∀ r ∈ wave, w ≠ r →
    ∀ writer ∈ (Plan.groupsOf graph)[w]?, ∀ reader ∈ (Plan.groupsOf graph)[r]?, reader.Ignores writer

/-- The same conditions, with the groups of a wave side by side or one by one. -/
def Conditions.sideBySide (c : Conditions) (parallel : Bool) : Conditions :=
  { c with rules := { c.rules with parallel } }

namespace GroupRun

variable {c : Conditions}

theorem joinAll_sideBySide (parallel : Bool) (known : Known) (rest : List (Nat × Step)) (g : GroupRun) :
    joinAll (c.sideBySide parallel) known rest g = joinAll c known rest g := by
  induction rest generalizing g with
  | nil => rfl
  | cons entry rest ih => exact ih _

theorem through_sideBySide (parallel : Bool) (known : Known) (rest : List (Nat × Step)) (g : GroupRun) :
    through (c.sideBySide parallel) known rest g = through c known rest g := by
  induction rest generalizing known g with
  | nil => exact congrArg (·, []) (joinAll_sideBySide parallel known g.detached g)
  | cons entry rest ih =>
    simp only [through, ih]
    rfl

theorem ending_sideBySide (parallel : Bool) (known : Known) (g : GroupRun) :
    g.ending (c.sideBySide parallel) known = g.ending c known := by
  unfold ending
  split
  · exact through_sideBySide parallel known _ _
  · exact through_sideBySide parallel known _ _
  · exact congrArg (·, []) (joinAll_sideBySide parallel known _ _)
  · rfl

end GroupRun

namespace GraphRun

variable {c : Conditions} {g : GraphRun} {place : Nat} {waves : List (List Nat)}

/-- Where the groups of a wave end on snapshots of a context, with their requests. -/
def apart (c : Conditions) (g : GraphRun) (context : Context) (places : List Nat) :
    List (Nat × GroupRun × List Call) :=
  places.map fun i => (i, (g.groupRun i context.snapshot).ending c .nothing)

/-- Takes up groups that ran side by side. -/
def mergeAll (c : Conditions) (g : GraphRun) (ends : List (Nat × GroupRun × List Call)) : GraphRun :=
  ends.foldl (fun g e => g.merge c.rules true e.1 e.2.1) g

/-- What the groups of a wave send. -/
def sentIn (ends : List (Nat × GroupRun × List Call)) (place : Nat) : List Call :=
  ((ends.lookup place).map Prod.snd).getD []

/-- Carries a graph over a wave whose groups run side by side, and on to its end. -/
def carryOver (c : Conditions) (ends : List (Nat × GroupRun × List Call)) (waves : List (List Nat))
    (g : GraphRun) : GraphRun × (Nat → List Call) :=
  let (g, more) := carry c [] waves (g.mergeAll c ends)
  (g, fun q => sentIn ends q ++ more q)

/-- A group that reads what it would have read before its wave is taken up as if it had run on a
snapshot from then. -/
theorem takeUp_eq_merge {context : Context}
    (h : Context.AgreeOn (g.groupAt place).2.reads g.run.context context) :
    ∃ writes, (∀ key ∈ writes.map Prod.fst, key ∈ (g.groupAt place).2.writes) ∧
      (g.merge c.rules true place ((g.groupRun place context.snapshot).ending c .nothing).1).run.context =
        g.run.context.apply writes ∧
      g.takeUp c place ((g.groupRun place g.run.context).ending c .nothing).1 =
        g.merge c.rules true place ((g.groupRun place context.snapshot).ending c .nothing).1 ∧
      ((g.groupRun place g.run.context).ending c .nothing).2 =
        ((g.groupRun place context.snapshot).ending c .nothing).2 := by
  obtain ⟨r, writes, calls, hwrites, hr⟩ := @ending_groupRun c g place context
  have hown := hr _ h
  have hsnapshot := hr context.snapshot fun _ _ _ _ => rfl
  have hsince : (context.snapshot.apply writes).writesSince 0 = writes :=
    context.snapshot.writesSince_apply writes
  rw [hown, hsnapshot]
  refine ⟨writes, hwrites, ?_, ?_, rfl⟩
  · exact congrArg g.run.context.apply hsince
  · simp only [merge, takeUp, GroupRun.inContext, hsince, if_true]
    rfl

theorem isStale_merge {group : GroupRun} (hg : g.run.isStale c.counter = false) (h : group.stale = false) :
    (g.merge c.rules true place group).run.isStale c.counter = false := by
  rw [Run.isStale, Bool.or_eq_false_iff] at hg ⊢
  exact ⟨@stale_absorb c.rules _ group hg.1 h, hg.2⟩

theorem halted_merge {group : GroupRun} (hg : g.run.halted = false)
    (h : c.rules.haltOnAuth = true → group.forceLogout = false) :
    (g.merge c.rules true place group).run.halted = false := by
  change (g.run.halted || (group.forceLogout && !group.stale) && c.rules.haltOnAuth) = false
  rw [hg, Bool.false_or]
  cases hrule : c.rules.haltOnAuth with
  | false => rw [Bool.and_false]
  | true => rw [h hrule, Bool.false_and, Bool.false_and]

theorem sentIn_apart (context : Context) (places : List Nat) (q : Nat) :
    sentIn (apart c g context places) q =
      if q ∈ places then ((g.groupRun q context.snapshot).ending c .nothing).2 else [] := by
  rw [sentIn, apart, lookup_map_self]
  split <;> rfl

theorem sentIn_apart_cons {context : Context} {rest : List Nat} (h : place ∉ rest) (q : Nat) :
    sentIn (apart c g context (place :: rest)) q =
      (if q = place then ((g.groupRun place context.snapshot).ending c .nothing).2 else [])
        ++ sentIn (apart c g context rest) q := by
  simp only [sentIn_apart]
  by_cases hq : q = place
  · subst hq
    rw [if_pos List.mem_cons_self, if_pos rfl, if_neg h, List.append_nil]
  · simp only [List.mem_cons, hq, false_or, if_false, List.nil_append]

/-- The groups of a wave may as well run one by one, as long as nothing ends the session between two of
them. -/
theorem carry_eq_carryOver {context : Context} {places : List Nat} (hnodup : places.Nodup)
    (hgo : places ≠ [] → g.run.isStale c.counter = false ∧ g.run.halted = false)
    (hagree : ∀ i ∈ places, Context.AgreeOn (g.groupAt i).2.reads g.run.context context)
    (hignores : places.Pairwise fun i j => (g.groupAt j).2.Ignores (g.groupAt i).2)
    (hauth : 1 < places.length → c.rules.haltOnAuth = true →
      ∀ e ∈ apart c g context places, ∀ call ∈ e.2.2, c.endsSession (c.serve call.request) = false) :
    carry c places waves g = carryOver c (apart c g context places) waves g := by
  induction places generalizing g with
  | nil => rfl
  | cons place rest ih =>
    obtain ⟨writes, hwrites, hcontext, htakeUp, hcalls⟩ :=
      @takeUp_eq_merge c g place context (hagree place List.mem_cons_self)
    rw [List.nodup_cons] at hnodup
    rw [List.pairwise_cons] at hignores
    obtain ⟨hstale, hhalted⟩ := hgo (List.cons_ne_nil _ _)
    -- What the group at the place writes, the groups behind it do not look at.
    have hagree' : ∀ i ∈ rest,
        Context.AgreeOn (g.groupAt i).2.reads (g.run.context.apply writes) context := by
      intro i hi key hkey k hk
      have hnot : k ∉ writes.map Prod.fst := fun hmem => hignores.1 i hi key hkey k hk (hwrites k hmem)
      rw [Context.find?_apply_of_notMem hnot]
      exact hagree i (List.mem_cons_of_mem _ hi) key hkey k hk
    have hgo' (hne : rest ≠ []) := hauth (Nat.succ_lt_succ (List.length_pos_iff.2 hne))
    have hrest := ih (g := g.merge c.rules true place
        ((g.groupRun place context.snapshot).ending c .nothing).1) hnodup.2
      (fun hne => ⟨isStale_merge hstale stale_ending, halted_merge hhalted fun hrule =>
        forceLogout_ending (hgo' hne hrule _ List.mem_cons_self)⟩)
      (fun i hi => by rw [hcontext]; exact hagree' i hi) hignores.2
      (fun hlen hrule e he => hgo' (List.ne_nil_of_length_pos (by omega)) hrule e
        (List.mem_cons_of_mem _ he))
    -- Nothing gives the group up, and it is taken up as if it had run on a snapshot.
    rw [carry, if_neg (Bool.eq_false_iff.1 hstale), if_neg (Bool.eq_false_iff.1 hhalted)]
    dsimp only
    rw [htakeUp, hcalls, hrest]
    refine Prod.ext rfl (funext fun q => ?_)
    change _ ++ (sentIn (apart c g context rest) q ++ _) = sentIn (apart c g context (place :: rest)) q ++ _
    rw [sentIn_apart_cons hnodup.1, List.append_assoc]
    rfl

theorem go_of_mem_openWave {counter : EpochCounter} {wave : List Nat} {i : Nat}
    (h : i ∈ (openWave counter wave g).1) : g.run.isStale counter = false ∧ g.run.halted = false := by
  induction wave generalizing g with
  | nil => cases h
  | cons place rest ih =>
    simp only [openWave] at h
    split at h
    · exact ih (g := g.giveUp place _) h
    next hrefusal =>
      rw [refusal?] at hrefusal
      split at hrefusal
      · cases hrefusal
      · split at hrefusal
        · cases hrefusal
        next hstale hblocked =>
          rw [Bool.or_eq_true, not_or] at hblocked
          exact ⟨Bool.eq_false_iff.2 hstale, Bool.eq_false_iff.2 hblocked.1⟩

theorem groupAt_openWave (counter : EpochCounter) (wave : List Nat) (i : Nat) :
    (openWave counter wave g).2.groupAt i = g.groupAt i := by
  rw [groupAt, groups_openWave, groupAt]

/-- The ends of the groups that run in a wave. -/
def waveEnds (c : Conditions) (wave : List Nat) (g : GraphRun) : List (Nat × GroupRun × List Call) :=
  let (runnable, g) := openWave c.counter wave g
  apart c g g.run.context runnable

/-- A wave is carried over in the same way whether its groups run side by side or one by one. -/
theorem carry_wave {wave : List Nat} (hnodup : wave.Nodup)
    (hignores : ∀ i ∈ wave, ∀ j ∈ wave, i ≠ j → (g.groupAt j).2.Ignores (g.groupAt i).2)
    (hauth : c.rules.parallel = false → c.rules.haltOnAuth = true →
      ∀ e ∈ waveEnds c wave g, ∀ call ∈ e.2.2, c.endsSession (c.serve call.request) = false) :
    carry c [] (wave :: waves) g =
      carryOver c (waveEnds c wave g) waves (openWave c.counter wave g).2 := by
  have hsub := @sublist_openWave c.counter wave g
  rw [carry]
  dsimp only
  split
  · rfl
  next hpar =>
    apply carry_eq_carryOver (hnodup.sublist hsub)
    · intro hne
      rw [run_openWave]
      exact go_of_mem_openWave (List.head_mem hne)
    · exact fun _ _ _ _ _ _ => rfl
    · refine (hnodup.sublist hsub).imp_of_mem fun hi hj hij => ?_
      rw [groupAt_openWave, groupAt_openWave]
      exact hignores _ (hsub.subset hi) _ (hsub.subset hj) hij
    · intro hlen
      refine hauth ?_
      simpa only [hlen, decide_true, Bool.true_and, Bool.not_eq_true] using hpar

theorem groups_mergeAll (ends : List (Nat × GroupRun × List Call)) :
    (g.mergeAll c ends).groups = g.groups := by
  induction ends generalizing g with
  | nil => rfl
  | cons e rest ih => exact ih

theorem waveEnds_sideBySide (parallel : Bool) (wave : List Nat) :
    waveEnds (c.sideBySide parallel) wave g = waveEnds c wave g := by
  simp only [waveEnds, apart, GroupRun.ending_sideBySide]
  rfl

theorem mem_sentIn_waveEnds {wave : List Nat} {e : Nat × GroupRun × List Call} {call : Call}
    (he : e ∈ waveEnds c wave g) (hcall : call ∈ e.2.2) : call ∈ sentIn (waveEnds c wave g) e.1 := by
  obtain ⟨i, hi, rfl⟩ := List.mem_map.1 he
  rw [waveEnds, sentIn_apart, if_pos hi]
  exact hcall

/-- When no group of a wave reads what another writes, a graph ends the same way whether the groups of its
waves run side by side or one by one. -/
theorem carry_sideBySide (hnodup : ∀ wave ∈ waves, wave.Nodup)
    (hignores : ∀ wave ∈ waves, ∀ i ∈ wave, ∀ j ∈ wave, i ≠ j →
      (g.groupAt j).2.Ignores (g.groupAt i).2)
    (hauth : c.rules.haltOnAuth = true → ∀ q, ∀ call ∈ (carry (c.sideBySide true) [] waves g).2 q,
      c.endsSession (c.serve call.request) = false) :
    carry (c.sideBySide false) [] waves g = carry (c.sideBySide true) [] waves g := by
  induction waves generalizing g with
  | nil => rw [carry, carry]
  | cons wave waves ih =>
    rw [List.forall_mem_cons] at hnodup hignores
    have hside : carry (c.sideBySide true) [] (wave :: waves) g = _ :=
      carry_wave hnodup.1 hignores.1 fun h => by cases h
    rw [waveEnds_sideBySide] at hside
    rw [hside] at hauth ⊢
    -- What ends the session in the wave would also have been sent side by side.
    have hwave (hrule : c.rules.haltOnAuth = true) (e) (he : e ∈ waveEnds c wave g) (call)
        (hcall : call ∈ e.2.2) : c.endsSession (c.serve call.request) = false :=
      hauth hrule e.1 call (List.mem_append_left _ (mem_sentIn_waveEnds he hcall))
    have hone : carry (c.sideBySide false) [] (wave :: waves) g = _ :=
      carry_wave hnodup.1 hignores.1 fun _ => by
        rw [waveEnds_sideBySide]
        exact hwave
    rw [waveEnds_sideBySide] at hone
    rw [hone]
    have hgroupAt (i : Nat) :
        (((openWave c.counter wave g).2.mergeAll c (waveEnds c wave g)).groupAt i) = g.groupAt i := by
      rw [groupAt, groups_mergeAll, groups_openWave, groupAt]
    have hrest := ih (g := (openWave c.counter wave g).2.mergeAll c (waveEnds c wave g)) hnodup.2
      (fun w hw i hi j hj hij => by
        rw [hgroupAt, hgroupAt]
        exact hignores.2 w hw i hi j hj hij)
      (fun hrule q call hcall => hauth hrule q call (List.mem_append_right _ hcall))
    exact congrArg (fun r : GraphRun × (Nat → List Call) =>
      (r.1, fun q => sentIn (waveEnds c wave g) q ++ r.2 q)) hrest

end GraphRun

namespace Flight

theorem fate_opening (c : Conditions) (graph : WorkflowGraph) (run : Run) :
    (opening c graph run).fate c = GraphRun.carry c [] (Plan.of graph).waves
      { groups := graph.groups, plan := Plan.of graph, run, stage := .finished } := by
  refine (fate_next [] (Plan.of graph).waves _ _).trans ?_
  simp only [List.nil_append]
  rfl

theorem ignores_of_apart {graph : WorkflowGraph} (h : graph.Apart) {g : GraphRun}
    (hg : g.groups = graph.groups) {wave : List Nat} (hwave : wave ∈ (Plan.of graph).waves) {w r : Nat}
    (hw : w ∈ wave) (hr : r ∈ wave) (hne : w ≠ r) : (g.groupAt r).2.Ignores (g.groupAt w).2 := by
  have hat (i : Nat) : (Plan.groupsOf graph)[i]? = (g.groups[i]?).map Prod.snd := by
    rw [Plan.groupsOf, List.getElem?_map, hg]
  have hpair := h wave hwave w hw r hr hne
  rw [hat, hat] at hpair
  unfold GraphRun.groupAt
  cases hreader : g.groups[r]? with
  | none => exact fun key hkey => absurd hkey List.not_mem_nil
  | some reader =>
    cases hwriter : g.groups[w]? with
    | none => exact fun _ _ _ _ => List.not_mem_nil
    | some writer => exact hpair writer.2 (by simp [hwriter]) reader.2 (by simp [hreader])

/-- When no step reads what another group of its wave writes, and no answer halts the run by ending the
session, a graph ends in the same way whether the groups of its waves run side by side or one by one. -/
theorem same_end_one_by_one (c : Conditions) (graph : WorkflowGraph) (run : Run)
    (hcurrent : c.counter.isCurrent run.epoch = true)
    (hplain : ∀ e ∈ graph.groups, ∀ s ∈ e.2.steps, s.Plain) (hapart : graph.Apart)
    (hauth : c.rules.haltOnAuth = true → ∀ moves place,
      ∀ call ∈ ((opening (c.sideBySide true) graph run).follow (c.sideBySide true) moves).sent place,
        c.endsSession (c.serve call.request) = false) :
    ∃ outcome context sent, ∀ parallel,
      EndsIn (c.sideBySide parallel) graph run outcome context sent := by
  have hends (parallel : Bool) := endsIn_fate (c := c.sideBySide parallel)
    (@sound_opening (c.sideBySide parallel) graph run hcurrent hplain)
  obtain ⟨moves, hfin⟩ := (hends true).reached []
  have hsent := (hends true).sent moves hfin
  have hsame : (opening (c.sideBySide false) graph run).fate (c.sideBySide false) =
      (opening (c.sideBySide true) graph run).fate (c.sideBySide true) := by
    rw [fate_opening (c.sideBySide true)] at hsent ⊢
    rw [fate_opening]
    refine GraphRun.carry_sideBySide ?_ ?_ fun hrule place call hcall => ?_
    · exact fun wave hwave => (Plan.pairwise_lt_of_mem_waves hwave).imp Nat.ne_of_lt
    · exact fun wave hwave w hw r hr => ignores_of_apart hapart rfl hwave hw hr
    · rw [← hsent] at hcall
      exact hauth hrule moves place call hcall
  have hone := hends false
  rw [hsame] at hone
  exact ⟨_, _, _, Bool.forall_bool.2 ⟨hone, hends true⟩⟩

/-- A group that loads a user, and two groups that read it in the wave behind. -/
def readersGraph : WorkflowGraph :=
  ⟨[("load", ⟨[{ workflow := "LOAD", slot := some "user" }]⟩),
    ("left", ⟨[{
      workflow := "LEFT", slot := some "left", input := [("Id", .obj [("key", .str "user")])] }]⟩),
    ("right", ⟨[{
      workflow := "RIGHT", slot := some "right", input := [("Id", .obj [("key", .str "user")])] }]⟩)]⟩

theorem readers_end_one_by_one :
    (Plan.of readersGraph).waves = [[0], [1, 2]] ∧
      ∃ outcome context sent, ∀ parallel, EndsIn (echoing.sideBySide parallel) readersGraph
        { epoch := 1, context := {} } outcome context sent := by
  refine ⟨by decide +kernel, same_end_one_by_one echoing readersGraph { epoch := 1, context := {} } rfl
    (by decide +kernel) ?_ fun _ _ _ _ _ => ?_⟩
  · rw [WorkflowGraph.Apart]
    decide +kernel
  · cbv

end Flight

end BackOffice
