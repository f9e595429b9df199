import BackOffice.Proofs.Run.OneByOne
import Mathlib

/-!
What a group reads from outside. A step that reads a key which a step before it writes reads from the
group only if that write has been made when the step is bound: not when the writer is not awaited, nor
when it has failed, nor when its response had nothing at the path of the write. Contexts that agree on
the entries which a group really reads from outside make it run alike.
-/

namespace BackOffice

theorem splitAtFirst_eq_none {sep : Char} {cs : List Char} (h : sep ∉ cs) : splitAtFirst sep cs = none := by
  induction cs with
  | nil => rfl
  | cons c rest ih =>
    rw [List.mem_cons, not_or] at h
    rw [splitAtFirst, if_neg (Ne.symm h.1), ih h.2]
    rfl

namespace Context

/-- A key without dots leads to the entry under it and to nothing else. -/
theorem get?_of_dotless (c : Context) {key : String} (h : '.' ∉ key.toList) :
    c.get? key = c.values.find? key := by
  rw [get?, splitAtFirst_eq_none h]
  cases c.values.find? key <;> rfl

/-- Two contexts agree on an entry once the same writes have been made to both, if they did so before or
if the entry is among those that were written. -/
theorem find?_apply_congr {a b : Context} {writes : List Write} {key : String}
    (h : key ∈ writes.map Prod.fst ∨ a.values.find? key = b.values.find? key) :
    (a.apply writes).values.find? key = (b.apply writes).values.find? key := by
  rw [find?_apply, find?_apply]
  obtain h | h := h
  · cases hlookup : writes.reverse.lookup key with
    | some v => rfl
    | none => exact absurd h (by simpa [Keyed.keys] using Keyed.find?_eq_none_iff.1 hlookup)
  · rw [h]

end Context

/-- The entries of the context that a step looks at. -/
def Step.entries (s : Step) : List String := s.reads.flatMap Context.entriesOf

/-- The keys that are written whenever the group goes on behind the step. -/
def Step.sureWrites (s : Step) : List String := if s.awaited && s.critical then s.slot.toList else []

theorem Step.sureWrites_eq_nil {s : Step} (h : s.awaited = false ∨ s.critical = false) :
    s.sureWrites = [] := by
  rw [sureWrites, if_neg]
  rw [Bool.and_eq_true, not_and_or, Bool.not_eq_true, Bool.not_eq_true]
  exact h

/-- The entries that steps look at and that are not surely written before, given some that are. -/
def StepGroup.openAfter (sure : List String) : List Step → List String
  | [] => []
  | s :: rest => s.entries.filter (!sure.contains ·) ++ openAfter (sure ++ s.sureWrites) rest

/-- The entries that a group may read from outside, whatever is answered. -/
def StepGroup.openReads (group : StepGroup) : List String := openAfter [] group.steps

theorem StepGroup.readsAfter_subset (written : List String) (steps : List Step) :
    readsAfter written steps ⊆ steps.flatMap Step.reads := by
  induction steps generalizing written with
  | nil => exact List.Subset.refl _
  | cons s rest ih =>
    rw [readsAfter, List.flatMap_cons]
    exact List.append_subset.2 ⟨List.subset_append_of_subset_left _ ((List.filter_subset_self _)),
      List.subset_append_of_subset_right _ (ih _)⟩

namespace GroupRun

variable {c : Conditions} {known : Known} {written sure : List String} {rest : List (Nat × Step)}
  {g : GroupRun} {a b : Context}

/-- The keys that are written when an answer is taken up. -/
def keysPut (c : Conditions) (g : GroupRun) (index : Nat) (s : Step) (answer : Answer) : List String :=
  ((g.taken c index s answer).context.writesSince g.context.mark).map Prod.fst

/-- The entries that a group reads while nothing has been written to them in the group, on its way through
steps with every answer coming at once. -/
def outside (c : Conditions) : Known → List String → List (Nat × Step) → GroupRun → List String
  | _, _, [], _ => []
  | known, written, (i, s) :: rest, g =>
    if g.halted then outside c known written rest (g.giveUp i s .skipped)
    else s.entries.filter (!written.contains ·) ++
      match (s.bind g.context c.surroundings).1 with
      | .error e => outside c known written rest (g.unbound c i s e)
      | .ok request =>
        let known := known.learn c [⟨i, request, s.awaited⟩]
        if s.awaited then
          outside c known (written ++ g.keysPut c i s (known.answer i)) rest
            (g.taken c i s (known.answer i))
        else outside c known written rest { g with detached := g.detached ++ [(i, s)] }

/-- A step is bound the same way in contexts that agree on what was written and on what it still reads
from outside. -/
theorem bind_congr_outside {s : Step} {surroundings : Surroundings}
    (hwritten : ∀ k ∈ written, a.values.find? k = b.values.find? k)
    (hout : ∀ k ∈ s.entries.filter (!written.contains ·), a.values.find? k = b.values.find? k) :
    s.bind b surroundings = s.bind a surroundings := by
  refine Step.bind_congr fun key hkey k hk => ?_
  by_cases hmem : k ∈ written
  · exact (hwritten k hmem).symm
  · refine (hout k (List.mem_filter.2 ⟨List.mem_flatMap.2 ⟨key, hkey, hk⟩, ?_⟩)).symm
    simpa using hmem

/-- Whether a group goes the same way through steps in another context, sends the same requests and makes
the same writes. -/
def GoesAlike (c : Conditions) (known : Known) (rest : List (Nat × Step)) (g : GroupRun) (b : Context) :
    Prop :=
  ∃ (r : GroupRun) (writes : List Write) (calls : List Call),
    through c known rest g = (r.inContext (g.context.apply writes), calls) ∧
    through c known rest (g.inContext b) = (r.inContext (b.apply writes), calls)

theorem goesAlike_awaited {i : Nat} {s : Step} {request : Request} {known' : Known}
    (hhalted : ¬ g.halted = true) (hrequest : (s.bind g.context c.surroundings).1 = .ok request)
    (hsame : s.bind b c.surroundings = s.bind g.context c.surroundings) (hawaited : s.awaited = true)
    (hknown : known.learn c [⟨i, request, s.awaited⟩] = known')
    (h : ∀ front, g.keysPut c i s (known'.answer i) = front.map Prod.fst →
      (g.taken c i s (known'.answer i)).context = g.context.apply front →
      GoesAlike c known' rest (g.taken c i s (known'.answer i)) (b.apply front)) :
    GoesAlike c known ((i, s) :: rest) g b := by
  obtain ⟨r, front, -, -, hr⟩ := @taken_inContext c g i s (known'.answer i)
  have hself : g.taken c i s (known'.answer i) = r.inContext (g.context.apply front) := hr g.context
  have hkeys : g.keysPut c i s (known'.answer i) = front.map Prod.fst := by
    rw [keysPut, hself]
    exact congrArg (List.map Prod.fst) (g.context.writesSince_apply front)
  obtain ⟨r', back, calls, hleft, hright⟩ := h front hkeys (congrArg context hself)
  rw [hself] at hleft hright
  refine ⟨r', front ++ back, ⟨i, request, s.awaited⟩ :: calls, ?_, ?_⟩
  · rw [through, if_neg hhalted, hrequest]
    simp only [if_pos hawaited, hknown, hself, Context.apply_append]
    exact congrArg (fun p => (p.1, _ :: p.2)) hleft
  · rw [through, if_neg (show ¬ (g.inContext b).halted = true from hhalted),
      show s.bind (g.inContext b).context c.surroundings = _ from hsame, hrequest]
    simp only [if_pos hawaited, hknown, hr b, Context.apply_append]
    exact congrArg (fun p => (p.1, _ :: p.2)) hright

theorem goesAlike_detached {i : Nat} {s : Step} {request : Request} {known' : Known}
    (hhalted : ¬ g.halted = true) (hrequest : (s.bind g.context c.surroundings).1 = .ok request)
    (hsame : s.bind b c.surroundings = s.bind g.context c.surroundings) (hdetached : ¬ s.awaited = true)
    (hknown : known.learn c [⟨i, request, s.awaited⟩] = known')
    (h : GoesAlike c known' rest { g with detached := g.detached ++ [(i, s)] } b) :
    GoesAlike c known ((i, s) :: rest) g b := by
  obtain ⟨r, writes, calls, hleft, hright⟩ := h
  refine ⟨r, writes, ⟨i, request, s.awaited⟩ :: calls, ?_, ?_⟩
  · rw [through, if_neg hhalted, hrequest]
    simp only [if_neg hdetached, hknown]
    exact congrArg (fun p => (p.1, _ :: p.2)) hleft
  · rw [through, if_neg (show ¬ (g.inContext b).halted = true from hhalted),
      show s.bind (g.inContext b).context c.surroundings = _ from hsame, hrequest]
    simp only [if_neg hdetached, hknown]
    exact congrArg (fun p => (p.1, _ :: p.2)) hright

/-- A group goes the same way in a context that agrees with its own on what it reads from outside. -/
theorem goesAlike_of_outside
    (hwritten : ∀ k ∈ written, g.context.values.find? k = b.values.find? k)
    (hout : ∀ k ∈ outside c known written rest g, g.context.values.find? k = b.values.find? k) :
    GoesAlike c known rest g b := by
  -- What was written stays the same in both contexts, since the same writes are made to both.
  induction rest generalizing known written g b with
  | nil =>
    obtain ⟨r, writes, -, hr⟩ := @joinAll_inContext c known g.detached g
    exact ⟨r, writes, [], congrArg (·, []) (hr g.context), congrArg (·, []) (hr b)⟩
  | cons entry rest ih =>
    obtain ⟨i, s⟩ := entry
    by_cases hhalted : g.halted = true
    · rw [outside, if_pos hhalted] at hout
      rw [GoesAlike, through, if_pos hhalted, through,
        if_pos (show (g.inContext b).halted = true from hhalted)]
      exact ih (g := g.giveUp i s .skipped) hwritten hout
    rw [outside, if_neg hhalted, List.forall_mem_append] at hout
    obtain ⟨hown, hrest⟩ := hout
    have hsame := @bind_congr_outside written g.context b s c.surroundings hwritten hown
    cases hrequest : (s.bind g.context c.surroundings).1 with
    | error e =>
      rw [hrequest] at hrest
      rw [GoesAlike, through, if_neg hhalted, through,
        if_neg (show ¬ (g.inContext b).halted = true from hhalted),
        show s.bind (g.inContext b).context c.surroundings = _ from hsame, hrequest]
      exact ih (g := g.unbound c i s e) hwritten hrest
    | ok request =>
      rw [hrequest] at hrest
      dsimp only at hrest
      by_cases hawaited : s.awaited = true
      · rw [if_pos hawaited] at hrest
        refine goesAlike_awaited hhalted hrequest hsame hawaited rfl fun front hkeys hcontext => ?_
        rw [hkeys] at hrest
        refine @ih _ (written ++ front.map Prod.fst) _ _ (fun k hk => ?_) fun k hk => ?_
        · rw [hcontext]
          exact Context.find?_apply_congr ((List.mem_append.1 hk).symm.imp_right (hwritten k))
        · rw [hcontext]
          exact Context.find?_apply_congr (.inr (hrest k hk))
      · rw [if_neg hawaited] at hrest
        exact goesAlike_detached hhalted hrequest hsame hawaited rfl
          (ih (g := { g with detached := g.detached ++ [(i, s)] }) hwritten hrest)

/-! ### What is surely written -/

theorem halted_unbound (g : GroupRun) (index : Nat) (s : Step) (e : BindingError) :
    (g.unbound c index s e).halted = (g.halted || s.critical) := by
  simp [unbound, fail, StepError.isAuth]

/-- A group that goes on behind a step that it has waited for has made the sure writes of the step. -/
theorem sureWrites_subset {index : Nat} {s : Step} {answer : Answer} (hawaited : s.awaited = true)
    (h : (g.taken c index s answer).halted = false) : s.sureWrites ⊆ g.keysPut c index s answer := by
  intro k hk
  rw [Step.sureWrites] at hk
  split at hk
  next hsure =>
    rw [hawaited, Bool.true_and] at hsure
    cases herr : StepError.ofVerdict? (Verdict.of c.rules.authKeys (Envelope.ofResult answer)) with
    | some e => simp [taken, settle, herr, fail, hsure] at h
    | none =>
      have hcontext : (g.taken c index s answer).context =
          g.context.apply (s.writesOf (Envelope.ofResult answer).data) := by
        simp only [taken, settle, herr]
      rw [keysPut, hcontext, Context.writesSince_apply, Step.writesOf, List.map_append]
      refine List.mem_append_left _ ?_
      cases hslot : s.slot with
      | none => simp [hslot] at hk
      | some key => simpa [hslot] using hk
  next => simp at hk

/-- Whatever is answered, a group reads nothing from outside but the entries that it may read. -/
theorem outside_subset_openAfter (hsure : g.halted = false → sure ⊆ written) :
    outside c known written rest g ⊆ StepGroup.openAfter sure (rest.map Prod.snd) := by
  induction rest generalizing known written sure g with
  | nil => exact List.Subset.refl _
  | cons entry rest ih =>
    obtain ⟨i, s⟩ := entry
    rw [List.map_cons, StepGroup.openAfter, outside]
    split
    next hhalted =>
      refine List.Subset.trans (ih fun h => ?_) (List.subset_append_right _ _)
      cases hhalted.symm.trans h
    next hhalted =>
      have hsub := hsure (Bool.eq_false_iff.2 hhalted)
      have hown : s.entries.filter (!written.contains ·) ⊆ s.entries.filter (!sure.contains ·) := by
        intro k hk
        simp only [List.mem_filter, Bool.not_eq_true', List.contains_eq_mem,
          decide_eq_false_iff_not] at hk ⊢
        exact ⟨hk.1, fun h => hk.2 (hsub h)⟩
      refine List.append_subset.2 ⟨List.subset_append_of_subset_left _ hown, ?_⟩
      refine List.subset_append_of_subset_right _ ?_
      split
      next e hbind =>
        refine ih fun h => ?_
        rw [halted_unbound, Bool.or_eq_false_iff] at h
        rw [Step.sureWrites_eq_nil (.inr h.2), List.append_nil]
        exact hsub
      next request hbind =>
        dsimp only
        split
        next hawaited =>
          refine ih fun h => List.append_subset.2 ⟨List.subset_append_of_subset_left _ hsub, ?_⟩
          exact List.subset_append_of_subset_right _ (sureWrites_subset hawaited h)
        next hdetached =>
          refine ih fun _ => ?_
          rw [Step.sureWrites_eq_nil (.inl (Bool.eq_false_iff.2 hdetached)), List.append_nil]
          exact hsub

/-! ### A group on its own -/

/-- The entries that a group on its own reads from outside. -/
def outsideReads (c : Conditions) (name : String) (group : StepGroup) (run : Run) : List String :=
  outside c .nothing [] (group.steps.zipIdx.map fun s => (s.2, s.1))
    (of name run.epoch group run.context).bare

theorem outsideReads_subset_openReads (c : Conditions) (name : String) (group : StepGroup) (run : Run) :
    outsideReads c name group run ⊆ group.openReads := by
  have hsteps : (group.steps.zipIdx.map fun s => (s.2, s.1)).map Prod.snd = group.steps := by
    rw [List.map_map]
    exact List.zipIdx_map_fst 0 group.steps
  rw [StepGroup.openReads, ← hsteps, hsteps]
  have hsub := @outside_subset_openAfter c .nothing [] []
    (group.steps.zipIdx.map fun s => (s.2, s.1)) (of name run.epoch group run.context).bare
    fun _ => List.Subset.refl _
  rwa [hsteps] at hsub

theorem ending_of_outsideReads {name : String} {group : StepGroup} {run : Run}
    (h : ∀ k ∈ outsideReads c name group run, run.context.values.find? k = b.values.find? k) :
    ∃ (r : GroupRun) (writes : List Write) (calls : List Call),
      (of name run.epoch group run.context).ending c .nothing =
        (r.inContext (run.context.apply writes), calls) ∧
      (of name run.epoch group b).ending c .nothing = (r.inContext (b.apply writes), calls) :=
  goesAlike_of_outside (fun _ hk => absurd hk List.not_mem_nil) h

end GroupRun

/-- A run with another context. -/
def Run.inContext (r : Run) (context : Context) : Run := { r with context }

namespace GraphRun

theorem carry_ofGroup (c : Conditions) (name : String) (group : StepGroup) (run : Run) :
    carry c [] [[0]] (ofGroup name group run) =
      if run.isStale c.counter then ((ofGroup name group run).giveUp 0 .stale, fun _ => [])
      else if run.halted then ((ofGroup name group run).giveUp 0 .skipped, fun _ => [])
      else
        ((ofGroup name group run).takeUp c 0
            ((GroupRun.of name run.epoch group run.context).ending c .nothing).1,
          fun q => if q = 0 then ((GroupRun.of name run.epoch group run.context).ending c .nothing).2
            else []) := by
  have hblocked : (ofGroup name group run).isBlocked 0 = false := rfl
  have hrun : (ofGroup name group run).run = run := rfl
  have hend (g : GraphRun) : carry c [] [] g = (g.between, fun _ => []) := by rw [carry]
  rw [carry, openWave, refusal?, hblocked, hrun, Bool.or_false]
  by_cases hstale : run.isStale c.counter = true
  · simp only [if_pos hstale, openWave, List.length_nil]
    rw [if_neg (by simp), hend]
    rfl
  by_cases hhalted : run.halted = true
  · simp only [if_neg hstale, if_pos hhalted, openWave, List.length_nil]
    rw [if_neg (by simp), hend]
    rfl
  · simp only [if_neg hstale, if_neg hhalted, openWave, List.length_singleton]
    rw [if_neg (by simp), carry, hrun, if_neg hstale, if_neg hhalted]
    simp only [hend, List.append_nil]
    rfl

/-- A graph with another context. -/
def inContext (g : GraphRun) (context : Context) : GraphRun := { g with run := g.run.inContext context }

/-- The graph of a group comes to the same in contexts that agree on what the group reads from outside. -/
theorem carry_of_outsideReads {c : Conditions} {name : String} {group : StepGroup} {run : Run}
    {a b : Context} (h : ∀ k ∈ GroupRun.outsideReads c name group (run.inContext a),
      a.values.find? k = b.values.find? k) :
    ∃ (r : GraphRun) (writes : List Write) (sent : Nat → List Call), ∀ base, base = a ∨ base = b →
      carry c [] [[0]] (ofGroup name group (run.inContext base)) =
        (r.inContext (base.apply writes), sent) := by
  have hcarry (base : Context) := carry_ofGroup c name group (run.inContext base)
  by_cases hstale : run.isStale c.counter = true
  · refine ⟨(ofGroup name group run).giveUp 0 .stale, [], fun _ => [], fun base _ => ?_⟩
    rw [hcarry, if_pos (show (run.inContext base).isStale c.counter = true from hstale)]
    rfl
  by_cases hhalted : run.halted = true
  · refine ⟨(ofGroup name group run).giveUp 0 .skipped, [], fun _ => [], fun base _ => ?_⟩
    rw [hcarry, if_neg (show ¬ (run.inContext base).isStale c.counter = true from hstale),
      if_pos (show (run.inContext base).halted = true from hhalted)]
    rfl
  obtain ⟨r, writes, calls, hleft, hright⟩ := GroupRun.ending_of_outsideReads h
  refine ⟨(ofGroup name group run).takeUp c 0 r, writes, fun q => if q = 0 then calls else [],
    fun base hor => ?_⟩
  have hending : (GroupRun.of name run.epoch group base).ending c .nothing =
      (r.inContext (base.apply writes), calls) := by
    obtain rfl | rfl := hor
    · exact hleft
    · exact hright
  rw [hcarry, if_neg (show ¬ (run.inContext base).isStale c.counter = true from hstale),
    if_neg (show ¬ (run.inContext base).halted = true from hhalted),
    show GroupRun.ending c .nothing (.of name (run.inContext base).epoch group (run.inContext base).context) =
      _ from hending]
  rfl

end GraphRun

namespace Flight

variable {c : Conditions} {name : String} {group : StepGroup} {run : Run} {a b : Context}

/-- Whether a group runs alike on two contexts: with one outcome, one list of requests and one list of
writes, in whatever order answers arrive. -/
def RunsAlike (c : Conditions) (name : String) (group : StepGroup) (run : Run) (a b : Context) : Prop :=
  ∃ outcome writes sent, ∀ base, base = a ∨ base = b →
    EndsIn c (.ofGroup name group) (run.inContext base) outcome (base.apply writes) sent

theorem runsAlike_of_outsideReads (hcurrent : c.counter.isCurrent run.epoch = true)
    (hplain : ∀ s ∈ group.steps, s.Plain)
    (h : ∀ k ∈ GroupRun.outsideReads c name group (run.inContext a),
      a.values.find? k = b.values.find? k) : RunsAlike c name group run a b := by
  obtain ⟨r, writes, sent, hcarry⟩ := GraphRun.carry_of_outsideReads h
  refine ⟨r.outcome c.counter, writes, sent, fun base hor => ?_⟩
  have hends := endsIn_fate (@sound_opening c (.ofGroup name group) (run.inContext base) hcurrent
    fun e he => by rwa [List.mem_singleton.1 he])
  have hfate : (opening c (.ofGroup name group) (run.inContext base)).fate c =
      (r.inContext (base.apply writes), sent) := (fate_opening c _ _).trans (hcarry base hor)
  rwa [hfate] at hends

/-- A group runs alike on all contexts that agree on the entries which it reads before they are written in
it. These are among the entries that no awaited critical step before the reader writes. So the declared
external reads are all that matters when each other read comes from the slot of such a step. -/
theorem runs_alike_of_agree_outside (c : Conditions) (name : String) (group : StepGroup) (run : Run)
    (hcurrent : c.counter.isCurrent run.epoch = true) (hplain : ∀ s ∈ group.steps, s.Plain)
    (a b : Context) :
    ((∀ k ∈ GroupRun.outsideReads c name group (run.inContext a), a.values.find? k = b.values.find? k) →
      RunsAlike c name group run a b) ∧
    GroupRun.outsideReads c name group (run.inContext a) ⊆ group.openReads ∧
    ((∀ key ∈ group.reads, '.' ∉ key.toList) → group.openReads ⊆ group.externalReads →
      (∀ key ∈ group.externalReads, a.get? key = b.get? key) → RunsAlike c name group run a b) := by
  have hopen := GroupRun.outsideReads_subset_openReads c name group (run.inContext a)
  refine ⟨runsAlike_of_outsideReads hcurrent hplain, hopen, fun hdotless hsub hagree => ?_⟩
  refine runsAlike_of_outsideReads hcurrent hplain fun k hk => ?_
  have hkey := hsub (hopen hk)
  have hk : '.' ∉ k.toList := hdotless k (StepGroup.readsAfter_subset [] group.steps hkey)
  rw [← a.get?_of_dotless hk, ← b.get?_of_dotless hk]
  exact hagree k hkey

/-- Two contexts with different values under one key. -/
def oldContext : Context := ⟨[("k", .str "x")], []⟩

@[inherit_doc oldContext]
def newContext : Context := ⟨[("k", .str "y")], []⟩

/-- A step that waits for what it writes, and one that reads it. -/
def chainedGroup : StepGroup :=
  ⟨[{ workflow := "A", slot := some "k", critical := true },
    { workflow := "B", input := [("Id", .obj [("key", .str "k")])] }]⟩

theorem chained_steps_run_alike :
    "k" ∈ chainedGroup.reads ∧
      RunsAlike echoing "g" chainedGroup { epoch := 1, context := {} } oldContext newContext := by
  have hnone : chainedGroup.externalReads = [] := by decide +kernel
  have halike := (runs_alike_of_agree_outside echoing "g" chainedGroup { epoch := 1, context := {} } rfl
    (by decide +kernel) oldContext newContext).2.2
  exact ⟨by decide +kernel, halike (by decide +kernel) (by decide +kernel)
    fun key hkey => absurd (hnone ▸ hkey) List.not_mem_nil⟩

/-- A step that is not awaited, and one that reads what it writes. -/
def hastyGroup : StepGroup :=
  ⟨[{ workflow := "A", slot := some "k", awaited := false },
    { workflow := "B", input := [("Id", .obj [("key", .str "k")])] }]⟩

/-- The texts that requests carry in a field. -/
def textsOf (field : String) (calls : List Call) : List String :=
  calls.filterMap fun call => (call.request.input.find? field).bind Json.text?

/-- No key is declared to be read from outside, and yet the second step reads the context that the group is
given: the write of the first has not been made when the second is bound. -/
theorem hasty_steps_do_not_run_alike :
    hastyGroup.externalReads = [] ∧ (∀ key ∈ hastyGroup.reads, '.' ∉ key.toList) ∧
      (∀ s ∈ hastyGroup.steps, s.Plain) ∧
      ¬ RunsAlike echoing "g" hastyGroup { epoch := 1, context := {} } oldContext newContext := by
  refine ⟨by decide +kernel, by decide +kernel, by decide +kernel, ?_⟩
  rintro ⟨outcome, writes, sent, h⟩
  let moves : List FlightMove :=
    [.group 0 .go, .group 0 (.arrive 0), .group 0 (.arrive 1), .group 0 .go, .close]
  have hold := (h oldContext (.inl rfl)).sent moves (by cbv)
  have hnew := (h newContext (.inr rfl)).sent moves (by cbv)
  have hx : textsOf "Id" (sent 0) = ["x"] := by
    rw [← hold]
    cbv
  have hy : textsOf "Id" (sent 0) = ["y"] := by
    rw [← hnew]
    cbv
  exact absurd (hx.symm.trans hy) (by decide)

end Flight

end BackOffice
