import BackOffice.Proofs.Plan.Levels

/-!
A plan computed along a sorted graph. The groups are sorted so that each comes behind all that it depends on, every group
is put one level above the highest of those, and a wave holds what is on its level. Whatever order the sorting picks
among the possible ones, this comes to the plan that takes the waves away one after the other.
-/

namespace BackOffice

namespace Plan

/-- Whether a group reads, from outside, a key that another group writes. -/
def DependsOn (groups : List StepGroup) (i j : Nat) : Prop :=
  i ≠ j ∧ ∃ reader writer : StepGroup, groups[i]? = some reader ∧ groups[j]? = some writer ∧
    ∃ key ∈ reader.externalReads, key ∈ writer.writes

theorem mem_dependenciesOf_iff {groups : List StepGroup} {i j : Nat} :
    j ∈ dependenciesOf groups i ↔ DependsOn groups i j := by
  constructor
  · intro h
    obtain ⟨hj, hreads⟩ := List.mem_filter.1 h
    obtain ⟨hne, hreads⟩ := Bool.and_eq_true_iff.1 hreads
    split at hreads
    next reader writer hreader hwriter =>
      have hji : j ≠ i := of_decide_eq_true hne
      exact ⟨hji.symm, reader, writer, hreader, hwriter, (mem_dependenciesOf hwriter hreader hji).1 h⟩
    · cases hreads
  · rintro ⟨hne, reader, writer, hreader, hwriter, hkey⟩
    exact (mem_dependenciesOf hwriter hreader hne.symm).2 hkey

theorem DependsOn.lt {groups : List StepGroup} {i j : Nat} (h : DependsOn groups i j) :
    i < groups.length ∧ j < groups.length := by
  obtain ⟨-, reader, writer, hreader, hwriter, -⟩ := h
  exact ⟨(List.getElem?_eq_some_iff.1 hreader).1, (List.getElem?_eq_some_iff.1 hwriter).1⟩

theorem pairwise_dependenciesOf (groups : List StepGroup) (i : Nat) :
    (dependenciesOf groups i).Pairwise (· < ·) :=
  List.pairwise_lt_range.filter _

/-! ### Sorting -/

/-- Whether a function sorts graphs: it fails on those with a circle, and else lists all nodes, none of them before one
that leads to it. -/
structure Sorts (sort? : Nat → List (Nat × Nat) → Option (List Nat)) : Prop where
  fails_iff {size : Nat} {edges : List (Nat × Nat)} (h : ∀ e ∈ edges, e.1 < size ∧ e.2 < size) :
    sort? size edges = none ↔ ¬Acyclic fun a b => (a, b) ∈ edges
  perm {size : Nat} {edges : List (Nat × Nat)} {order : List Nat} (h : ∀ e ∈ edges, e.1 < size ∧ e.2 < size)
    (hsort : sort? size edges = some order) : order.Perm (List.range size)
  pairwise {size : Nat} {edges : List (Nat × Nat)} {order : List Nat} (h : ∀ e ∈ edges, e.1 < size ∧ e.2 < size)
    (hsort : sort? size edges = some order) : order.Pairwise fun earlier later => (later, earlier) ∉ edges

/-- The edges between groups, from the one that writes a key to the one that reads it. -/
def edgesOf (groups : List StepGroup) : List (Nat × Nat) :=
  (List.range groups.length).flatMap fun reader => (dependenciesOf groups reader).map (·, reader)

theorem mem_edgesOf {groups : List StepGroup} {i j : Nat} : (j, i) ∈ edgesOf groups ↔ DependsOn groups i j := by
  simp only [edgesOf, List.mem_flatMap, List.mem_range, List.mem_map, Prod.mk.injEq, mem_dependenciesOf_iff]
  constructor
  · rintro ⟨_, -, _, h, rfl, rfl⟩
    exact h
  · exact fun h => ⟨i, h.lt.1, j, h, rfl, rfl⟩

theorem acyclic_edgesOf (groups : List StepGroup) :
    (Acyclic fun a b => (a, b) ∈ edgesOf groups) ↔ Acyclic (DependsOn groups) := by
  have hswap : (fun a b => (a, b) ∈ edgesOf groups) = Function.swap (DependsOn groups) := by
    funext a b
    exact propext mem_edgesOf
  rw [hswap]
  exact forall_congr' fun i => not_congr Relation.transGen_swap

/-! ### Levels -/

/-- The levels with that of one place set above those of its dependencies. -/
def levelAfter (dependencies : Nat → List Nat) (levels : List Nat) (i : Nat) : List Nat :=
  levels.set i (((dependencies i).map fun d => levels[d]?.getD 0 + 1).max?.getD 0)

/-- The levels of the places, one after the other along an order. -/
def levelsAlong (dependencies : Nat → List Nat) (size : Nat) (order : List Nat) : List Nat :=
  order.foldl (levelAfter dependencies) (List.replicate size 0)

/-- Whether every place of an order has its dependencies in front of it. -/
def Behind (dependencies : Nat → List Nat) (order : List Nat) : Prop :=
  ∀ front i back, order = front ++ i :: back → ∀ j ∈ dependencies i, j ∈ front

section Levels

variable {dependencies : Nat → List Nat} {size i : Nat} {order front : List Nat}

@[simp] theorem length_levelsAlong (dependencies : Nat → List Nat) (size : Nat) (order : List Nat) :
    (levelsAlong dependencies size order).length = size := by
  induction order using List.reverseRecOn with
  | nil => exact List.length_replicate
  | append_singleton front i ih =>
    rw [levelsAlong, List.foldl_concat, levelAfter, List.length_set]
    exact ih

theorem Behind.of_concat (h : Behind dependencies (front ++ [i])) : Behind dependencies front := by
  rintro before j back rfl
  exact h before j (back ++ [i]) (by simp)

/-- A place whose dependencies have their levels gets its own. -/
theorem isLevel_levelAfter {levels : List Nat}
    (h : ∀ j ∈ dependencies i, ∃ l, levels[j]? = some l ∧ IsLevel (fun i j => j ∈ dependencies i) j l) :
    IsLevel (fun i j => j ∈ dependencies i) i
      (((dependencies i).map fun d => levels[d]?.getD 0 + 1).max?.getD 0) := by
  cases hmax : ((dependencies i).map fun d => levels[d]?.getD 0 + 1).max? with
  | none =>
    have hnone : dependencies i = [] := List.map_eq_nil_iff.1 (List.max?_eq_none_iff.1 hmax)
    exact isLevel_of_direct (by simp [hnone]) (by simp [hnone]) (.nil i)
  | some level =>
    obtain ⟨hmem, hle⟩ := List.max?_eq_some_iff.1 hmax
    refine isLevel_of_direct (fun j n hj hn => ?_) (fun j hj => ?_) ?_
    · obtain ⟨l, hl, hlevel⟩ := h j hj
      obtain rfl := hlevel.unique hn
      exact hle (l + 1) (List.mem_map.2 ⟨j, hj, by rw [hl, Option.getD_some]⟩)
    · obtain ⟨l, -, hlevel⟩ := h j hj
      exact ⟨l, hlevel⟩
    · obtain ⟨j, hj, rfl⟩ := List.mem_map.1 hmem
      obtain ⟨l, hl, hlevel⟩ := h j hj
      rw [hl]
      exact .cons hj hlevel.1

/-- Along an order that has everything behind its dependencies, all places get their levels. -/
theorem isLevel_levelsAlong (hbehind : Behind dependencies order) (hnodup : order.Nodup)
    (hsize : ∀ i ∈ order, i < size) (hi : i ∈ order) :
    ∃ l, (levelsAlong dependencies size order)[i]? = some l ∧ IsLevel (fun i j => j ∈ dependencies i) i l := by
  induction order using List.reverseRecOn generalizing i with
  | nil => cases hi
  | append_singleton front last ih =>
    have hdistinct := List.nodup_append.1 hnodup
    have hfront : ∀ j ∈ front, ∃ l, (levelsAlong dependencies size front)[j]? = some l ∧
        IsLevel (fun i j => j ∈ dependencies i) j l := fun j hj =>
      ih hbehind.of_concat hdistinct.1 (fun k hk => hsize k (List.mem_append_left _ hk)) hj
    rw [levelsAlong, List.foldl_concat, ← levelsAlong, levelAfter]
    obtain hmem | hmem := List.mem_append.1 hi
    · rw [List.getElem?_set_ne (hdistinct.2.2 i hmem last (List.mem_singleton.2 rfl)).symm]
      exact hfront i hmem
    · obtain rfl := List.mem_singleton.1 hmem
      refine ⟨_, List.getElem?_set_self ?_, isLevel_levelAfter fun j hj => hfront j (hbehind front i [] rfl j hj)⟩
      rw [length_levelsAlong]
      exact hsize i hi

end Levels

/-! ### Waves by level -/

/-- The places on each level, as they come. -/
def wavesOf (levels : List Nat) : List (List Nat) :=
  levels.zipIdx.foldl (fun waves place => waves.modify place.1 (· ++ [place.2]))
    (List.replicate ((levels.max?.map (· + 1)).getD 0) [])

section WavesOf

variable {levels : List Nat} {w i : Nat} {wave : List Nat}

theorem getElem?_foldl_modify (places : List (Nat × Nat)) (waves : List (List Nat)) (w : Nat) :
    (places.foldl (fun waves place => waves.modify place.1 (· ++ [place.2])) waves)[w]? =
      waves[w]?.map (· ++ (places.filter (·.1 == w)).map Prod.snd) := by
  induction places generalizing waves with
  | nil => simp
  | cons place places ih =>
    rw [List.foldl_cons, ih, List.getElem?_modify, List.filter_cons]
    by_cases hw : place.1 = w
    · cases waves[w]? <;> simp [hw]
    · cases waves[w]? <;> simp [hw]

theorem wavesOf_eq_some (h : (wavesOf levels)[w]? = some wave) :
    wave = (levels.zipIdx.filter (·.1 == w)).map Prod.snd := by
  rw [wavesOf, getElem?_foldl_modify, List.getElem?_replicate] at h
  split at h
  · simpa using h.symm
  · cases h

theorem mem_of_wavesOf (h : (wavesOf levels)[w]? = some wave) : i ∈ wave ↔ levels[i]? = some w := by
  rw [wavesOf_eq_some h]
  simp [List.mem_zipIdx_iff_getElem?]

theorem pairwise_of_wavesOf (h : (wavesOf levels)[w]? = some wave) : wave.Pairwise (· < ·) := by
  rw [wavesOf_eq_some h]
  have hsub : ((levels.zipIdx.filter (·.1 == w)).map Prod.snd).Sublist (levels.zipIdx.map Prod.snd) :=
    List.filter_sublist.map Prod.snd
  rw [List.zipIdx_map_snd] at hsub
  exact List.Pairwise.sublist hsub List.pairwise_lt_range'

/-- There are waves up to the highest level. -/
theorem exists_wavesOf_iff : (∃ wave, (wavesOf levels)[w]? = some wave) ↔ ∃ l ∈ levels, w ≤ l := by
  rw [wavesOf, getElem?_foldl_modify, List.getElem?_replicate]
  cases hmax : levels.max? with
  | none => simp [List.max?_eq_none_iff.1 hmax]
  | some top =>
    obtain ⟨hmem, hle⟩ := List.max?_eq_some_iff.1 hmax
    rw [Option.map_some, Option.getD_some]
    constructor
    · rintro ⟨wave, h⟩
      split at h
      next hlt => exact ⟨top, hmem, Nat.lt_succ_iff.1 hlt⟩
      · cases h
    · rintro ⟨l, hl, hwl⟩
      rw [if_pos (Nat.lt_succ_of_le (Nat.le_trans hwl (hle l hl))), Option.map_some]
      exact ⟨_, rfl⟩

/-- What takes the waves away one after the other finds the same waves. -/
theorem wavesOf_eq_of_waves? {dependencies : Nat → List Nat} {fuel size : Nat} {ws : List (List Nat)}
    (h : waves? dependencies fuel (List.range size) = some ws)
    (hclosed : ∀ i < size, ∀ j ∈ dependencies i, j < size) (hlength : levels.length = size)
    (hlevels : ∀ i < size, ∃ l, levels[i]? = some l ∧ IsLevel (fun i j => j ∈ dependencies i) i l) :
    wavesOf levels = ws := by
  have hrange : ∀ i ∈ List.range size, ∀ j ∈ dependencies i, j ∈ List.range size := fun i hi j hj =>
    List.mem_range.2 (hclosed i (List.mem_range.1 hi) j hj)
  -- The wave of a place is its level, on both sides.
  have hmem : ∀ {w : Nat} {wave : List Nat}, ws[w]? = some wave → ∀ i, i ∈ wave ↔ levels[i]? = some w := by
    intro w wave hwave i
    rw [mem_wave_iff h hrange hwave, List.mem_range]
    constructor
    · rintro ⟨hi, hlevel⟩
      obtain ⟨l, hl, hlevel'⟩ := hlevels i hi
      rw [hl, hlevel'.unique hlevel]
    · intro hl
      have hi : i < size := hlength ▸ (List.getElem?_eq_some_iff.1 hl).1
      obtain ⟨l, hl', hlevel⟩ := hlevels i hi
      obtain rfl : l = w := Option.some.inj (hl'.symm.trans hl)
      exact ⟨hi, hlevel⟩
  apply List.ext_getElem?
  intro w
  cases hwave : ws[w]? with
  | none =>
    rw [Option.eq_none_iff_forall_not_mem]
    intro wave hwave'
    obtain ⟨l, hl, hwl⟩ := exists_wavesOf_iff.1 ⟨wave, hwave'⟩
    obtain ⟨i, hi⟩ := List.mem_iff_getElem?.1 hl
    have hlt : i < size := hlength ▸ (List.getElem?_eq_some_iff.1 hi).1
    obtain ⟨v, wave', hwave', hiv⟩ := exists_wave h (List.mem_range.2 hlt)
    obtain rfl : l = v := Option.some.inj (hi.symm.trans ((hmem hwave' i).1 hiv))
    have hshort : ws.length ≤ w := List.getElem?_eq_none_iff.1 hwave
    have hlong : l < ws.length := (List.getElem?_eq_some_iff.1 hwave').1
    omega
  | some wave =>
    have hwave_mem : wave ∈ ws := List.mem_of_getElem? hwave
    obtain ⟨i, hi⟩ := List.exists_mem_of_ne_nil wave (ne_nil_of_waves? h hwave_mem)
    have hlevel : levels[i]? = some w := (hmem hwave i).1 hi
    obtain ⟨wave', hwave'⟩ := exists_wavesOf_iff.2 ⟨w, List.mem_of_getElem? hlevel, Nat.le_refl w⟩
    rw [hwave']
    congr 1
    exact (pairwise_of_wavesOf hwave').eq_of_mem_iff
      (pairwise_of_waves? List.pairwise_lt_range h wave hwave_mem)
      fun {i} => (mem_of_wavesOf hwave').trans (hmem hwave i).symm

end WavesOf

/-! ### The plan along a sorted graph -/

/-- The plan of a graph, with the groups sorted by a function of its own. -/
def along (sort? : Nat → List (Nat × Nat) → Option (List Nat)) (graph : WorkflowGraph) : Plan :=
  let groups := groupsOf graph
  let places := List.range groups.length
  match sort? groups.length (edgesOf groups) with
  | some order =>
    ⟨wavesOf (levelsAlong (dependenciesOf groups) groups.length order), places.map (dependenciesOf groups), false⟩
  | none => ⟨places.map ([·]), places.map fun i => (dependenciesOf groups i).filter (· < i), true⟩

/-- Whether the dependencies of a plan are, group by group and in ascending order, those that a relation gives. -/
structure Lists (p : Plan) (size : Nat) (r : Nat → Nat → Prop) : Prop where
  length : p.dependencies.length = size
  pairwise {i : Nat} {dependencies : List Nat} (h : p.dependencies[i]? = some dependencies) :
    dependencies.Pairwise (· < ·)
  mem_iff {i j : Nat} {dependencies : List Nat} (h : p.dependencies[i]? = some dependencies) :
    j ∈ dependencies ↔ r i j

/-- Whether a plan has the groups laid out by the longest chains of dependencies below them. -/
structure Layered (groups : List StepGroup) (p : Plan) : Prop where
  not_sequential : p.sequential = false
  dependencies : p.Lists groups.length (DependsOn groups)
  perm : p.waves.flatten.Perm (List.range groups.length)
  pairwise {wave : List Nat} (h : wave ∈ p.waves) : wave.Pairwise (· < ·)
  ne_nil {wave : List Nat} (h : wave ∈ p.waves) : wave ≠ []
  isLevel {w i : Nat} {wave : List Nat} (h : p.waves[w]? = some wave) (hi : i ∈ wave) :
    IsLevel (DependsOn groups) i w

/-- Whether a plan has the groups one by one, each behind those of its dependencies that are declared before it. -/
structure OneByOne (groups : List StepGroup) (p : Plan) : Prop where
  sequential : p.sequential = true
  dependencies : p.Lists groups.length fun i j => j < i ∧ DependsOn groups i j
  waves : p.waves = (List.range groups.length).map ([·])

section Along

variable {graph : WorkflowGraph}

theorem dependsOn_eq (groups : List StepGroup) :
    (fun i j => j ∈ dependenciesOf groups i) = DependsOn groups := by
  funext i j
  exact propext mem_dependenciesOf_iff

/-- There are waves exactly when no group depends on itself. -/
theorem exists_waves?_dependenciesOf_iff (groups : List StepGroup) :
    (∃ ws, waves? (dependenciesOf groups) groups.length (List.range groups.length) = some ws) ↔
      Acyclic (DependsOn groups) := by
  rw [← dependsOn_eq]
  refine exists_waves?_iff (fun i j h => ?_) (Nat.le_of_eq List.length_range)
  have hlt := (mem_dependenciesOf_iff.1 h).lt
  exact ⟨List.mem_range.2 hlt.1, List.mem_range.2 hlt.2⟩

theorem sequential_of_iff (graph : WorkflowGraph) :
    (of graph).sequential = false ↔ Acyclic (DependsOn (groupsOf graph)) := by
  rw [← exists_waves?_dependenciesOf_iff]
  simp only [of, groupsOf]
  split
  next ws h => exact ⟨fun _ => ⟨ws, h⟩, fun _ => rfl⟩
  next h =>
    constructor
    · intro hsequential
      cases hsequential
    · rintro ⟨ws, hws⟩
      cases h.symm.trans hws

theorem lists_map (groups : List StepGroup) (p : Plan) (keep : Nat → Nat → Bool)
    (h : p.dependencies = (List.range groups.length).map fun i => (dependenciesOf groups i).filter (keep i)) :
    p.Lists groups.length fun i j => keep i j ∧ DependsOn groups i j := by
  have hget : ∀ {i : Nat} {dependencies : List Nat}, p.dependencies[i]? = some dependencies →
      dependencies = (dependenciesOf groups i).filter (keep i) := by
    intro i dependencies hi
    rw [h, List.getElem?_map] at hi
    obtain ⟨j, hj, rfl⟩ := Option.map_eq_some_iff.1 hi
    obtain ⟨hlt, rfl⟩ := List.getElem?_eq_some_iff.1 hj
    rw [List.getElem_range]
  refine ⟨by rw [h, List.length_map, List.length_range], fun hi => ?_, fun hi => ?_⟩
  · rw [hget hi]
    exact (pairwise_dependenciesOf groups _).filter _
  · rw [hget hi, List.mem_filter, mem_dependenciesOf_iff, and_comm]

theorem layered_of (h : Acyclic (DependsOn (groupsOf graph))) : Layered (groupsOf graph) (of graph) := by
  have hsequential := (sequential_of_iff graph).2 h
  obtain ⟨-, hws, hdependencies⟩ | ⟨hs, -⟩ := of_cases graph
  · have hclosed : ∀ i ∈ List.range (groupsOf graph).length, ∀ j ∈ dependenciesOf (groupsOf graph) i,
        j ∈ List.range (groupsOf graph).length :=
      fun i _ j hj => List.mem_range.2 (mem_dependenciesOf_iff.1 hj).lt.2
    refine ⟨hsequential, ?_, perm_of_waves? hws, pairwise_lt_of_mem_waves, ne_nil_of_waves? hws, fun hwave hi => ?_⟩
    · simpa using lists_map (groupsOf graph) (of graph) (fun _ _ => true) (by simpa using hdependencies)
    · rw [← dependsOn_eq]
      exact isLevel_of_waves? hws hclosed hwave hi
  · cases hsequential.symm.trans hs

theorem oneByOne_of (h : ¬Acyclic (DependsOn (groupsOf graph))) : OneByOne (groupsOf graph) (of graph) := by
  obtain ⟨hs, -⟩ | ⟨hs, hws, hdependencies⟩ := of_cases graph
  · exact absurd ((sequential_of_iff graph).1 hs) h
  · refine ⟨hs, ?_, hws⟩
    simpa using lists_map (groupsOf graph) (of graph) (fun i j => decide (j < i)) hdependencies

/-- An order of the groups has each behind its dependencies. -/
theorem behind_of_pairwise {groups : List StepGroup} {order : List Nat} (hacyclic : Acyclic (DependsOn groups))
    (hperm : order.Perm (List.range groups.length))
    (hpairwise : order.Pairwise fun earlier later => (later, earlier) ∉ edgesOf groups) :
    Behind (dependenciesOf groups) order := by
  rintro front i back rfl j hj
  have hdepends := mem_dependenciesOf_iff.1 hj
  have hmem : j ∈ front ++ i :: back := hperm.mem_iff.2 (List.mem_range.2 hdepends.lt.2)
  obtain hfront | hmem := List.mem_append.1 hmem
  · exact hfront
  · obtain rfl | hback := List.mem_cons.1 hmem
    · exact absurd (.single hdepends) (hacyclic j)
    · have hlater := (List.pairwise_cons.1 (List.pairwise_append.1 hpairwise).2.1).1 j hback
      exact absurd (mem_edgesOf.2 hdepends) hlater

/-- Whichever order the groups are sorted in, the plan is the same. -/
theorem along_eq_of {sort? : Nat → List (Nat × Nat) → Option (List Nat)} (h : Sorts sort?) (graph : WorkflowGraph) :
    along sort? graph = of graph := by
  have hbound : ∀ e ∈ edgesOf (groupsOf graph), e.1 < (groupsOf graph).length ∧ e.2 < (groupsOf graph).length :=
    fun e he => (mem_edgesOf.1 he).lt.symm
  cases hsort : sort? (groupsOf graph).length (edgesOf (groupsOf graph)) with
  | none =>
    have hcyclic : ¬Acyclic (DependsOn (groupsOf graph)) := by
      rw [← acyclic_edgesOf]
      exact (h.fails_iff hbound).1 hsort
    obtain ⟨hs, -⟩ | ⟨hs, hws, hdependencies⟩ := of_cases graph
    · exact absurd ((sequential_of_iff graph).1 hs) hcyclic
    · simp only [along, hsort, ← hws, ← hdependencies, ← hs]
  | some order =>
    have hacyclic : Acyclic (DependsOn (groupsOf graph)) := by
      rw [← acyclic_edgesOf]
      by_contra hcyclic
      exact Option.some_ne_none order (hsort.symm.trans ((h.fails_iff hbound).2 hcyclic))
    have hperm := h.perm hbound hsort
    have hbehind := behind_of_pairwise hacyclic hperm (h.pairwise hbound hsort)
    obtain ⟨hs, hws, hdependencies⟩ | ⟨hs, -⟩ := of_cases graph
    · have hwaves : wavesOf (levelsAlong (dependenciesOf (groupsOf graph)) (groupsOf graph).length order) =
          (of graph).waves := by
        refine wavesOf_eq_of_waves? hws (fun i _ j hj => (mem_dependenciesOf_iff.1 hj).lt.2) (length_levelsAlong ..)
          fun i hi => ?_
        refine isLevel_levelsAlong hbehind (hperm.nodup_iff.2 List.nodup_range)
          (fun j hj => List.mem_range.1 (hperm.mem_iff.1 hj)) (hperm.mem_iff.2 (List.mem_range.2 hi))
      simp only [along, hsort, hwaves, ← hdependencies, ← hs]
    · have hlayered := (sequential_of_iff graph).2 hacyclic
      cases hlayered.symm.trans hs

/-- Whichever order the groups are sorted in, groups that do not depend on each other in a circle are laid out by the
longest chains of dependencies below them, and others run one by one. -/
theorem plan_along_sorted {sort? : Nat → List (Nat × Nat) → Option (List Nat)} (h : Sorts sort?)
    (graph : WorkflowGraph) :
    along sort? graph = of graph ∧
      (Acyclic (DependsOn (groupsOf graph)) → Layered (groupsOf graph) (of graph)) ∧
      (¬Acyclic (DependsOn (groupsOf graph)) → OneByOne (groupsOf graph) (of graph)) :=
  ⟨along_eq_of h graph, layered_of, oneByOne_of⟩

/-- Sorts a graph by taking away, again and again, all nodes to which none of those that are left leads. -/
def takeAway (size : Nat) (edges : List (Nat × Nat)) : Option (List Nat) :=
  (waves? (fun i => (edges.filter (·.2 == i)).map Prod.fst) size (List.range size)).map List.flatten

theorem pairwise_flatten_of_waves? {dependencies : Nat → List Nat} {fuel : Nat} {left : List Nat}
    {ws : List (List Nat)} (h : waves? dependencies fuel left = some ws) :
    ws.flatten.Pairwise fun earlier later => later ∉ dependencies earlier := by
  induction ws generalizing fuel left with
  | nil => exact .nil
  | cons wave rest ih =>
    obtain ⟨-, hws⟩ | ⟨n, rest', hws, hrest⟩ := waves?_cases h
    · cases hws
    · obtain ⟨rfl, rfl⟩ := List.cons.inj hws
      -- What is ready depends on nothing that is left, which is in its wave or in a later one.
      have hready : ∀ i ∈ readyAmong dependencies left, ∀ j ∈ left, j ∉ dependencies i :=
        fun i hi j hj hd => (mem_readyAmong.1 hi).2 j hd hj
      rw [List.flatten_cons, List.pairwise_append]
      refine ⟨List.pairwise_of_forall_mem_list fun i hi j hj => hready i hi j (mem_readyAmong.1 hj).1, ih hrest, ?_⟩
      exact fun i hi j hj => hready i hi j (mem_rest.1 ((perm_of_waves? hrest).mem_iff.1 hj)).1

theorem sorts_takeAway : Sorts takeAway := by
  have hmem : ∀ (edges : List (Nat × Nat)) (i j : Nat),
      j ∈ (edges.filter (·.2 == i)).map Prod.fst ↔ (j, i) ∈ edges := by simp
  refine ⟨fun {size edges} h => ?_, fun h hsort => ?_, fun {size edges order} h hsort => ?_⟩
  · have hclosed : ∀ i j, j ∈ (edges.filter (·.2 == i)).map Prod.fst → i ∈ List.range size ∧ j ∈ List.range size := by
      intro i j hj
      have hlt := h (j, i) ((hmem edges i j).1 hj)
      exact ⟨List.mem_range.2 hlt.2, List.mem_range.2 hlt.1⟩
    have hswap : (fun i j => j ∈ (edges.filter (·.2 == i)).map Prod.fst) =
        Function.swap fun a b => (a, b) ∈ edges := by
      funext i j
      exact propext (hmem edges i j)
    have hlength : (List.range size).length ≤ size := Nat.le_of_eq List.length_range
    have hiff := exists_waves?_iff hclosed hlength
    rw [takeAway, Option.map_eq_none_iff, Option.eq_none_iff_forall_ne_some, ← not_exists, hiff, hswap]
    exact not_congr (forall_congr' fun i => not_congr Relation.transGen_swap)
  · obtain ⟨ws, hws, rfl⟩ := Option.map_eq_some_iff.1 hsort
    exact perm_of_waves? hws
  · obtain ⟨ws, hws, rfl⟩ := Option.map_eq_some_iff.1 hsort
    exact (pairwise_flatten_of_waves? hws).imp fun hnot hedge => hnot ((hmem edges _ _).2 hedge)

theorem acyclic_userGraph : Acyclic (DependsOn (groupsOf userGraph)) :=
  (sequential_of_iff userGraph).1 (by decide +kernel)

/-- Two groups of which each reads what the other writes. -/
def circleGraph : WorkflowGraph :=
  ⟨[("a", ⟨[{ workflow := "A", input := [("Y", .obj [("key", .str "y")])], writeBacks := [⟨"", "x"⟩] }]⟩),
    ("b", ⟨[{ workflow := "B", input := [("X", .obj [("key", .str "x")])], writeBacks := [⟨"", "y"⟩] }]⟩)]⟩

theorem cyclic_circleGraph : ¬Acyclic (DependsOn (groupsOf circleGraph)) := by
  rw [← sequential_of_iff]
  decide +kernel

/-- The group that shows the user stands on the level of one chain below it, and the groups of the circle run in turn. -/
theorem reader_one_level_up_and_circle_in_turn :
    (along takeAway userGraph = of userGraph ∧ (of userGraph).waves = [[1], [0]] ∧
      IsLevel (DependsOn (groupsOf userGraph)) 0 1) ∧
    (along takeAway circleGraph = of circleGraph ∧ (of circleGraph).waves = [[0], [1]] ∧
      OneByOne (groupsOf circleGraph) (of circleGraph)) := by
  have huser := plan_along_sorted sorts_takeAway userGraph
  have hcircle := plan_along_sorted sorts_takeAway circleGraph
  have hwaves : (of userGraph).waves = [[1], [0]] := by decide +kernel
  have hreader : (of userGraph).waves[1]? = some [0] := by
    rw [hwaves]
    rfl
  exact ⟨⟨huser.1, hwaves, (huser.2.1 acyclic_userGraph).isLevel hreader (List.mem_singleton.2 rfl)⟩,
    hcircle.1, (hcircle.2.2 cyclic_circleGraph).waves, hcircle.2.2 cyclic_circleGraph⟩

end Along

end Plan

end BackOffice
