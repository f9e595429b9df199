import BackOffice.Workflow.Plan
import BackOffice.Proofs.Context.Reads

/-!
What the waves of a plan promise. Every group stands in exactly one wave, each wave lists its groups as
they are declared, and a group comes after all that it depends on. A dependency is seen exactly when a
key is read under the name under which it is written: a read of `menu.id` does not wait for the group
that writes `menu`, although the context finds the one in the other.
-/

namespace BackOffice

namespace Plan

/-- Whether a place stands in an earlier wave than another. -/
def Precedes (p : Plan) (a b : Nat) : Prop :=
  ∃ front wave back, p.waves = front ++ wave :: back ∧ a ∈ front.flatten ∧ b ∈ wave

/-- The dependencies of the group at a place. -/
def dependenciesAt (p : Plan) (place : Nat) : List Nat := p.dependencies[place]?.getD []

/-- The places among some that depend on none of them. -/
def readyAmong (dependencies : Nat → List Nat) (left : List Nat) : List Nat :=
  left.filter fun i => (dependencies i).all (!left.contains ·)

section Waves

variable {dependencies : Nat → List Nat} {fuel : Nat} {left wave : List Nat} {ws front back : List (List Nat)}

/-- One round of the layering: what is ready makes a wave, and the rest is laid out behind it. -/
theorem waves?_cases (h : waves? dependencies fuel left = some ws) :
    (left = [] ∧ ws = []) ∨ ∃ n rest, ws = readyAmong dependencies left :: rest ∧
      waves? dependencies n (left.filter (!(readyAmong dependencies left).contains ·)) = some rest := by
  cases left with
  | nil => exact .inl ⟨rfl, by simpa [waves?, eq_comm] using h⟩
  | cons i more =>
    cases fuel with
    | zero => simp [waves?] at h
    | succ n =>
      simp only [waves?] at h
      split at h
      · simp at h
      · obtain ⟨rest, hrest, rfl⟩ := Option.map_eq_some_iff.1 h
        exact .inr ⟨n, rest, rfl, hrest⟩

theorem filter_readyAmong (dependencies : Nat → List Nat) (left : List Nat) :
    left.filter (!(readyAmong dependencies left).contains ·) =
      left.filter fun i => !(dependencies i).all (!left.contains ·) := by
  apply List.filter_congr
  intro i hi
  rw [Bool.not_inj_iff, Bool.eq_iff_iff]
  simp [readyAmong, hi]

theorem perm_of_waves? (h : waves? dependencies fuel left = some ws) : ws.flatten.Perm left := by
  induction ws generalizing fuel left with
  | nil =>
    obtain ⟨rfl, -⟩ | ⟨n, rest, hws, -⟩ := waves?_cases h
    · exact .nil
    · simp at hws
  | cons wave rest ih =>
    obtain ⟨-, hws⟩ | ⟨n, rest', hws, hrest⟩ := waves?_cases h
    · simp at hws
    · obtain ⟨rfl, rfl⟩ := List.cons.inj hws
      -- What a round does not lay out is what it leaves over.
      have hp := ih hrest
      rw [filter_readyAmong] at hp
      rw [List.flatten_cons]
      exact (hp.append_left _).trans (List.filter_append_perm _ left)

theorem pairwise_of_waves? (hleft : left.Pairwise (· < ·)) (h : waves? dependencies fuel left = some ws) :
    ∀ wave ∈ ws, wave.Pairwise (· < ·) := by
  induction ws generalizing fuel left with
  | nil => simp
  | cons wave rest ih =>
    obtain ⟨-, hws⟩ | ⟨n, rest', hws, hrest⟩ := waves?_cases h
    · simp at hws
    · obtain ⟨rfl, rfl⟩ := List.cons.inj hws
      intro w hw
      rcases List.mem_cons.1 hw with rfl | hw
      · exact hleft.filter _
      · exact ih (hleft.filter _) hrest w hw

/-- Whatever a place of a wave depends on has been taken away in the waves before. -/
theorem mem_front_of_waves? (h : waves? dependencies fuel left = some ws)
    (hws : ws = front ++ wave :: back) {a b : Nat} (hb : b ∈ wave) (ha : a ∈ dependencies b)
    (hleft : a ∈ left) : a ∈ front.flatten := by
  induction front generalizing fuel left ws with
  | nil =>
    obtain ⟨-, h0⟩ | ⟨n, rest, h1, -⟩ := waves?_cases h
    · simp [h0] at hws
    · -- The first wave depends on nothing that is left, and all of `left` is.
      obtain ⟨rfl, -⟩ := List.cons.inj (h1.symm.trans hws)
      have hall := (List.mem_filter.1 hb).2
      have := List.all_eq_true.1 hall a ha
      simp [hleft] at this
  | cons first front ih =>
    obtain ⟨-, h0⟩ | ⟨n, rest, h1, hrest⟩ := waves?_cases h
    · simp [h0] at hws
    · obtain ⟨rfl, hrest'⟩ := List.cons.inj (h1.symm.trans hws)
      rw [List.flatten_cons, List.mem_append]
      by_cases hready : a ∈ readyAmong dependencies left
      · exact .inl hready
      · exact .inr (ih hrest hrest' (List.mem_filter.2 ⟨hleft, by simpa using hready⟩))

end Waves

/-- The groups of a graph by place. -/
def groupsOf (graph : WorkflowGraph) : List StepGroup := graph.groups.map Prod.snd

theorem of_cases (graph : WorkflowGraph) :
    ((of graph).sequential = false ∧
      waves? (dependenciesOf (groupsOf graph)) (groupsOf graph).length
        (List.range (groupsOf graph).length) = some (of graph).waves ∧
      (of graph).dependencies =
        (List.range (groupsOf graph).length).map (dependenciesOf (groupsOf graph))) ∨
    ((of graph).sequential = true ∧
      (of graph).waves = (List.range (groupsOf graph).length).map ([·]) ∧
      (of graph).dependencies = (List.range (groupsOf graph).length).map fun i =>
        (dependenciesOf (groupsOf graph) i).filter (· < i)) := by
  simp only [of, groupsOf]
  split
  next ws h => exact .inl ⟨rfl, h, rfl⟩
  next => exact .inr ⟨rfl, rfl, rfl⟩

/-- Every group stands in exactly one wave. -/
theorem perm_flatten_waves (graph : WorkflowGraph) :
    (of graph).waves.flatten.Perm (List.range graph.groups.length) := by
  obtain ⟨-, h, -⟩ | ⟨-, h, -⟩ := of_cases graph
  · simpa [groupsOf] using perm_of_waves? h
  · rw [h]
    simp [groupsOf, ← List.flatMap_def]

/-- A wave lists its groups in the order of declaration. -/
theorem pairwise_lt_of_mem_waves {graph : WorkflowGraph} {wave : List Nat}
    (hw : wave ∈ (of graph).waves) : wave.Pairwise (· < ·) := by
  obtain ⟨-, h, -⟩ | ⟨-, h, -⟩ := of_cases graph
  · exact pairwise_of_waves? List.pairwise_lt_range h wave hw
  · rw [h] at hw
    obtain ⟨i, -, rfl⟩ := List.mem_map.1 hw
    simp

theorem mem_dependenciesOf {groups : List StepGroup} {w r : Nat} {writer reader : StepGroup}
    (hw : groups[w]? = some writer) (hr : groups[r]? = some reader) (hne : w ≠ r) :
    w ∈ dependenciesOf groups r ↔ ∃ key ∈ reader.externalReads, key ∈ writer.writes := by
  obtain ⟨hlt, rfl⟩ := List.getElem?_eq_some_iff.1 hw
  simp [dependenciesOf, hr, hne, hlt, reads]

theorem dependenciesAt_of {graph : WorkflowGraph} (h : (of graph).sequential = false) {r : Nat}
    (hr : r < (groupsOf graph).length) :
    (of graph).dependenciesAt r = dependenciesOf (groupsOf graph) r := by
  obtain ⟨-, -, hd⟩ | ⟨hs, -⟩ := of_cases graph
  · simp [dependenciesAt, hd, hr]
  · simp [h] at hs

/-- In a plan that is not sequential a group comes after all that it depends on. -/
theorem precedes_of_dependency {graph : WorkflowGraph} (h : (of graph).sequential = false) {w r : Nat}
    (hr : r < graph.groups.length) (hd : w ∈ dependenciesOf (groupsOf graph) r) :
    (of graph).Precedes w r := by
  obtain ⟨-, hws, -⟩ | ⟨hs, -⟩ := of_cases graph
  · have hmem : r ∈ (of graph).waves.flatten := (perm_flatten_waves graph).mem_iff.2 (List.mem_range.2 hr)
    obtain ⟨wave, hwave, hrw⟩ := List.mem_flatten.1 hmem
    obtain ⟨front, back, hsplit⟩ := List.append_of_mem hwave
    have hleft : w ∈ List.range (groupsOf graph).length := (List.mem_filter.1 hd).1
    exact ⟨front, wave, back, hsplit, mem_front_of_waves? hws hsplit hrw hd hleft, hrw⟩
  · simp [h] at hs

/-- Whatever a group has to come after stands in an earlier wave, also when the groups run one by one. -/
theorem mem_front_of_dependency {graph : WorkflowGraph} {front : List (List Nat)} {wave : List Nat}
    {back : List (List Nat)} (h : (of graph).waves = front ++ wave :: back) {i d : Nat} (hi : i ∈ wave)
    (hd : d ∈ (of graph).dependenciesAt i) : d ∈ front.flatten := by
  have hlt : i < (groupsOf graph).length := by
    have hmem : i ∈ (of graph).waves.flatten := by
      rw [h]
      exact List.mem_flatten.2 ⟨wave, by simp, hi⟩
    simpa [groupsOf] using (perm_flatten_waves graph).mem_iff.1 hmem
  obtain ⟨-, hws, hdependencies⟩ | ⟨-, hws, hdependencies⟩ := of_cases graph
  · simp only [dependenciesAt, hdependencies, List.getElem?_map, List.getElem?_range hlt, Option.map_some,
      Option.getD_some] at hd
    have hleft : d ∈ List.range (groupsOf graph).length := (List.mem_filter.1 hd).1
    exact mem_front_of_waves? hws h hi hd hleft
  · simp only [dependenciesAt, hdependencies, List.getElem?_map, List.getElem?_range hlt, Option.map_some,
      Option.getD_some, List.mem_filter, decide_eq_true_eq] at hd
    -- One by one the waves are the places themselves, and those before a place are the smaller ones.
    obtain ⟨before, rest, hrange, rfl, hrest⟩ := List.map_eq_append_iff.1 (hws.symm.trans h)
    obtain ⟨j, behind, rfl, rfl, -⟩ := List.map_eq_cons_iff.1 hrest
    obtain rfl := List.mem_singleton.1 hi
    have hsorted : (before ++ i :: behind).Pairwise (· < ·) := hrange ▸ List.pairwise_lt_range
    have hmem : d ∈ before ++ i :: behind := hrange ▸ List.mem_range.2 (Nat.lt_trans hd.2 hlt)
    rw [List.pairwise_append, List.pairwise_cons] at hsorted
    obtain hbefore | hbehind := List.mem_append.1 hmem
    · exact List.mem_flatten.2 ⟨[d], List.mem_map_of_mem hbefore, List.mem_singleton.2 rfl⟩
    · obtain rfl | hbehind := List.mem_cons.1 hbehind
      · exact absurd hd.2 (Nat.lt_irrefl d)
      · exact absurd hd.2 (Nat.not_lt.2 (Nat.le_of_lt (hsorted.2.1.1 d hbehind)))

/-- A group waits for another exactly when it reads, from outside, a key that the other writes under the
same name. Reading a part of an entry that the other writes is not seen. -/
theorem waits_iff_reads_whole_key (graph : WorkflowGraph) (h : (of graph).sequential = false)
    {w r : Nat} {writer reader : StepGroup} (hw : (groupsOf graph)[w]? = some writer)
    (hr : (groupsOf graph)[r]? = some reader) (hne : w ≠ r) :
    (w ∈ (of graph).dependenciesAt r ∧ (of graph).Precedes w r) ↔
      ∃ key ∈ reader.externalReads, key ∈ writer.writes := by
  have hlt : r < (groupsOf graph).length := (List.getElem?_eq_some_iff.1 hr).1
  rw [dependenciesAt_of h hlt, ← mem_dependenciesOf hw hr hne]
  refine ⟨And.left, fun hd => ⟨hd, precedes_of_dependency h ?_ hd⟩⟩
  simpa [groupsOf] using hlt

/-- Two groups of which the second writes what the first reads. -/
def userGraph : WorkflowGraph :=
  ⟨[("show", ⟨[{ workflow := "SHOW", input := [("Id", .obj [("key", .str "user")])] }]⟩),
    ("load", ⟨[{ workflow := "LOAD", writeBacks := [⟨"", "user"⟩] }]⟩)]⟩

theorem reader_waits_for_writer :
    (of userGraph).sequential = false ∧ 1 ∈ (of userGraph).dependenciesAt 0 ∧
      (of userGraph).Precedes 1 0 :=
  have h : (of userGraph).sequential = false := by decide +kernel
  ⟨h, (waits_iff_reads_whole_key userGraph h rfl rfl (by decide)).2
    ⟨"user", by decide +kernel, by decide +kernel⟩⟩

/-- Two groups of which the first writes `menu` and the second reads `menu.id`. -/
def menuGraph : WorkflowGraph :=
  ⟨[("load", ⟨[{ workflow := "LOAD", writeBacks := [⟨"", "menu"⟩] }]⟩),
    ("show", ⟨[{ workflow := "SHOW", input := [("Id", .obj [("key", .str "menu.id")])] }]⟩)]⟩

/-- The reader of a part does not wait for the writer of the whole: both stand in one wave. -/
theorem menu_part_is_not_waited_for :
    (of menuGraph).sequential = false ∧
      (∃ reader writer, (groupsOf menuGraph)[1]? = some reader ∧ (groupsOf menuGraph)[0]? = some writer ∧
        "menu.id" ∈ reader.externalReads ∧ Context.entryKey? "menu.id" = some "menu" ∧
        "menu" ∈ writer.writes) ∧
      0 ∉ (of menuGraph).dependenciesAt 1 ∧ ¬ (of menuGraph).Precedes 0 1 := by
  refine ⟨by decide +kernel, ⟨_, _, rfl, rfl, ?_, ?_, ?_⟩, by decide +kernel, ?_⟩
  · decide +kernel
  · decide +kernel
  · decide +kernel
  · have hwaves : (of menuGraph).waves = [[0, 1]] := by decide +kernel
    rintro ⟨front, wave, back, h, hfront, -⟩
    rw [hwaves] at h
    cases front with
    | nil => simp at hfront
    | cons first rest => simp at h

end Plan

end BackOffice
