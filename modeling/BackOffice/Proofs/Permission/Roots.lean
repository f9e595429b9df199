import BackOffice.Proofs.Permission.Forest
import Mathlib.Data.List.Induction

/-!
Which roots stand at the top of the forest. An entry that has the identifier of the root itself takes all roots that
are still free below it. So a root is at the top just when no root in front of it leads to such an entry, and all of
them are there just when none but the last one does.
-/

namespace BackOffice.MenuNode

variable {flat : List MenuNode} {taken wanted taken' : List Nat} {f : PlaceForest} {i j : Nat}

/-- Whether an entry leads to one that has the identifier of the root. -/
def LeadsToRootId (flat : List MenuNode) (i : Nat) : Prop :=
  ∃ j node, LeadsTo flat i j ∧ flat[j]? = some node ∧ node.id = rootId

/-- Whether no root that has another one behind it leads to an entry with the identifier of the root. -/
def RootsApart (flat : List MenuNode) : Prop :=
  ∀ i j, i < j → IsRootAt flat i → IsRootAt flat j → ¬LeadsToRootId flat i

/-- An entry without those below it. -/
def alone (n : MenuNode) : MenuNode := { n with children := [] }

/-! ### What a root takes -/

/-- Whether all that is below the places that are taken is taken as well. -/
def IsClosed (flat : List MenuNode) (taken : List Nat) : Prop := ∀ i ∈ taken, ∀ j, IsLink flat i j → j ∈ taken

theorem IsClosed.mem_of_leadsTo (h : IsClosed flat taken) (hi : i ∈ taken) (hleads : LeadsTo flat i j) : j ∈ taken := by
  induction hleads with
  | refl => exact hi
  | tail _ hlink ih => exact h _ ih _ hlink

namespace Walk

variable {node : MenuNode} {between : List Nat} {below : PlaceForest}

/-- When a place has been attached, all that was taken before or is below it is taken. -/
theorem isClosed_of_below (hbelow : Walk flat (i :: taken) (childrenOf flat node.id) below between)
    (hnode : flat[i]? = some node) (hclosed : IsClosed flat taken) : IsClosed flat between := by
  intro k hk j hlink
  obtain hk | hk := hbelow.mem_taken_iff.1 hk
  · exact hbelow.mem_taken_of_isLink k hk j hlink
  · obtain rfl | hk := List.mem_cons.1 hk
    · exact hbelow.mem_taken_of_wanted j ((isLink_iff hnode).1 hlink)
    · exact hbelow.mem_taken_iff.2 (.inr (List.mem_cons_of_mem _ (hclosed k hk j hlink)))

/-- A place takes what it leads to, and nothing else. -/
theorem mem_between_iff (hbelow : Walk flat (i :: taken) (childrenOf flat node.id) below between)
    (hnode : flat[i]? = some node) (hclosed : IsClosed flat taken) : j ∈ between ↔ j ∈ taken ∨ LeadsTo flat i j := by
  constructor
  · intro hj
    obtain hj | hj := hbelow.mem_taken_iff.1 hj
    · obtain ⟨k, hk, hleads⟩ := hbelow.exists_leadsTo j hj
      exact .inr (hleads.head ((isLink_iff hnode).2 hk))
    · obtain rfl | hj := List.mem_cons.1 hj
      · exact .inr .refl
      · exact .inl hj
  · rintro (hj | hleads)
    · exact hbelow.mem_taken_iff.2 (.inr (List.mem_cons_of_mem _ hj))
    · have hi : i ∈ between := hbelow.mem_taken_iff.2 (.inr List.mem_cons_self)
      exact (hbelow.isClosed_of_below hnode hclosed).mem_of_leadsTo hi hleads

/-- Of the wanted places those are at the top that no wanted place in front of them leads to. -/
theorem mem_tops_iff (h : Walk flat taken wanted f taken') (hclosed : IsClosed flat taken)
    (hsorted : wanted.Pairwise (· < ·)) :
    i ∈ f.tops ↔ i ∈ wanted ∧ i ∉ taken ∧ ∀ j ∈ wanted, j < i → ¬LeadsTo flat j i := by
  induction h with
  | done => simp [PlaceForest.tops]
  | @skip taken rest taken' k f hmem _ ih =>
    obtain ⟨-, hrest⟩ := List.pairwise_cons.1 hsorted
    rw [ih hclosed hrest, List.mem_cons, List.forall_mem_cons]
    -- The place in front is taken, and so is all that it leads to.
    constructor
    · rintro ⟨hi, hnot, hothers⟩
      exact ⟨.inr hi, hnot, fun _ hleads => hnot (hclosed.mem_of_leadsTo hmem hleads), hothers⟩
    · rintro ⟨rfl | hi, hnot, -, hothers⟩
      · exact absurd hmem hnot
      · exact ⟨hi, hnot, hothers⟩
  | @attach taken rest between taken' k node below beside hnot hnode hbelow _ _ ihRest =>
    obtain ⟨hfirst, hrest⟩ := List.pairwise_cons.1 hsorted
    rw [PlaceForest.tops, List.mem_cons, ihRest (hbelow.isClosed_of_below hnode hclosed) hrest,
      hbelow.mem_between_iff hnode hclosed, List.mem_cons, List.forall_mem_cons]
    constructor
    · rintro (rfl | ⟨hi, hfree, hothers⟩)
      · exact ⟨.inl rfl, hnot, fun hlt => absurd hlt (Nat.lt_irrefl _), fun j hj hlt =>
          absurd hlt (Nat.not_lt_of_gt (hfirst j hj))⟩
      · exact ⟨.inr hi, fun hmem => hfree (.inl hmem), fun _ hleads => hfree (.inr hleads), hothers⟩
    · rintro ⟨rfl | hi, hfree, hapart, hothers⟩
      · exact .inl rfl
      · exact .inr ⟨hi, fun htaken => htaken.elim hfree (hapart (hfirst _ hi)), hothers⟩

end Walk

/-- Only through the identifier of the root does one root lead to another. -/
theorem leadsTo_iff_of_isRootAt (hroot : IsRootAt flat j) (hne : i ≠ j) : LeadsTo flat i j ↔ LeadsToRootId flat i := by
  obtain ⟨node, hnode, hparent⟩ := hroot
  constructor
  · intro hleads
    obtain rfl | ⟨k, hleads, above, node', habove, hnode', hlink⟩ := Relation.ReflTransGen.cases_tail hleads
    · exact absurd rfl hne
    · obtain rfl := Option.some.inj (hnode.symm.trans hnode')
      exact ⟨k, above, hleads, habove, hlink.symm.trans hparent⟩
  · rintro ⟨k, above, hleads, habove, hid⟩
    exact hleads.tail ⟨above, node, habove, hnode, hparent.trans hid.symm⟩

/-- A root is at the top when no root in front of it leads to an entry with the identifier of the root. -/
theorem Walk.mem_tops_roots_iff (h : Walk flat [] (childrenOf flat rootId) f taken') :
    i ∈ f.tops ↔ IsRootAt flat i ∧ ∀ j < i, IsRootAt flat j → ¬LeadsToRootId flat j := by
  have hclosed : IsClosed flat [] := fun _ h => absurd h List.not_mem_nil
  rw [h.mem_tops_iff hclosed (pairwise_childrenOf flat rootId), ← isRootAt_iff]
  refine and_congr_right fun hroot => ?_
  simp only [List.not_mem_nil, not_false_eq_true, true_and]
  have hleads {j : Nat} (hlt : j < i) : LeadsTo flat j i ↔ LeadsToRootId flat j :=
    leadsTo_iff_of_isRootAt hroot (Nat.ne_of_lt hlt)
  exact ⟨fun h j hlt hj => mt (hleads hlt).2 (h j (isRootAt_iff.1 hj) hlt),
    fun h j hj hlt => mt (hleads hlt).1 (h j hlt (isRootAt_iff.2 hj))⟩

theorem Walk.tops_eq_iff (h : Walk flat [] (childrenOf flat rootId) f taken') :
    f.tops = childrenOf flat rootId ↔ RootsApart flat := by
  constructor
  · intro heq i j hlt hi hj
    have htop : j ∈ f.tops := by rwa [heq, ← isRootAt_iff]
    exact (h.mem_tops_roots_iff.1 htop).2 i hlt hi
  · intro hapart
    have hsub : childrenOf flat rootId ⊆ f.tops := by
      intro j hj
      rw [← isRootAt_iff] at hj
      exact h.mem_tops_roots_iff.2 ⟨hj, fun i hlt hi => hapart i j hlt hi hj⟩
    have hnodup : (childrenOf flat rootId).Nodup := (pairwise_childrenOf flat rootId).imp Nat.ne_of_lt
    exact h.tops_sublist.eq_of_length_le (List.subperm_of_subset hnodup hsub).length_le

/-- A root stands below another entry when it does not stand at the top. -/
theorem Walk.no_root_below_iff (h : Walk flat [] (childrenOf flat rootId) f taken') :
    (∀ family ∈ f.families, ∀ j ∈ family.2, ¬IsRootAt flat j) ↔ RootsApart flat := by
  constructor
  · intro hnone i j hlt hi hj
    have hplace : j ∈ f.places := (h.arranges.mem_places_iff j).2 ⟨j, hj, .refl⟩
    obtain htop | ⟨family, hfamily, hbelow⟩ := PlaceForest.mem_places_iff.1 hplace
    · exact (h.mem_tops_roots_iff.1 htop).2 i hlt hi
    · exact absurd hj (hnone family hfamily j hbelow)
  · intro hapart family hfamily j hj hroot
    have htop : j ∈ f.tops := by rwa [h.tops_eq_iff.2 hapart, ← isRootAt_iff]
    -- Each place is there once, so none is at the top and below another one.
    have hnodup := f.places_perm.nodup_iff.1 h.arranges.nodup
    exact (List.nodup_append.1 hnodup).2.2 j htop j (List.mem_flatMap.2 ⟨family, hfamily, hj⟩) rfl

/-! ### Entries -/

theorem map_alone_entries (flat : List MenuNode) (f : PlaceForest) :
    (f.entries flat).map alone = f.tops.filterMap fun i => flat[i]?.map alone := by
  induction f with
  | nil => rfl
  | cons i below beside _ ihBeside =>
    rw [PlaceForest.entries, PlaceForest.tops, List.map_append, ihBeside, List.filterMap_cons]
    cases flat[i]? <;> rfl

theorem filterMap_childrenOf (flat : List MenuNode) (id : String) :
    (childrenOf flat id).filterMap (flat[·]?) = flat.filter (·.parent == id) := by
  induction flat using List.reverseRecOn with
  | nil => rfl
  | append_singleton front node ih =>
    have hfront : ∀ i ∈ List.range front.length, (front ++ [node])[i]? = front[i]? := fun i hi =>
      List.getElem?_append_left (List.mem_range.1 hi)
    have hfilter : (List.range front.length).filter (fun i => (front ++ [node])[i]?.any (·.parent == id)) =
        childrenOf front id := List.filter_congr fun i hi => by rw [hfront i hi]
    rw [childrenOf, List.length_append, List.length_singleton, List.range_succ, List.filter_append, hfilter,
      List.filterMap_append, List.filter_append, ← ih]
    congr 1
    · exact List.filterMap_congr fun i hi => hfront i (List.mem_range.2 (lt_of_mem_childrenOf hi))
    · by_cases hid : (node.parent == id) = true
      · simp [hid]
      · simp [hid]

theorem Walk.map_alone_iff (h : Walk flat [] (childrenOf flat rootId) f taken') :
    (f.entries flat).map alone = (flat.filter (·.isRoot)).map alone ↔ RootsApart flat := by
  have hroots : (flat.filter (·.isRoot)).map alone =
      (childrenOf flat rootId).filterMap fun i => flat[i]?.map alone := by
    rw [show flat.filter (·.isRoot) = flat.filter (·.parent == rootId) from rfl, ← filterMap_childrenOf,
      List.map_filterMap]
  have hlength {places : List Nat} (hsub : places ⊆ childrenOf flat rootId) :
      (places.filterMap fun i => flat[i]?.map alone).length = places.length := by
    rw [List.filterMap_length_eq_length]
    intro i hi
    simpa using lt_of_mem_childrenOf (hsub hi)
  rw [map_alone_entries, hroots, ← h.tops_eq_iff]
  refine ⟨fun heq => h.tops_sublist.eq_of_length ?_, fun heq => by rw [heq]⟩
  rw [← hlength h.tops_sublist.subset, heq, hlength (List.Subset.refl _)]

theorem rootsApart_of_ne_rootId (h : ∀ node ∈ flat, node.id ≠ rootId) : RootsApart flat := by
  rintro - - - - - ⟨j, node, -, hnode, hid⟩
  exact h node (List.mem_of_getElem? hnode) hid

/-- A root stands at the top when no root in front of it leads to an entry with the identifier of the root itself. The
entries at the top are all roots of the list, in its order, just when this is so for each of them; and then, and only
then, no root is placed below another entry. -/
theorem roots_at_top_iff (flat : List MenuNode) :
    ∃ f : PlaceForest, forest flat = f.entries flat ∧ f.Arranges flat ∧
      (∀ i, i ∈ f.tops ↔ IsRootAt flat i ∧ ∀ j < i, IsRootAt flat j → ¬LeadsToRootId flat j) ∧
      ((forest flat).map alone = (flat.filter (·.isRoot)).map alone ↔ RootsApart flat) ∧
      ((∀ family ∈ f.families, ∀ j ∈ family.2, ¬IsRootAt flat j) ↔ RootsApart flat) ∧
      ((∀ node ∈ flat, node.id ≠ rootId) → RootsApart flat) := by
  obtain ⟨f, taken, hwalk, hattached⟩ := exists_walk_roots flat
  have hforest : forest flat = f.entries flat := congrArg Prod.fst (hattached flat.length (Nat.le_refl _))
  refine ⟨f, hforest, hwalk.arranges, fun i => hwalk.mem_tops_roots_iff, ?_, hwalk.no_root_below_iff,
    rootsApart_of_ne_rootId⟩
  rw [hforest]
  exact hwalk.map_alone_iff

/-- Two roots, and a child of the second one. -/
def menuWithTwoRoots : List MenuNode :=
  [{ id := "1", parent := "0" }, { id := "3", parent := "2" }, { id := "2", parent := "0" }]

theorem menuWithTwoRoots_at_top :
    (∀ node ∈ menuWithTwoRoots, node.id ≠ rootId) ∧
      (forest menuWithTwoRoots).map alone = (menuWithTwoRoots.filter (·.isRoot)).map alone := by
  have hroot : ∀ node ∈ menuWithTwoRoots, node.id ≠ rootId := by simp [menuWithTwoRoots, rootId]
  obtain ⟨f, -, -, -, hiff, -, hapart⟩ := roots_at_top_iff menuWithTwoRoots
  exact ⟨hroot, hiff.2 (hapart hroot)⟩

/-- A root with the identifier that roots name as their parent takes the next root below it. -/
theorem root_below_namesake :
    let flat : List MenuNode := [{ id := "0", parent := "0" }, { id := "1", parent := "0" }]
    (forest flat).map (fun n => (n.id, n.children.map (·.id))) = [("0", ["1"])] ∧
      (forest flat).map alone ≠ (flat.filter (·.isRoot)).map alone := by
  refine ⟨rfl, fun h => ?_⟩
  have hlength := congrArg List.length h
  revert hlength
  decide

end BackOffice.MenuNode
