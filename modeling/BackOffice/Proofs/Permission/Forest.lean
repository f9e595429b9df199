import BackOffice.Permission.Menu
import Mathlib.Data.List.Nodup
import Mathlib.Data.List.Perm.Subperm
import Mathlib.Logic.Relation

/-!
What the forest of a list of entries holds. The entries are told apart by their places in the list, so that the same
entry may be there twice. A walk over places, each taken once, grows the forest; it is the recursion of the forest
without a bound on its depth, and it always ends. It holds the places that the roots reach, each once, in the order of
the list.
-/

namespace BackOffice

/-- Places of a list as a forest: a place, the places below it and the trees beside it. -/
inductive PlaceForest where
  | nil
  | cons (place : Nat) (below beside : PlaceForest)

namespace PlaceForest

/-- All places, each in front of those below it. -/
def places : PlaceForest → List Nat
  | nil => []
  | cons i below beside => i :: (below.places ++ beside.places)

/-- The places at the top. -/
def tops : PlaceForest → List Nat
  | nil => []
  | cons i _ beside => i :: beside.tops

/-- Each place with the places right below it. -/
def families : PlaceForest → List (Nat × List Nat)
  | nil => []
  | cons i below beside => (i, below.tops) :: (below.families ++ beside.families)

/-- The entries at the places, each with the entries below it and all else as it is in the list. -/
def entries (flat : List MenuNode) : PlaceForest → List MenuNode
  | nil => []
  | cons i below beside =>
    (flat[i]?.map fun node => { node with children := below.entries flat }).toList ++ beside.entries flat

theorem map_fst_families (f : PlaceForest) : f.families.map Prod.fst = f.places := by
  induction f with
  | nil => rfl
  | cons i below beside ihBelow ihBeside => simp [families, places, ihBelow, ihBeside]

/-- Each place is at the top or right below another one. -/
theorem places_perm (f : PlaceForest) : f.places.Perm (f.tops ++ f.families.flatMap Prod.snd) := by
  induction f with
  | nil => exact .nil
  | cons i below beside ihBelow ihBeside =>
    rw [List.perm_iff_count] at ihBelow ihBeside ⊢
    intro j
    simp only [places, tops, families, List.flatMap_cons, List.flatMap_append, List.count_cons, List.count_append,
      ihBelow, ihBeside]
    omega

theorem mem_places_iff {f : PlaceForest} {i : Nat} :
    i ∈ f.places ↔ i ∈ f.tops ∨ ∃ family ∈ f.families, i ∈ family.2 := by
  rw [f.places_perm.mem_iff, List.mem_append, List.mem_flatMap]

end PlaceForest

namespace MenuNode

variable {flat : List MenuNode} {taken wanted taken' : List Nat} {f : PlaceForest} {i j : Nat} {id : String}

/-- Whether an entry is right below another one: it names the other one as its parent. -/
def IsLink (flat : List MenuNode) (i j : Nat) : Prop :=
  ∃ above node, flat[i]? = some above ∧ flat[j]? = some node ∧ node.parent = above.id

/-- Whether an entry leads to another one, over any number of links. -/
def LeadsTo (flat : List MenuNode) : Nat → Nat → Prop := Relation.ReflTransGen (IsLink flat)

/-- Whether there is an entry at a place that belongs at the top. -/
def IsRootAt (flat : List MenuNode) (i : Nat) : Prop := ∃ node, flat[i]? = some node ∧ node.parent = rootId

/-- Whether a root leads to an entry. -/
def IsReached (flat : List MenuNode) (j : Nat) : Prop := ∃ i, IsRootAt flat i ∧ LeadsTo flat i j

/-! ### Places that name a parent -/

theorem mem_childrenOf : j ∈ childrenOf flat id ↔ ∃ node, flat[j]? = some node ∧ node.parent = id := by
  simp only [childrenOf, List.mem_filter, List.mem_range, Option.any_eq_true, beq_iff_eq]
  refine ⟨fun h => h.2, fun h => ⟨?_, h⟩⟩
  obtain ⟨node, hnode, -⟩ := h
  exact (List.getElem?_eq_some_iff.1 hnode).1

theorem lt_of_mem_childrenOf (h : j ∈ childrenOf flat id) : j < flat.length :=
  List.mem_range.1 (List.mem_of_mem_filter h)

theorem pairwise_childrenOf (flat : List MenuNode) (id : String) : (childrenOf flat id).Pairwise (· < ·) :=
  List.pairwise_lt_range.filter _

theorem isLink_iff {node : MenuNode} (h : flat[i]? = some node) : IsLink flat i j ↔ j ∈ childrenOf flat node.id := by
  rw [mem_childrenOf]
  constructor
  · rintro ⟨above, below, habove, hbelow, hparent⟩
    obtain rfl := Option.some.inj (h.symm.trans habove)
    exact ⟨below, hbelow, hparent⟩
  · rintro ⟨below, hbelow, hparent⟩
    exact ⟨node, below, h, hbelow, hparent⟩

/-! ### The walk -/

/-- A walk over wanted places, from the places that are taken before to those that are taken after it. It attaches a
place that is not taken with all that is wanted below it, and then goes on beside it. -/
inductive Walk (flat : List MenuNode) : List Nat → List Nat → PlaceForest → List Nat → Prop
  | done (taken : List Nat) : Walk flat taken [] .nil taken
  | skip {taken rest taken' : List Nat} {i : Nat} {f : PlaceForest} (h : i ∈ taken)
      (hrest : Walk flat taken rest f taken') : Walk flat taken (i :: rest) f taken'
  | attach {taken rest between taken' : List Nat} {i : Nat} {node : MenuNode} {below beside : PlaceForest}
      (h : i ∉ taken) (hnode : flat[i]? = some node)
      (hbelow : Walk flat (i :: taken) (childrenOf flat node.id) below between)
      (hrest : Walk flat between rest beside taken') : Walk flat taken (i :: rest) (.cons i below beside) taken'

namespace Walk

/-- The places of the forest are the ones that are taken on the way. -/
theorem taken_eq (h : Walk flat taken wanted f taken') : taken' = f.places.reverse ++ taken := by
  induction h with
  | done => rfl
  | skip _ _ ih => exact ih
  | attach _ _ _ _ ihBelow ihRest => rw [ihRest, ihBelow]; simp [PlaceForest.places]

theorem mem_taken_iff (h : Walk flat taken wanted f taken') : i ∈ taken' ↔ i ∈ f.places ∨ i ∈ taken := by
  rw [h.taken_eq, List.mem_append, List.mem_reverse]

theorem nodup (h : Walk flat taken wanted f taken') (hnodup : taken.Nodup) : taken'.Nodup := by
  induction h with
  | done => exact hnodup
  | skip _ _ ih => exact ih hnodup
  | attach hnot _ _ _ ihBelow ihRest => exact ihRest (ihBelow (List.nodup_cons.2 ⟨hnot, hnodup⟩))

theorem tops_sublist (h : Walk flat taken wanted f taken') : f.tops.Sublist wanted := by
  induction h with
  | done => exact .slnil
  | skip _ _ ih => exact ih.cons _
  | attach _ _ _ _ _ ihRest => exact ihRest.cons_cons _

/-- Right below a place are some of the places that name it, in order. -/
theorem families_sublist (h : Walk flat taken wanted f taken') :
    ∀ family ∈ f.families, ∃ node, flat[family.1]? = some node ∧ family.2.Sublist (childrenOf flat node.id) := by
  induction h with
  | done => exact fun _ h => absurd h List.not_mem_nil
  | skip _ _ ih => exact ih
  | attach _ hnode hbelow _ ihBelow ihRest =>
    exact List.forall_mem_cons.2 ⟨⟨_, hnode, hbelow.tops_sublist⟩, List.forall_mem_append.2 ⟨ihBelow, ihRest⟩⟩

/-- What is wanted is taken in the end. -/
theorem mem_taken_of_wanted (h : Walk flat taken wanted f taken') : ∀ i ∈ wanted, i ∈ taken' := by
  induction h with
  | done => exact fun _ h => absurd h List.not_mem_nil
  | skip h hrest ih => exact List.forall_mem_cons.2 ⟨hrest.mem_taken_iff.2 (.inr h), ih⟩
  | attach _ _ hbelow hrest _ ihRest =>
    have hbetween := hbelow.mem_taken_iff.2 (.inr List.mem_cons_self)
    exact List.forall_mem_cons.2 ⟨hrest.mem_taken_iff.2 (.inr hbetween), ihRest⟩

/-- What is below a place of the forest is taken in the end. -/
theorem mem_taken_of_isLink (h : Walk flat taken wanted f taken') :
    ∀ i ∈ f.places, ∀ j, IsLink flat i j → j ∈ taken' := by
  induction h with
  | done => exact fun _ h => absurd h List.not_mem_nil
  | skip _ _ ih => exact ih
  | attach _ hnode hbelow hrest ihBelow ihRest =>
    have hlater {j : Nat} (hj : j ∈ _) : j ∈ _ := hrest.mem_taken_iff.2 (.inr hj)
    refine List.forall_mem_cons.2 ⟨fun j hlink => ?_, List.forall_mem_append.2 ⟨fun i hi j hlink => ?_, ihRest⟩⟩
    · exact hlater (hbelow.mem_taken_of_wanted j ((isLink_iff hnode).1 hlink))
    · exact hlater (ihBelow i hi j hlink)

/-- What stands in the forest is reached from what is wanted. -/
theorem exists_leadsTo (h : Walk flat taken wanted f taken') :
    ∀ j ∈ f.places, ∃ i ∈ wanted, LeadsTo flat i j := by
  induction h with
  | done => exact fun _ h => absurd h List.not_mem_nil
  | skip _ _ ih =>
    intro j hj
    obtain ⟨i, hi, hleads⟩ := ih j hj
    exact ⟨i, List.mem_cons_of_mem _ hi, hleads⟩
  | attach _ hnode _ _ ihBelow ihRest =>
    refine List.forall_mem_cons.2 ⟨⟨_, List.mem_cons_self, .refl⟩, List.forall_mem_append.2 ⟨?_, ?_⟩⟩
    · intro j hj
      obtain ⟨i, hi, hleads⟩ := ihBelow j hj
      exact ⟨_, List.mem_cons_self, hleads.head ((isLink_iff hnode).2 hi)⟩
    · intro j hj
      obtain ⟨i, hi, hleads⟩ := ihRest j hj
      exact ⟨i, List.mem_cons_of_mem _ hi, hleads⟩

/-- Only places of the list are in the forest. -/
theorem lt_length (h : Walk flat taken wanted f taken') : ∀ i ∈ f.places, i < flat.length := by
  induction h with
  | done => exact fun _ h => absurd h List.not_mem_nil
  | skip _ _ ih => exact ih
  | attach _ hnode _ _ ihBelow ihRest =>
    have hlt := (List.getElem?_eq_some_iff.1 hnode).1
    exact List.forall_mem_cons.2 ⟨hlt, List.forall_mem_append.2 ⟨ihBelow, ihRest⟩⟩

/-- There is only one walk over the places that are wanted. -/
theorem unique {f' : PlaceForest} {taken'' : List Nat} (h : Walk flat taken wanted f taken')
    (h' : Walk flat taken wanted f' taken'') : f = f' ∧ taken' = taken'' := by
  induction h generalizing f' taken'' with
  | done => cases h'; exact ⟨rfl, rfl⟩
  | skip hmem _ ih =>
    cases h' with
    | skip _ hrest => exact ih hrest
    | attach hnot => exact absurd hmem hnot
  | attach hnot hnode _ _ ihBelow ihRest =>
    cases h' with
    | skip hmem => exact absurd hmem hnot
    | attach _ hnode' hbelow hrest =>
      obtain rfl := Option.some.inj (hnode.symm.trans hnode')
      obtain ⟨rfl, rfl⟩ := ihBelow hbelow
      obtain ⟨rfl, rfl⟩ := ihRest hrest
      exact ⟨rfl, rfl⟩

end Walk

/-! ### The walk ends -/

theorem attach_of_mem (h : i ∈ taken) (depth : Nat) : attach flat depth taken i = (none, taken) := by
  cases depth with
  | zero => rfl
  | succ depth => simp [attach, h]

theorem attach_of_notMem {node : MenuNode} {depth : Nat} (h : i ∉ taken) (hnode : flat[i]? = some node)
    {children : List MenuNode} (hbelow : attachEach (attach flat depth) (i :: taken) (childrenOf flat node.id) =
      (children, taken')) : attach flat (depth + 1) taken i = (some { node with children }, taken') := by
  simp [attach, h, hnode, hbelow]

theorem length_le_of_nodup (hnodup : taken.Nodup) (hlt : ∀ i ∈ taken, i < flat.length) :
    taken.length ≤ flat.length := by
  have hsub : taken ⊆ List.range flat.length := fun i hi => List.mem_range.2 (hlt i hi)
  simpa using (List.subperm_of_subset hnodup hsub).length_le

/-- Entries are attached along a walk that ends, when the depth covers the places that are not taken yet. -/
theorem exists_walk (depth : Nat) (hnodup : taken.Nodup) (htaken : ∀ i ∈ taken, i < flat.length)
    (hwanted : ∀ i ∈ wanted, i < flat.length) (hdepth : flat.length ≤ depth + taken.length) :
    ∃ f taken', Walk flat taken wanted f taken' ∧
      attachEach (attach flat depth) taken wanted = (f.entries flat, taken') := by
  -- Below a place one more place is taken, so one level of depth less covers the rest.
  induction depth using Nat.strongRecOn generalizing taken wanted with
  | _ depth ihDepth =>
    induction wanted generalizing taken with
    | nil => exact ⟨.nil, taken, .done taken, rfl⟩
    | cons i rest ih =>
      rw [List.forall_mem_cons] at hwanted
      by_cases hi : i ∈ taken
      · obtain ⟨f, taken', hwalk, hrest⟩ := ih hnodup htaken hwanted.2 hdepth
        exact ⟨f, taken', .skip hi hwalk, by simp [attachEach, attach_of_mem hi, hrest]⟩
      · have hnodup' : (i :: taken).Nodup := List.nodup_cons.2 ⟨hi, hnodup⟩
        have htaken' : ∀ j ∈ i :: taken, j < flat.length := List.forall_mem_cons.2 ⟨hwanted.1, htaken⟩
        have hlength := length_le_of_nodup hnodup' htaken'
        rw [List.length_cons] at hlength
        obtain ⟨depth, rfl⟩ : ∃ d, depth = d + 1 := Nat.exists_eq_succ_of_ne_zero (by omega)
        obtain ⟨node, hnode⟩ : ∃ node, flat[i]? = some node := ⟨_, List.getElem?_eq_getElem hwanted.1⟩
        obtain ⟨below, between, hbelow, hchildren⟩ := ihDepth depth (Nat.lt_succ_self depth) hnodup' htaken'
          (fun _ => lt_of_mem_childrenOf) (by rw [List.length_cons]; omega)
        have hbetween : ∀ j ∈ between, j < flat.length := fun j hj =>
          (hbelow.mem_taken_iff.1 hj).elim (hbelow.lt_length j) (htaken' j)
        have hmore : taken.length ≤ between.length := by
          rw [hbelow.taken_eq, List.length_append, List.length_cons]
          omega
        obtain ⟨beside, taken', hrest, hattached⟩ := ih (hbelow.nodup hnodup') hbetween hwanted.2 (by omega)
        refine ⟨.cons i below beside, taken', .attach hi hnode hbelow hrest, ?_⟩
        simp [attachEach, attach_of_notMem hi hnode hchildren, hattached, PlaceForest.entries, hnode]

end MenuNode

/-! ### What the forest holds -/

/-- Whether a forest of places is the one of a list of entries: it has each place that a root leads to, once; the places
at the top are roots, and those right below a place name it as their parent, all in the order of the list. -/
structure PlaceForest.Arranges (flat : List MenuNode) (f : PlaceForest) : Prop where
  nodup : f.places.Nodup
  mem_places_iff : ∀ i, i ∈ f.places ↔ MenuNode.IsReached flat i
  pairwise_tops : f.tops.Pairwise (· < ·)
  isRootAt : ∀ i ∈ f.tops, MenuNode.IsRootAt flat i
  pairwise_below : ∀ family ∈ f.families, family.2.Pairwise (· < ·)
  isLink : ∀ family ∈ f.families, ∀ j ∈ family.2, MenuNode.IsLink flat family.1 j

namespace PlaceForest.Arranges

variable {flat : List MenuNode} {f : PlaceForest}

/-- A place has one list of places below it. -/
theorem below_eq (h : f.Arranges flat) {i : Nat} {below below' : List Nat} (hbelow : (i, below) ∈ f.families)
    (hbelow' : (i, below') ∈ f.families) : below = below' := by
  have hnodup : (f.families.map Prod.fst).Nodup := f.map_fst_families ▸ h.nodup
  exact congrArg Prod.snd (List.inj_on_of_nodup_map hnodup hbelow hbelow' rfl)

/-- When no two entries have the same identifier, and none has that of the root, all entries that name a place as their
parent are right below it. -/
theorem mem_below_iff (h : f.Arranges flat) (hids : (flat.map (·.id)).Nodup)
    (hroot : ∀ node ∈ flat, node.id ≠ MenuNode.rootId) (family : Nat × List Nat) (hfamily : family ∈ f.families)
    (j : Nat) :
    j ∈ family.2 ↔ MenuNode.IsLink flat family.1 j := by
  refine ⟨h.isLink family hfamily j, fun hlink => ?_⟩
  obtain ⟨above, node, habove, hnode, hparent⟩ := hlink
  obtain ⟨i, hi, hleads⟩ : MenuNode.IsReached flat family.1 := by
    rw [← h.mem_places_iff, ← f.map_fst_families]
    exact List.mem_map_of_mem hfamily
  have hj : j ∈ f.places := (h.mem_places_iff j).2 ⟨i, hi, hleads.tail ⟨above, node, habove, hnode, hparent⟩⟩
  obtain htop | ⟨family', hfamily', hbelow⟩ := PlaceForest.mem_places_iff.1 hj
  · -- The entry above would have the identifier of the root.
    obtain ⟨node', hnode', hrootId⟩ := h.isRootAt j htop
    obtain rfl := Option.some.inj (hnode.symm.trans hnode')
    exact absurd (hparent.symm.trans hrootId) (hroot above (List.mem_of_getElem? habove))
  · -- Both places above have the same identifier, so they are one.
    obtain ⟨above', node', habove', hnode', hparent'⟩ := h.isLink family' hfamily' j hbelow
    obtain rfl := Option.some.inj (hnode.symm.trans hnode')
    have hlt : family.1 < (flat.map (·.id)).length := by simpa using (List.getElem?_eq_some_iff.1 habove).1
    have hsame : family.1 = family'.1 :=
      (List.getElem?_inj hlt hids).1 (by simp [habove, habove', ← hparent, ← hparent'])
    obtain ⟨i', below'⟩ := family'
    obtain rfl := hsame
    rwa [h.below_eq hfamily hfamily']

end PlaceForest.Arranges

namespace MenuNode

variable {flat : List MenuNode} {f : PlaceForest} {taken' : List Nat}

theorem isRootAt_iff {i : Nat} : IsRootAt flat i ↔ i ∈ childrenOf flat rootId := mem_childrenOf.symm

/-- A walk over the roots arranges the list. -/
theorem Walk.arranges (h : Walk flat [] (childrenOf flat rootId) f taken') : f.Arranges flat where
  nodup := by
    have hnodup := h.nodup List.nodup_nil
    rwa [h.taken_eq, List.append_nil, List.nodup_reverse] at hnodup
  mem_places_iff := by
    have hplaces {i : Nat} : i ∈ taken' ↔ i ∈ f.places := by simp [h.mem_taken_iff]
    refine fun j => ⟨fun hj => ?_, ?_⟩
    · obtain ⟨i, hi, hleads⟩ := h.exists_leadsTo j hj
      exact ⟨i, isRootAt_iff.2 hi, hleads⟩
    · rintro ⟨i, hi, hleads⟩
      induction hleads with
      | refl => exact hplaces.1 (h.mem_taken_of_wanted i (isRootAt_iff.1 hi))
      | tail _ hlink ih => exact hplaces.1 (h.mem_taken_of_isLink _ ih _ hlink)
  pairwise_tops := (pairwise_childrenOf flat rootId).sublist h.tops_sublist
  isRootAt := fun i hi => isRootAt_iff.2 (h.tops_sublist.subset hi)
  pairwise_below := by
    intro family hfamily
    obtain ⟨node, -, hsub⟩ := h.families_sublist family hfamily
    exact (pairwise_childrenOf flat node.id).sublist hsub
  isLink := by
    intro family hfamily j hj
    obtain ⟨node, hnode, hsub⟩ := h.families_sublist family hfamily
    exact (isLink_iff hnode).2 (hsub.subset hj)

/-- The walk over the roots ends, and as soon as the depth covers the list, the entries are attached along it. -/
theorem exists_walk_roots (flat : List MenuNode) :
    ∃ f taken, Walk flat [] (childrenOf flat rootId) f taken ∧
      ∀ depth, flat.length ≤ depth →
        attachEach (attach flat depth) [] (childrenOf flat rootId) = (f.entries flat, taken) := by
  have hends (depth : Nat) (hdepth : flat.length ≤ depth) : ∃ f taken, Walk flat [] (childrenOf flat rootId) f taken ∧
      attachEach (attach flat depth) [] (childrenOf flat rootId) = (f.entries flat, taken) :=
    exists_walk depth List.nodup_nil (fun _ h => absurd h List.not_mem_nil) (fun _ => lt_of_mem_childrenOf)
      (by simpa using hdepth)
  obtain ⟨f, taken, hwalk, -⟩ := hends flat.length (Nat.le_refl _)
  refine ⟨f, taken, hwalk, fun depth hdepth => ?_⟩
  obtain ⟨f', taken', hwalk', hattached⟩ := hends depth hdepth
  obtain ⟨rfl, rfl⟩ := hwalk.unique hwalk'
  exact hattached

/-- For every list the recursion ends without a bound on its depth, and the forest holds just the entries that a root
leads to, each place of the list once: all but the entries below it as the list has them, right below a parent that it
names and in the order of the list. If identifiers are apart, and none is that of the root, no child of an entry is
missing. -/
theorem forest_arranges_reached (flat : List MenuNode) :
    ∃ f : PlaceForest, Walk flat [] (childrenOf flat rootId) f f.places.reverse ∧
      (∀ depth, flat.length ≤ depth →
        (attachEach (attach flat depth) [] (childrenOf flat rootId)).1 = forest flat) ∧
      forest flat = f.entries flat ∧ f.Arranges flat ∧
      ((flat.map (·.id)).Nodup → (∀ node ∈ flat, node.id ≠ rootId) →
        ∀ family ∈ f.families, ∀ j, j ∈ family.2 ↔ IsLink flat family.1 j) := by
  obtain ⟨f, taken, hwalk, hattached⟩ := exists_walk_roots flat
  have hforest : forest flat = f.entries flat := congrArg Prod.fst (hattached flat.length (Nat.le_refl _))
  have htaken : taken = f.places.reverse := by rw [hwalk.taken_eq, List.append_nil]
  refine ⟨f, htaken ▸ hwalk, fun depth hdepth => ?_, hforest, hwalk.arranges, hwalk.arranges.mem_below_iff⟩
  rw [hattached depth hdepth, hforest]

/-- A menu with a child in front of its parent, a circle and an entry without a parent. -/
def menuWithCircle : List MenuNode :=
  [{ id := "2", parent := "1" }, { id := "1", parent := "0" }, { id := "3", parent := "1" },
    { id := "4", parent := "5" }, { id := "5", parent := "4" }, { id := "6", parent := "77" }]

theorem menuWithCircle_keeps_children :
    (menuWithCircle.map (·.id)).Nodup ∧ (∀ node ∈ menuWithCircle, node.id ≠ rootId) ∧
      (forest menuWithCircle).map (fun n => (n.id, n.children.map (·.id))) = [("1", ["2", "3"])] ∧
      ∃ f : PlaceForest, forest menuWithCircle = f.entries menuWithCircle ∧
        ∀ family ∈ f.families, ∀ j, j ∈ family.2 ↔ IsLink menuWithCircle family.1 j := by
  have hids : (menuWithCircle.map (·.id)).Nodup := by decide
  have hroot : ∀ node ∈ menuWithCircle, node.id ≠ rootId := by simp [menuWithCircle, rootId]
  obtain ⟨f, -, -, hforest, -, hchildren⟩ := forest_arranges_reached menuWithCircle
  exact ⟨hids, hroot, rfl, f, hforest, hchildren hids hroot⟩

end MenuNode

end BackOffice
