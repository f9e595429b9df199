import BackOffice.Proofs.Plan.Waves
import Mathlib.Data.Set.Finite.List
import Mathlib.Logic.Relation
import Mathlib.Order.Bounds.Basic

/-!
The waves as levels. A place stands in the wave that has the number of the longest chain of dependencies below it, and
places can be laid out in waves exactly when none depends on itself, directly or through others.
-/

namespace BackOffice

namespace Plan

/-- Whether there is a chain of so many dependencies below a place. -/
inductive Chain (r : Nat → Nat → Prop) : Nat → Nat → Prop
  | nil (i : Nat) : Chain r i 0
  | cons {i j n : Nat} (h : r i j) (below : Chain r j n) : Chain r i (n + 1)

/-- Whether the longest chain below a place has so many dependencies. -/
def IsLevel (r : Nat → Nat → Prop) (i level : Nat) : Prop := IsGreatest {n | Chain r i n} level

/-- Whether no place depends on itself, directly or through others. -/
def Acyclic (r : Nat → Nat → Prop) : Prop := ∀ i, ¬Relation.TransGen r i i

/-! ### Chains -/

section Chains

variable {r : Nat → Nat → Prop} {i j n level : Nat}

theorem IsLevel.unique (h : IsLevel r i level) (h' : IsLevel r i n) : level = n := IsGreatest.unique h h'

/-- A place is one level above the highest of those that it depends on. -/
theorem isLevel_of_direct (hle : ∀ j n, r i j → IsLevel r j n → n < level)
    (hlevels : ∀ j, r i j → ∃ n, IsLevel r j n) (hchain : Chain r i level) : IsLevel r i level := by
  refine ⟨hchain, fun n hn => ?_⟩
  cases hn with
  | nil => exact Nat.zero_le level
  | cons h below =>
    obtain ⟨m, hm⟩ := hlevels _ h
    exact Nat.lt_of_le_of_lt (hm.2 below) (hle _ m h hm)

theorem exists_longer_chain (h : Relation.TransGen r i j) (hchain : Chain r j n) : ∃ m, n < m ∧ Chain r i m := by
  induction h using Relation.TransGen.head_induction_on with
  | single h => exact ⟨n + 1, Nat.lt_succ_self n, .cons h hchain⟩
  | head h _ ih =>
    obtain ⟨m, hlt, hm⟩ := ih
    exact ⟨m + 1, Nat.lt_succ_of_lt hlt, .cons h hm⟩

/-- Where chains have a bound there is no circle. -/
theorem acyclic_of_levels (h : ∀ i j, r i j → ∃ level, IsLevel r i level) : Acyclic r := by
  intro i hi
  obtain ⟨j, hij, -⟩ := Relation.TransGen.head'_iff.1 hi
  obtain ⟨level, hchain, hmax⟩ := h i j hij
  obtain ⟨m, hlt, hm⟩ := exists_longer_chain hi hchain
  exact absurd (hmax hm) (Nat.not_le.2 hlt)

/-- Among places of which none depends on itself there is one that depends on none of them. -/
theorem exists_independent (h : Acyclic r) {left : List Nat} (hleft : left ≠ []) :
    ∃ i ∈ left, ∀ j ∈ left, ¬r i j := by
  let below : {i // i ∈ left} → {i // i ∈ left} → Prop := fun a b => Relation.TransGen r b.1 a.1
  have htrans : IsTrans _ below := ⟨fun _ _ _ hab hbc => hbc.trans hab⟩
  have hirrefl : Std.Irrefl below := ⟨fun a => h a.1⟩
  have hfinite : Finite {i // i ∈ left} := (List.finite_toSet left).to_subtype
  have hwell : WellFounded below := Finite.wellFounded_of_trans_of_irrefl below
  obtain ⟨first, hfirst⟩ := List.exists_mem_of_ne_nil left hleft
  obtain ⟨⟨i, hi⟩, -, hmin⟩ := hwell.has_min Set.univ ⟨⟨first, hfirst⟩, trivial⟩
  exact ⟨i, hi, fun j hj hij => hmin ⟨j, hj⟩ trivial (.single hij)⟩

end Chains

/-! ### Waves -/

section Waves

variable {dependencies : Nat → List Nat} {fuel w i j n : Nat} {left wave : List Nat} {ws : List (List Nat)}

theorem mem_readyAmong : i ∈ readyAmong dependencies left ↔ i ∈ left ∧ ∀ j ∈ dependencies i, j ∉ left := by
  simp [readyAmong]

theorem mem_rest : i ∈ left.filter (!(readyAmong dependencies left).contains ·) ↔
    i ∈ left ∧ ∃ j ∈ dependencies i, j ∈ left := by
  rw [filter_readyAmong]
  simp

/-- No wave is empty. -/
theorem ne_nil_of_waves? (h : waves? dependencies fuel left = some ws) (hwave : wave ∈ ws) : wave ≠ [] := by
  induction fuel generalizing left ws with
  | zero =>
    cases left with
    | nil =>
      obtain rfl := Option.some.inj h
      cases hwave
    | cons => cases h
  | succ fuel ih =>
    cases left with
    | nil =>
      obtain rfl := Option.some.inj h
      cases hwave
    | cons first more =>
      simp only [waves?] at h
      split at h
      · cases h
      next hready =>
        obtain ⟨rest, hrest, rfl⟩ := Option.map_eq_some_iff.1 h
        obtain rfl | hwave := List.mem_cons.1 hwave
        · exact fun hnil => hready (List.isEmpty_iff.2 hnil)
        · exact ih hrest hwave

theorem exists_split (h : ws[w]? = some wave) : ∃ front back, ws = front ++ wave :: back ∧ front = ws.take w := by
  obtain ⟨hlt, rfl⟩ := List.getElem?_eq_some_iff.1 h
  exact ⟨ws.take w, ws.drop (w + 1), by rw [List.getElem_cons_drop, List.take_append_drop], rfl⟩

/-- What a place of a wave depends on stands in an earlier wave. -/
theorem exists_earlier (h : waves? dependencies fuel left = some ws) (hwave : ws[w]? = some wave) (hi : i ∈ wave)
    (hj : j ∈ dependencies i) (hleft : j ∈ left) : ∃ v < w, ∃ earlier : List Nat, ws[v]? = some earlier ∧ j ∈ earlier := by
  obtain ⟨front, back, hsplit, hfront⟩ := exists_split hwave
  have hmem := mem_front_of_waves? h hsplit hi hj hleft
  rw [hfront] at hmem
  obtain ⟨earlier, hearlier, hj⟩ := List.mem_flatten.1 hmem
  obtain ⟨v, hv⟩ := List.mem_iff_getElem?.1 hearlier
  rw [List.getElem?_take] at hv
  split at hv
  next hlt => exact ⟨v, hlt, earlier, hv, hj⟩
  · cases hv

/-- A place that had to wait depends on one of the wave before. -/
theorem exists_in_previous (h : waves? dependencies fuel left = some ws) (hwave : ws[w + 1]? = some wave)
    (hi : i ∈ wave) : ∃ j ∈ dependencies i, ∃ previous : List Nat, ws[w]? = some previous ∧ j ∈ previous := by
  induction w generalizing fuel left ws with
  | zero =>
    obtain ⟨-, rfl⟩ | ⟨n, rest, rfl, hrest⟩ := waves?_cases h
    · cases hwave
    · obtain ⟨-, rfl⟩ | ⟨m, later, rfl, -⟩ := waves?_cases hrest
      · cases hwave
      · obtain rfl : _ = wave := Option.some.inj hwave
        -- What held the place up in the first round is gone in the second.
        obtain ⟨hmem, hready⟩ := mem_readyAmong.1 hi
        obtain ⟨hleft, j, hj, hjleft⟩ := mem_rest.1 hmem
        refine ⟨j, hj, _, rfl, ?_⟩
        by_contra hnot
        exact hready j hj (List.mem_filter.2 ⟨hjleft, by simpa using hnot⟩)
  | succ w ih =>
    obtain ⟨-, rfl⟩ | ⟨n, rest, rfl, hrest⟩ := waves?_cases h
    · cases hwave
    · exact ih hrest hwave

/-- The number of a place's wave is its level. -/
theorem isLevel_of_waves? (h : waves? dependencies fuel left = some ws)
    (hclosed : ∀ i ∈ left, ∀ j ∈ dependencies i, j ∈ left) (hwave : ws[w]? = some wave) (hi : i ∈ wave) :
    IsLevel (fun i j => j ∈ dependencies i) i w := by
  constructor
  · induction w generalizing wave i with
    | zero => exact .nil i
    | succ w ih =>
      obtain ⟨j, hj, previous, hprevious, hmem⟩ := exists_in_previous h hwave hi
      exact .cons hj (ih hprevious hmem)
  · intro n hn
    induction hn generalizing w wave with
    | nil => exact Nat.zero_le w
    | @cons i j n hj below ih =>
      have hflat : i ∈ ws.flatten := List.mem_flatten.2 ⟨wave, List.mem_of_getElem? hwave, hi⟩
      have hleft : i ∈ left := (perm_of_waves? h).mem_iff.1 hflat
      obtain ⟨v, hlt, earlier, hearlier, hmem⟩ := exists_earlier h hwave hi hj (hclosed i hleft j hj)
      exact Nat.le_trans (Nat.succ_le_succ (ih hearlier hmem)) hlt

theorem exists_wave (h : waves? dependencies fuel left = some ws) (hi : i ∈ left) :
    ∃ (w : Nat) (wave : List Nat), ws[w]? = some wave ∧ i ∈ wave := by
  obtain ⟨wave, hwave, hi⟩ := List.mem_flatten.1 ((perm_of_waves? h).mem_iff.2 hi)
  obtain ⟨w, hw⟩ := List.mem_iff_getElem?.1 hwave
  exact ⟨w, wave, hw, hi⟩

/-- A wave holds what is on its level. -/
theorem mem_wave_iff (h : waves? dependencies fuel left = some ws)
    (hclosed : ∀ i ∈ left, ∀ j ∈ dependencies i, j ∈ left) (hwave : ws[w]? = some wave) :
    i ∈ wave ↔ i ∈ left ∧ IsLevel (fun i j => j ∈ dependencies i) i w := by
  constructor
  · intro hi
    have hflat : i ∈ ws.flatten := List.mem_flatten.2 ⟨wave, List.mem_of_getElem? hwave, hi⟩
    exact ⟨(perm_of_waves? h).mem_iff.1 hflat, isLevel_of_waves? h hclosed hwave hi⟩
  · rintro ⟨hleft, hlevel⟩
    obtain ⟨v, wave', hwave', hi⟩ := exists_wave h hleft
    obtain rfl := hlevel.unique (isLevel_of_waves? h hclosed hwave' hi)
    obtain rfl : wave = wave' := Option.some.inj (hwave.symm.trans hwave')
    exact hi

/-- Places that do not depend on each other in a circle can be laid out. -/
theorem exists_waves? (h : Acyclic fun i j => j ∈ dependencies i) (hfuel : left.length ≤ fuel) :
    ∃ ws, waves? dependencies fuel left = some ws := by
  induction fuel generalizing left with
  | zero =>
    obtain rfl := List.length_eq_zero_iff.1 (Nat.le_zero.1 hfuel)
    exact ⟨[], rfl⟩
  | succ fuel ih =>
    cases hleft : left with
    | nil => exact ⟨[], rfl⟩
    | cons first more =>
      have hne : left ≠ [] := hleft ▸ List.cons_ne_nil first more
      obtain ⟨i, hi, hfree⟩ := exists_independent h hne
      have hready : i ∈ readyAmong dependencies left :=
        mem_readyAmong.2 ⟨hi, fun j hj hjleft => hfree j hjleft hj⟩
      have hshorter : (left.filter (!(readyAmong dependencies left).contains ·)).length < left.length :=
        List.length_filter_lt_length_iff_exists.2 ⟨i, hi, by simpa using hready⟩
      obtain ⟨rest, hrest⟩ := ih (Nat.le_of_lt_succ (Nat.lt_of_lt_of_le hshorter hfuel))
      have hnonempty : (readyAmong dependencies left).isEmpty = false := by
        rw [List.isEmpty_eq_false_iff]
        exact List.ne_nil_of_mem hready
      rw [hleft] at hrest hnonempty
      refine ⟨readyAmong dependencies (first :: more) :: rest, ?_⟩
      simp only [waves?]
      rw [← readyAmong, hnonempty, if_neg Bool.false_ne_true, hrest]
      rfl

/-- Places can be laid out in waves exactly when they do not depend on each other in a circle. -/
theorem exists_waves?_iff (hclosed : ∀ i j, j ∈ dependencies i → i ∈ left ∧ j ∈ left)
    (hfuel : left.length ≤ fuel) :
    (∃ ws, waves? dependencies fuel left = some ws) ↔ Acyclic fun i j => j ∈ dependencies i := by
  refine ⟨fun ⟨ws, h⟩ => acyclic_of_levels fun i j hj => ?_, fun h => exists_waves? h hfuel⟩
  obtain ⟨w, wave, hwave, hi⟩ := exists_wave h (hclosed i j hj).1
  exact ⟨w, isLevel_of_waves? h (fun i _ j hj => (hclosed i j hj).2) hwave hi⟩

end Waves

end Plan

end BackOffice
