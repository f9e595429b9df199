import BackOffice.Keyed
import Mathlib.Data.List.Induction
import Mathlib.Data.List.Nodup

/-!
What storing under a name does to the names and to the places: a name keeps its place, a new one comes to stand at the
end, and no name is there twice. Then what stands under a name does not depend on the order of the entries.
-/

namespace BackOffice

namespace Keyed

variable {α : Type} {entries : Keyed α} {key : String}

theorem keys_put_of_mem (h : key ∈ keys entries) (value : α) : keys (put entries key value) = keys entries := by
  induction entries with
  | nil => simp [keys] at h
  | cons entry rest ih =>
    obtain ⟨k, v⟩ := entry
    by_cases hk : k = key
    · simp [put, keys, hk]
    · have hrest : key ∈ keys rest := by simpa [keys, Ne.symm hk] using h
      simpa [put, keys, hk] using ih hrest

theorem put_of_notMem (h : key ∉ keys entries) (value : α) : put entries key value = entries ++ [(key, value)] := by
  induction entries with
  | nil => rfl
  | cons entry rest ih =>
    obtain ⟨k, v⟩ := entry
    simp only [keys, List.map_cons, List.mem_cons, not_or] at h
    rw [put, if_neg (Ne.symm h.1), ih h.2, List.cons_append]

theorem keys_put_of_notMem (h : key ∉ keys entries) (value : α) :
    keys (put entries key value) = keys entries ++ [key] := by
  rw [put_of_notMem h, keys, List.map_append]
  rfl

/-- The names that are there stay in front. -/
theorem prefix_keys_put (entries : Keyed α) (key : String) (value : α) :
    keys entries <+: keys (put entries key value) := by
  by_cases h : key ∈ keys entries
  · exact ⟨[], by rw [keys_put_of_mem h, List.append_nil]⟩
  · rw [keys_put_of_notMem h]
    exact List.prefix_append _ _

/-- When no name is there twice, the name of an entry is not among those in front of it. -/
theorem notMem_of_nodup {front rest : Keyed α} {value : α} (h : (keys (front ++ (key, value) :: rest)).Nodup) :
    key ∉ keys front := by
  rw [keys, List.map_append] at h
  exact fun hmem => (List.nodup_append.1 h).2.2 _ hmem _ List.mem_cons_self rfl

theorem nodup_keys_put (h : (keys entries).Nodup) (key : String) (value : α) :
    (keys (put entries key value)).Nodup := by
  by_cases hmem : key ∈ keys entries
  · rwa [keys_put_of_mem hmem]
  · rw [keys_put_of_notMem hmem, ← List.concat_eq_append]
    exact h.concat hmem

/-- A value that is stored under a name takes the name's place and no other. -/
theorem getElem?_put (h : (keys entries).Nodup) (hmem : key ∈ keys entries) (value : α) (i : Nat) :
    (put entries key value)[i]? =
      if (keys entries)[i]? = some key then some (key, value) else entries[i]? := by
  induction entries generalizing i with
  | nil => simp [keys] at hmem
  | cons entry rest ih =>
    obtain ⟨k, v⟩ := entry
    simp only [keys, List.map_cons, List.nodup_cons] at h
    by_cases hk : k = key
    · subst hk
      cases i with
      | zero => simp [put, keys]
      | succ i =>
        have hother : (keys rest)[i]? ≠ some k := fun heq => h.1 (List.mem_of_getElem? heq)
        rw [put, if_pos rfl, List.getElem?_cons_succ]
        exact (if_neg hother).symm
    · have hrest : key ∈ keys rest := by simpa [keys, Ne.symm hk] using hmem
      cases i with
      | zero => simp [put, keys, hk]
      | succ i =>
        rw [put, if_neg hk, List.getElem?_cons_succ, ih h.2 hrest i]
        rfl

/-- A value that is stored under a name that is there replaces the first entry of the name. -/
theorem exists_put_eq {old : α} (h : find? entries key = some old) (new : α) :
    ∃ before after, entries = before ++ (key, old) :: after ∧
      put entries key new = before ++ (key, new) :: after := by
  induction entries with
  | nil => cases h
  | cons entry rest ih =>
    obtain ⟨k, v⟩ := entry
    by_cases hk : k = key
    · subst hk
      obtain rfl : v = old := by simpa [find?] using h
      exact ⟨[], rest, rfl, if_pos rfl⟩
    · have hbeq : (key == k) = false := by simpa using Ne.symm hk
      rw [find?, List.lookup_cons, hbeq] at h
      obtain ⟨before, after, hsplit, hput⟩ := ih h
      refine ⟨(k, v) :: before, after, congrArg ((k, v) :: ·) hsplit, ?_⟩
      rw [put, if_neg hk, hput, List.cons_append]

theorem put_put (entries : Keyed α) (key : String) (a b : α) :
    put (put entries key a) key b = put entries key b := by
  induction entries with
  | nil => simp [put]
  | cons entry rest ih =>
    obtain ⟨k, v⟩ := entry
    by_cases hk : k = key
    · simp [put, hk]
    · simp [put, hk, ih]

theorem mem_put {e : String × α} {value : α} (h : e ∈ put entries key value) :
    e = (key, value) ∨ e ∈ entries := by
  induction entries with
  | nil => exact .inl (List.mem_singleton.1 h)
  | cons entry rest ih =>
    obtain ⟨k, v⟩ := entry
    by_cases hk : k = key
    · rw [put, if_pos hk] at h
      exact (List.mem_cons.1 h).imp_right (List.mem_cons_of_mem _)
    · rw [put, if_neg hk] at h
      obtain rfl | h := List.mem_cons.1 h
      · exact .inr List.mem_cons_self
      · exact (ih h).imp_right (List.mem_cons_of_mem _)

theorem eraseDups_concat_of_mem {names : List String} {name : String} (h : name ∈ names) :
    (names ++ [name]).eraseDups = names.eraseDups := by
  simp [List.eraseDups_append, List.removeAll, h]

theorem eraseDups_concat_of_notMem {names : List String} {name : String} (h : name ∉ names) :
    (names ++ [name]).eraseDups = names.eraseDups ++ [name] := by
  simp [List.eraseDups_append, List.removeAll, h, List.eraseDups_cons]

/-- Whether some names are those that occur in a list, each once, in the order in which they first come. -/
structure FirstSeen (occurring names : List String) : Prop where
  mem_iff (name : String) : name ∈ names ↔ name ∈ occurring
  in_order : names.Pairwise fun a b => occurring.idxOf a < occurring.idxOf b

theorem firstSeen_eraseDups (names : List String) : FirstSeen names names.eraseDups where
  mem_iff _ := List.mem_eraseDups
  in_order := by
    induction names using List.reverseRecOn with
    | nil => exact List.Pairwise.nil
    | append_singleton front name ih =>
      -- A name that is there already keeps its first place, and a new one comes behind all of them.
      have hold : front.eraseDups.Pairwise fun a b => (front ++ [name]).idxOf a < (front ++ [name]).idxOf b := by
        refine ih.imp_of_mem fun ha hb hlt => ?_
        rw [List.idxOf_append_of_mem (List.mem_eraseDups.1 ha), List.idxOf_append_of_mem (List.mem_eraseDups.1 hb)]
        exact hlt
      by_cases h : name ∈ front
      · rwa [eraseDups_concat_of_mem h]
      · rw [eraseDups_concat_of_notMem h, List.pairwise_append]
        refine ⟨hold, List.pairwise_singleton _ _, fun a ha b hb => ?_⟩
        rw [List.mem_singleton.1 hb, List.idxOf_append_of_mem (List.mem_eraseDups.1 ha),
          List.idxOf_append_of_notMem h]
        exact Nat.lt_add_right _ (List.idxOf_lt_length_of_mem (List.mem_eraseDups.1 ha))

theorem nodup_eraseDups (names : List String) : names.eraseDups.Nodup := by
  refine (firstSeen_eraseDups names).in_order.imp ?_
  rintro a _ hlt rfl
  exact Nat.lt_irrefl _ hlt

theorem putAll_concat (entries writes : List (String × α)) (write : String × α) :
    putAll entries (writes ++ [write]) = (putAll entries writes).put write.1 write.2 := by
  rw [putAll, List.foldl_concat, putAll]

/-- What is stored in nothing has its names in the order in which they first come. -/
theorem keys_putAll (entries : List (String × α)) : keys (putAll [] entries) = (keys entries).eraseDups := by
  induction entries using List.reverseRecOn with
  | nil => rfl
  | append_singleton front entry ih =>
    have hkeys : keys (front ++ [entry]) = keys front ++ [entry.1] := by simp [keys]
    have hmem : entry.1 ∈ keys (putAll [] front) ↔ entry.1 ∈ keys front := by rw [ih, List.mem_eraseDups]
    rw [putAll_concat, hkeys]
    by_cases h : entry.1 ∈ keys front
    · rw [keys_put_of_mem (hmem.2 h), ih, eraseDups_concat_of_mem h]
    · rw [keys_put_of_notMem (mt hmem.1 h), ih, eraseDups_concat_of_notMem h]

theorem keys_mapValues {β : Type} (f : α → β) (entries : Keyed α) : keys (mapValues f entries) = keys entries := by
  rw [keys, mapValues, List.map_map]
  rfl

theorem find?_eq_some_iff (h : (keys entries).Nodup) {value : α} :
    find? entries key = some value ↔ (key, value) ∈ entries := by
  induction entries with
  | nil => simp [find?]
  | cons entry rest ih =>
    obtain ⟨k, v⟩ := entry
    rw [keys, List.map_cons, List.nodup_cons] at h
    by_cases hk : key = k
    · subst hk
      have hrest : (key, value) ∉ rest := fun hmem => h.1 (List.mem_map.2 ⟨_, hmem, rfl⟩)
      simp [find?, hrest, eq_comm]
    · have hbeq : (key == k) = false := by simpa using hk
      simpa [find?, List.lookup_cons, hbeq, hk] using ih h.2

theorem find?_eq_of_perm {entries' : Keyed α} (hperm : entries.Perm entries') (h : (keys entries).Nodup)
    (key : String) : find? entries key = find? entries' key := by
  have h' : (keys entries').Nodup := (hperm.map Prod.fst).nodup_iff.1 h
  exact Option.ext fun value => by rw [find?_eq_some_iff h, find?_eq_some_iff h', hperm.mem_iff]

/-- Ordering by name keeps the first entry of each name in front of the others of that name. -/
theorem find?_sorted (entries : Keyed α) (key : String) : find? (sorted entries) key = find? entries key := by
  induction entries with
  | nil => simp [sorted]
  | cons entry rest ih =>
    obtain ⟨front, back, hcons, hrest, hfront⟩ :=
      @List.mergeSort_cons (String × α) (fun a b => decide (a.1 ≤ b.1))
        (fun a b c hab hbc => decide_eq_true (String.le_trans (of_decide_eq_true hab) (of_decide_eq_true hbc)))
        (fun a b => by simpa using String.le_total a.1 b.1) entry rest
    obtain ⟨k, v⟩ := entry
    rw [sorted, hrest, find?, List.lookup_append] at ih
    rw [sorted, hcons, find?, List.lookup_append]
    by_cases hk : key = k
    · subst hk
      -- What stands in front of the entry is below its name, so it is of other names.
      have hnone : front.lookup key = none := by
        refine find?_eq_none_iff.2 fun hmem => ?_
        obtain ⟨e, he, rfl⟩ := List.mem_map.1 hmem
        have hnot : ¬e.1 ≤ e.1 := by simpa using hfront e he
        exact hnot (String.le_refl _)
      simp [hnone, find?]
    · have hbeq : (key == k) = false := by simpa using hk
      rw [find?, List.lookup_cons, List.lookup_cons, hbeq]
      exact ih

end Keyed

end BackOffice
