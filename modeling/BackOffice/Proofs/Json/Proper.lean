import BackOffice.Proofs.Json.Numerals
import BackOffice.Proofs.Record.Keyed

/-!
The values that a text can give. Reading keeps whole numbers within the machine words and nesting within its bound,
and merging leaves each name once in an object; a value that is so already is not changed by merging.
-/

namespace BackOffice

namespace Json

/-- A value as it is held in memory: its whole numbers are of a machine word, its objects have every name once, and its
containers nest at most `depth` deep. -/
inductive Proper : (depth : Nat) → Json → Prop
  | null {depth : Nat} : Proper depth null
  | bool {depth : Nat} (b : Bool) : Proper depth (bool b)
  | whole {depth : Nat} {n : Int} (h : JsonNumber.InWord n) : Proper depth (num (.whole n))
  | float {depth : Nat} (x : Float) : Proper depth (num (.float x))
  | str {depth : Nat} (s : String) : Proper depth (str s)
  | arr {depth : Nat} {items : List Json} (h : ∀ v ∈ items, Proper depth v) : Proper (depth + 1) (arr items)
  | obj {depth : Nat} {members : Keyed Json} (names : (Keyed.keys members).Nodup)
      (h : ∀ m ∈ members, Proper depth m.2) : Proper (depth + 1) (obj members)

/-! ### Merging -/

theorem mergedItems_eq (items : List Json) : mergedItems items = items.map merged := by
  induction items with
  | nil => rfl
  | cons v rest ih => rw [mergedItems, ih, List.map_cons]

theorem nodup_mergedMembers (members : Keyed Json) {done : Keyed Json} (h : (Keyed.keys done).Nodup) :
    (Keyed.keys (mergedMembers done members)).Nodup := by
  induction members generalizing done with
  | nil => rwa [mergedMembers]
  | cons m rest ih =>
    obtain ⟨key, v⟩ := m
    rw [mergedMembers]
    exact ih (Keyed.nodup_keys_put h key (merged v))

theorem mem_mergedMembers (members : Keyed Json) {done : Keyed Json} {e : String × Json}
    (h : e ∈ mergedMembers done members) : e ∈ done ∨ ∃ m ∈ members, e = (m.1, merged m.2) := by
  induction members generalizing done with
  | nil => exact .inl (by rwa [mergedMembers] at h)
  | cons m rest ih =>
    obtain ⟨key, v⟩ := m
    rw [mergedMembers] at h
    obtain hdone | ⟨m, hm, he⟩ := ih h
    · obtain he | he := Keyed.mem_put hdone
      · exact .inr ⟨_, List.mem_cons_self, he⟩
      · exact .inl he
    · exact .inr ⟨m, List.mem_cons_of_mem _ hm, he⟩

/-- Members with names of their own come to stand behind those that are there. -/
theorem mergedMembers_of_nodup {done members : Keyed Json} (h : (Keyed.keys (done ++ members)).Nodup)
    (hm : ∀ m ∈ members, merged m.2 = m.2) : mergedMembers done members = done ++ members := by
  induction members generalizing done with
  | nil => rw [mergedMembers, List.append_nil]
  | cons m rest ih =>
    obtain ⟨key, v⟩ := m
    have hnew : key ∉ Keyed.keys done := Keyed.notMem_of_nodup h
    have hmore : done ++ (key, v) :: rest = done ++ [(key, v)] ++ rest := by simp
    rw [mergedMembers, hm _ List.mem_cons_self, Keyed.put_of_notMem hnew,
      ih (hmore ▸ h) fun m hmem => hm m (List.mem_cons_of_mem _ hmem), hmore]

/-- Nothing is merged in a value that has every name once. -/
theorem Proper.merged_eq {depth : Nat} {v : Json} (h : Proper depth v) : merged v = v := by
  induction h with
  | null => rfl
  | bool b => rfl
  | whole h => rfl
  | float x => rfl
  | str s => rfl
  | arr h ih => rw [merged, mergedItems_eq, List.map_congr_left ih, List.map_id']
  | @obj depth members names h ih =>
    have hkeys : (Keyed.keys ([] ++ members)).Nodup := names
    rw [merged, mergedMembers_of_nodup hkeys ih, List.nil_append]

/-! ### What is read -/

theorem proper_of_scalar? {depth : Nat} {cs r : List Char} {v : Json} (h : scalar? cs = some (v, r)) :
    Proper depth (merged v) := by
  unfold scalar? at h
  split at h
  · obtain ⟨rfl, rfl⟩ := Prod.mk.inj (Option.some.inj h)
    exact .null
  · obtain ⟨rfl, rfl⟩ := Prod.mk.inj (Option.some.inj h)
    exact .bool true
  · obtain ⟨rfl, rfl⟩ := Prod.mk.inj (Option.some.inj h)
    exact .bool false
  · obtain ⟨⟨s, r'⟩, _, he⟩ := Option.map_eq_some_iff.1 h
    obtain ⟨rfl, rfl⟩ := Prod.mk.inj he
    exact .str s
  · obtain ⟨⟨n, r'⟩, hn, he⟩ := Option.map_eq_some_iff.1 h
    obtain ⟨rfl, rfl⟩ := Prod.mk.inj he
    cases n with
    | whole n => exact .whole (JsonNumber.inWord_of_number? hn)
    | float x => exact .float x

section

variable {α : Type} {item : List Char → Option (α × List Char)} {close : Char} {cs r : List Char} {xs : List α}

/-- What is listed has been read item by item. -/
theorem exists_of_mem_separated? {fuel : Nat} (h : separated? item close fuel cs = some (xs, r)) {x : α} (hx : x ∈ xs) :
    ∃ cs' r', item cs' = some (x, r') := by
  induction fuel generalizing cs xs with
  | zero => simp [separated?] at h
  | succ fuel ih =>
    rw [separated?] at h
    obtain ⟨⟨first, rest⟩, hfirst, h⟩ := Option.bind_eq_some_iff.1 h
    dsimp only at h
    split at h
    · obtain ⟨⟨more, r'⟩, hmore, he⟩ := Option.map_eq_some_iff.1 h
      obtain ⟨rfl, rfl⟩ := Prod.mk.inj he
      obtain rfl | hx := List.mem_cons.1 hx
      · exact ⟨_, _, hfirst⟩
      · exact ih hmore hx
    · split at h
      · obtain ⟨rfl, rfl⟩ := Prod.mk.inj (Option.some.inj h)
        obtain rfl := List.mem_singleton.1 hx
        exact ⟨_, _, hfirst⟩
      · cases h
    · cases h

theorem exists_of_mem_content? (h : content? item close cs = some (xs, r)) {x : α} (hx : x ∈ xs) :
    ∃ cs' r', item cs' = some (x, r') := by
  unfold content? at h
  split at h
  · split at h
    · obtain ⟨rfl, rfl⟩ := Prod.mk.inj (Option.some.inj h)
      cases hx
    · exact exists_of_mem_separated? h hx
  · cases h

end

theorem exists_of_memberFrom? {value : List Char → Option (Json × List Char)} {cs r : List Char} {m : String × Json}
    (h : memberFrom? value cs = some (m, r)) : ∃ cs' r', value cs' = some (m.2, r') := by
  unfold memberFrom? at h
  split at h
  · obtain ⟨⟨key, rest⟩, _, h⟩ := Option.bind_eq_some_iff.1 h
    dsimp only at h
    split at h
    · obtain ⟨⟨v, r'⟩, hv, he⟩ := Option.map_eq_some_iff.1 h
      obtain ⟨rfl, rfl⟩ := Prod.mk.inj he
      exact ⟨_, _, hv⟩
    · cases h
  · cases h

theorem proper_of_value? {depth : Nat} {cs r : List Char} {v : Json} (h : value? depth cs = some (v, r)) :
    Proper depth (merged v) := by
  induction depth generalizing cs r v with
  | zero => exact proper_of_scalar? h
  | succ depth ih =>
    rw [value?] at h
    split at h
    · obtain ⟨⟨items, r'⟩, hitems, he⟩ := Option.map_eq_some_iff.1 h
      obtain ⟨rfl, rfl⟩ := Prod.mk.inj he
      rw [merged, mergedItems_eq]
      refine .arr fun v hv => ?_
      obtain ⟨item, hitem, rfl⟩ := List.mem_map.1 hv
      obtain ⟨_, _, hread⟩ := exists_of_mem_content? hitems hitem
      exact ih hread
    · obtain ⟨⟨members, r'⟩, hmembers, he⟩ := Option.map_eq_some_iff.1 h
      obtain ⟨rfl, rfl⟩ := Prod.mk.inj he
      rw [merged]
      refine .obj (nodup_mergedMembers members List.nodup_nil) fun e he => ?_
      obtain hnone | ⟨m, hm, rfl⟩ := mem_mergedMembers members he
      · cases hnone
      · obtain ⟨_, _, hmember⟩ := exists_of_mem_content? hmembers hm
        obtain ⟨_, _, hread⟩ := exists_of_memberFrom? hmember
        exact ih hread
    · exact proper_of_scalar? h

/-- A text gives only proper values. -/
theorem proper_of_parse {text : String} {v : Json} (h : parse text = some v) : Proper maxDepth v := by
  obtain ⟨raw, hraw, rfl⟩ := Option.map_eq_some_iff.1 h
  obtain ⟨⟨w, rest⟩, hw, hrest⟩ := Option.bind_eq_some_iff.1 hraw
  have hsame : w = raw := by
    dsimp only at hrest
    split at hrest
    · exact Option.some.inj hrest
    · cases hrest
  exact proper_of_value? (hsame ▸ hw)

end Json

end BackOffice
