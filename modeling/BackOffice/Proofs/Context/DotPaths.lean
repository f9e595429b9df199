import BackOffice.Run.Context

/-!
Dot paths. The dots of a path divide it into segments, empty ones among them, and the segments of two paths that are
joined by a dot are those of the one and then those of the other. So a joined path leads where the two lead one after
the other. A context is read in the same way from the first dot of a key on, as long as the key is not that of an entry.
-/

namespace BackOffice

theorem segmentsOf_eq_splitOn (mark : Char) (cs : List Char) : segmentsOf mark cs = cs.splitOn mark := by
  induction cs with
  | nil => rfl
  | cons c rest ih =>
    have hsplit := List.splitOnP_cons_eq_if_modifyHead (p := (· == mark)) c rest
    rw [List.splitOn] at ih ⊢
    rw [hsplit, ← ih, segmentsOf]
    simp only [beq_iff_eq]
    split
    · rfl
    · cases hrest : segmentsOf mark rest with
      | nil => exact absurd (ih.symm.trans hrest) (List.splitOnP_ne_nil _ _)
      | cons first more => rfl

theorem segmentsOf_append (mark : Char) (front back : List Char) :
    segmentsOf mark (front ++ mark :: back) = segmentsOf mark front ++ segmentsOf mark back := by
  simp only [segmentsOf_eq_splitOn, List.splitOn_append_cons_self]

theorem splitAtFirst_append {sep : Char} {front : List Char} (h : sep ∉ front) (back : List Char) :
    splitAtFirst sep (front ++ sep :: back) = some (front, back) := by
  induction front with
  | nil => exact if_pos rfl
  | cons c rest ih =>
    rw [List.mem_cons, not_or] at h
    rw [List.cons_append, splitAtFirst, if_neg (Ne.symm h.1), ih h.2]
    rfl

/-! ### Paths into values -/

namespace Json

variable {p q : String}

/-- The segments of a dot path. -/
def segments (path : String) : List String := (segmentsOf '.' path.toList).map String.ofList

theorem path?_of_ne (v : Json) (h : p ≠ "") : v.path? p = v.walk? (segments p) := if_neg h

theorem toList_join (p q : String) : (p ++ "." ++ q).toList = p.toList ++ '.' :: q.toList := by
  rw [String.toList_append, String.toList_append, List.append_assoc]
  rfl

theorem join_ne (p q : String) : p ++ "." ++ q ≠ "" := by
  intro h
  have hnil : p.toList ++ '.' :: q.toList = [] := by rw [← toList_join, h]; rfl
  exact List.append_ne_nil_of_right_ne_nil _ (List.cons_ne_nil _ _) hnil

theorem segments_join (p q : String) : segments (p ++ "." ++ q) = segments p ++ segments q := by
  rw [segments, toList_join, segmentsOf_append, List.map_append]
  rfl

/-- The names that a path is made of are its segments. -/
theorem segments_intercalate {names : List String} (hnames : names ≠ []) (hdot : ∀ name ∈ names, '.' ∉ name.toList) :
    segments (".".intercalate names) = names := by
  have hchars : ∀ cs ∈ names.map String.toList, '.' ∉ cs := List.forall_mem_map.2 hdot
  have hsplit := List.splitOn_intercalate '.' hchars (by simpa using hnames)
  rw [segments, String.toList_intercalate, segmentsOf_eq_splitOn]
  change (List.splitOn '.' (['.'].intercalate (names.map String.toList))).map String.ofList = names
  rw [hsplit, List.map_map]
  simp

/-- A path made of names leads along them. Only the name that is empty makes no such path on its own. -/
theorem path?_intercalate (v : Json) {names : List String} (hnames : names ≠ []) (hempty : names ≠ [""])
    (hdot : ∀ name ∈ names, '.' ∉ name.toList) : v.path? (".".intercalate names) = v.walk? names := by
  have hsegments := segments_intercalate hnames hdot
  have hne : ".".intercalate names ≠ "" := by
    intro h
    rw [h] at hsegments
    exact hempty hsegments.symm
  rw [path?_of_ne v hne, hsegments]

theorem path?_join (v : Json) (hp : p ≠ "") (hq : q ≠ "") :
    v.path? (p ++ "." ++ q) = (v.path? p).bind (·.path? q) := by
  rw [path?_of_ne v (join_ne p q), segments_join, walk?_append, path?_of_ne v hp]
  congr 1
  funext w
  exact (path?_of_ne w hq).symm

/-- An empty path in front of a dot is an empty segment, and not the path to the value itself. -/
example : (obj [("id", null)]).path? ("" ++ "." ++ "id") = none ∧
    ((obj [("id", null)]).path? "").bind (·.path? "id") = some null :=
  ⟨rfl, rfl⟩

end Json

/-! ### Reads of a context -/

namespace Context

variable {c : Context} {head p q : String}

/-- A key that is not that of an entry is read out of the entry before its first dot. -/
theorem get?_join (hhead : '.' ∉ head.toList) (hkey : c.values.find? (head ++ "." ++ p) = none) :
    c.get? (head ++ "." ++ p) = (c.values.find? head).bind (·.path? p) := by
  rw [get?, hkey, Json.toList_join, splitAtFirst_append hhead]
  simp only [String.ofList_toList]

theorem get?_join_join (hhead : '.' ∉ head.toList) (hp : p ≠ "") (hq : q ≠ "")
    (hfront : c.values.find? (head ++ "." ++ p) = none)
    (hwhole : c.values.find? (head ++ "." ++ p ++ "." ++ q) = none) :
    c.get? (head ++ "." ++ p ++ "." ++ q) = (c.get? (head ++ "." ++ p)).bind (·.path? q) := by
  have hassoc : head ++ "." ++ p ++ "." ++ q = head ++ "." ++ (p ++ "." ++ q) := by
    simp only [String.append_assoc]
  rw [hassoc] at hwhole ⊢
  rw [get?_join hhead hwhole, get?_join hhead hfront, Option.bind_assoc]
  congr 1
  funext v
  exact v.path?_join hp hq

/-- A path that two paths are joined to leads where they lead one after the other, as a path made of names leads along
the names. A context that has no entry under such a key reads it out of the entry before the first dot, so what it has
under a longer key is what the rest of the key leads to in what it has under the shorter one. -/
theorem dot_paths_compose :
    (∀ (v : Json) (p q : String), p ≠ "" → q ≠ "" → v.path? (p ++ "." ++ q) = (v.path? p).bind (·.path? q)) ∧
      (∀ (v : Json) (names : List String), names ≠ [] → names ≠ [""] → (∀ name ∈ names, '.' ∉ name.toList) →
        v.path? (".".intercalate names) = v.walk? names) ∧
      (∀ (c : Context) (head p : String), '.' ∉ head.toList → c.values.find? (head ++ "." ++ p) = none →
        c.get? (head ++ "." ++ p) = (c.values.find? head).bind (·.path? p)) ∧
      ∀ (c : Context) (head p q : String), '.' ∉ head.toList → p ≠ "" → q ≠ "" →
        c.values.find? (head ++ "." ++ p) = none → c.values.find? (head ++ "." ++ p ++ "." ++ q) = none →
        c.get? (head ++ "." ++ p ++ "." ++ q) = (c.get? (head ++ "." ++ p)).bind (·.path? q) := by
  refine ⟨fun v p q hp hq => v.path?_join hp hq, ?_, fun c head p hhead hkey => get?_join hhead hkey, ?_⟩
  · intro v names hnames hempty hdot
    exact v.path?_intercalate hnames hempty hdot
  · intro c head p q hhead hp hq hfront hwhole
    exact get?_join_join hhead hp hq hfront hwhole

/-- An entry with two rows, the second of which has a member without a name. -/
def rowsEntry : Json := .obj [("rows", .arr [.null, .obj [("", .obj [("id", .str "7")])]])]

def rowsContext : Context := { values := [("menu", rowsEntry)] }

/-- A path with an index and an empty segment. -/
theorem empty_segment_is_followed :
    rowsContext.values.find? "menu.rows.1" = none ∧ rowsContext.values.find? "menu.rows.1..id" = none ∧
      rowsEntry.path? "rows.1..id" = (rowsEntry.path? "rows.1").bind (·.path? ".id") ∧
      rowsEntry.path? "rows.1..id" = rowsEntry.walk? ["rows", "1", "", "id"] ∧
      rowsContext.get? "menu.rows.1" = rowsEntry.path? "rows.1" ∧
      rowsContext.get? "menu.rows.1..id" = (rowsContext.get? "menu.rows.1").bind (·.path? ".id") ∧
      rowsContext.get? "menu.rows.1..id" = some (.str "7") := by
  obtain ⟨hjoin, hnames, hentry, hrest⟩ := dot_paths_compose
  have hfront : rowsContext.values.find? "menu.rows.1" = none := by rfl
  have hwhole : rowsContext.values.find? "menu.rows.1..id" = none := by rfl
  refine ⟨hfront, hwhole, hjoin rowsEntry "rows.1" ".id" (by decide) (by decide), ?_, ?_, ?_, by rfl⟩
  · exact hnames rowsEntry ["rows", "1", "", "id"] (by decide) (by decide) (by decide)
  · exact hentry rowsContext "menu" "rows.1" (by decide) hfront
  · exact hrest rowsContext "menu" "rows.1" ".id" (by decide) (by decide) (by decide) hfront hwhole

end Context

end BackOffice
