import BackOffice.Proofs.Permission.Loads
import BackOffice.Proofs.Rehearsal.OwnHandles

/-!
Loads and writes of the permission screen in any order. After any course the screen shows the tree that was loaded
last, and the entry that was selected last together with the matrix that was loaded for it, with the flags that
were flipped or put back since. Loads of one kind supersede one another, and nothing else does.
-/

namespace BackOffice

/-! ### What is told of a permission screen -/

namespace Incident

/-- The tree that a load of the menu has brought. -/
def tree? : Incident → Option (List MenuNode)
  | ended _ .menu (.menu tree) => some tree
  | _ => none

/-- The entry that was selected, with the matrix that was loaded for it. -/
def selection? : Incident → Option (MenuNode × OperationMatrix)
  | ended _ (.node n) (.matrix m) => some (n, m)
  | _ => none

/-- What flips and failed writes make of a matrix. -/
def onMatrix (m : OperationMatrix) : Incident → OperationMatrix
  | began (.toggle roleId commandId flag) _ _ => m.update roleId commandId (·.toggle flag)
  | ended _ (.write w) (.refused _) => m.update w.row.roleId w.row.commandId fun r =>
      if r.flag w.flag = w.row.flag w.flag then r.setFlag w.flag w.previous else r
  | _ => m

/-- What an incident makes of a permission screen. -/
def onScreen (p : PermissionScreen) (i : Incident) : PermissionScreen where
  graph := p.graph
  tree := i.tree?.getD p.tree
  selected := (i.selection?.map Prod.fst).or p.selected
  matrix := (i.selection?.map Prod.snd).getD (i.onMatrix p.matrix)

end Incident

namespace PermissionScreen

variable {p : PermissionScreen} {told new before rest : List Incident}

/-- A permission screen once some things are told. -/
def after (p : PermissionScreen) (told : List Incident) : PermissionScreen := told.foldl Incident.onScreen p

theorem after_append (p : PermissionScreen) (told new : List Incident) :
    p.after (told ++ new) = (p.after told).after new := List.foldl_append

theorem after_of_idle (h : ∀ i ∈ told, Incident.onScreen p i = p) : p.after told = p := by
  induction told with
  | nil => rfl
  | cons i rest ih =>
    rw [List.forall_mem_cons] at h
    rw [after, List.foldl_cons, h.1]
    exact ih h.2

theorem tree_after (p : PermissionScreen) (told : List Incident) :
    (p.after told).tree = (told.filterMap Incident.tree?).getLast?.getD p.tree := by
  induction told generalizing p with
  | nil => rfl
  | cons i rest ih =>
    have hrest := ih (Incident.onScreen p i)
    rw [after, List.foldl_cons, ← after, hrest, List.filterMap_cons, Incident.onScreen]
    cases i.tree? with
    | none => rfl
    | some tree => simp [List.getLast?_cons]

/-- As long as no entry is selected, the matrix changes by flips and failed writes only. -/
theorem after_of_no_selection (h : told.filterMap Incident.selection? = []) :
    (p.after told).selected = p.selected ∧ (p.after told).matrix = told.foldl Incident.onMatrix p.matrix := by
  induction told generalizing p with
  | nil => exact ⟨rfl, rfl⟩
  | cons i rest ih =>
    rw [List.filterMap_eq_nil_iff, List.forall_mem_cons] at h
    obtain ⟨hselected, hmatrix⟩ := ih (p := Incident.onScreen p i) (List.filterMap_eq_nil_iff.2 h.2)
    rw [after, List.foldl_cons, ← after, hselected, hmatrix, Incident.onScreen, h.1]
    exact ⟨rfl, rfl⟩

/-- The entry that was selected last is shown with the matrix that was loaded for it. -/
theorem after_of_selection {i : Incident} {n : MenuNode} {m : OperationMatrix}
    (hi : i.selection? = some (n, m)) (hrest : rest.filterMap Incident.selection? = []) :
    (p.after (before ++ i :: rest)).selected = some n ∧
      (p.after (before ++ i :: rest)).matrix = rest.foldl Incident.onMatrix m := by
  obtain ⟨hselected, hmatrix⟩ := after_of_no_selection (p := Incident.onScreen (p.after before) i) hrest
  have hafter : p.after (before ++ i :: rest) = (Incident.onScreen (p.after before) i).after rest := by
    rw [after_append, after, List.foldl_cons, ← after]
  rw [hafter, hselected, hmatrix, Incident.onScreen, hi]
  exact ⟨rfl, rfl⟩

end PermissionScreen

namespace Load

/-- The lane of a load. -/
def lane : Load → Lane
  | menu => .menu
  | node _ => .node

theorem lane?_purpose (l : Load) : l.purpose.lane? = some l.lane := by
  cases l <;> rfl

end Load

namespace Rehearsal

variable {s s' : Rehearsal} {p : PermissionScreen} {places : Nat × Nat} {c : Command} {m : Machine}
  {told new : List Incident}

/-! ### What one command or one ending does to the screen -/

theorem screen_of_flip {roleId commandId : String} {flag : OperationFlag} {w : FlagWrite}
    {p' : PermissionScreen} (h : p.flip roleId commandId flag = .ok (w, p')) :
    p' = { p with matrix := p.matrix.update roleId commandId (·.toggle flag) } := by
  rw [PermissionScreen.flip] at h
  split at h
  · cases h
  · split at h
    · cases h
    · cases h
      rfl

/-- Only a flip touches the screen before anything is answered. -/
theorem permission_command_of_others (h : c.lane? ≠ some .write) :
    (s.command c).1.permission = s.permission := by
  have hview : Overlooks permission :=
    ⟨fun _ _ _ => rfl, fun _ _ _ => rfl, fun _ _ => rfl, fun _ _ => rfl, fun _ => rfl, fun _ _ _ => rfl⟩
  refine hview.command (fun _ _ _ _ _ => rfl) (fun hsets => ?_) fun _ _ _ => rfl
  cases c with
  | toggle roleId commandId flag => exact absurd rfl h
  | _ => cases hsets

theorem onScreen_of_mem_tellsOf (h : c.lane? ≠ some .write) {i : Incident} (hi : i ∈ s.tellsOf c)
    (p : PermissionScreen) : Incident.onScreen p i = p := by
  obtain rfl | ⟨r, rfl⟩ | ⟨k, purpose, rfl⟩ := mem_tellsOf hi
  · rfl
  · rfl
  · cases c <;> first | rfl | exact absurd rfl h

theorem permission_command (hp : s.permission = some (p, places)) (c : Command) :
    (s.command c).1.permission = some (p.after (s.tellsOf c), places) := by
  by_cases hlane : c.lane? = some .write
  · cases c with
    | toggle roleId commandId flag =>
      obtain ⟨menu, operations⟩ := places
      cases hflip : p.flip roleId commandId flag with
      -- A flip that is refused begins no write, and what is told of it changes no screen.
      | error e =>
        have hc : s.command (.toggle roleId commandId flag) = (s, .done (.refused e)) := by
          rw [command, withPermission, hp]
          simp only [hflip]
        rw [tellsOf, newMachines, hc, List.drop_length]
        exact hp
      | ok flipped =>
        obtain ⟨w, p'⟩ := flipped
        obtain rfl := screen_of_flip hflip
        have htells : s.tellsOf (.toggle roleId commandId flag) =
            [.asked (.toggle roleId commandId flag) none,
              .began (.toggle roleId commandId flag) s.tickets (.write w)] := by
          simp [tellsOf, newMachines, usedBy, command, withPermission, hp, hflip, launchNew, launch,
            setHandle, allocHandle]
        rw [htells]
        simp only [command, withPermission, hp, hflip]
        rfl
    | _ => cases hlane
  · have hidle : p.after (s.tellsOf c) = p :=
      PermissionScreen.after_of_idle fun i hi => onScreen_of_mem_tellsOf hlane hi p
    rw [permission_command_of_others hlane, hp, hidle]

theorem permission_finish (hp : s.permission = some (p, places)) (ticket : Nat) (m : Machine) :
    (s.finish m).1.permission =
      some (Incident.onScreen p (.ended ticket m.purpose (s.finish m).2), places) := by
  have hload (l : Load) (hm : m.purpose = l.purpose) : (s.finish m).1.permission =
      some (Incident.onScreen p (.ended ticket m.purpose (s.finish m).2), places) := by
    cases hstale : m.graph.run.isStale (s.counterAt m.handle) with
    | true =>
      rw [finish_load_of_stale hm hstale, hp, hm]
      cases l <;> rfl
    | false =>
      have hfinish := finish_load hm hp hstale
      cases hrows : PermissionScreen.rowsOf ((m.graph.outcome (s.counterAt m.handle)).only l.group) with
      | error e =>
        rw [hrows, hp] at hfinish
        obtain ⟨hscreen, hr⟩ := Prod.mk.inj hfinish
        rw [hscreen, hr, hm]
        cases l <;> rfl
      | ok rows =>
        rw [hrows] at hfinish
        obtain ⟨hscreen, hr⟩ := Prod.mk.inj hfinish
        rw [hscreen, hr, hm]
        cases l <;> rfl
  cases hm : m.purpose with
  | menu =>
    rw [← hm]
    exact hload .menu hm
  | node n =>
    rw [← hm]
    exact hload (.node n) hm
  | caller name copy work | run name work =>
    simp only [finish, hm, setHandle]
    exact hp
  | page page =>
    have hsame : (s.finish m).1.permission = s.permission := by
      apply apply_finish permission (fun _ => rfl) (fun _ _ => rfl) (fun _ _ _ => rfl) _ fun _ _ _ => rfl
      intro hsets
      rw [hm] at hsets
      cases hsets
    rw [hsame]
    exact hp
  | write w =>
    simp only [finish, hm, hp, PermissionScreen.acceptWrite]
    cases ((m.graph.outcome (s.counterAt m.handle)).onlyStep w.step).isSuccess <;> rfl

/-- The screen is as what was told says. -/
theorem permission_takes (hp : s.permission = some (p.after told, places)) (hs : Takes s s' new) :
    s'.permission = some (p.after (told ++ new), places) := by
  rw [PermissionScreen.after_append]
  cases hs with
  | command c => exact permission_command hp c
  | moved hm hg => exact hp
  | concluded hm hover =>
    rename_i ticket m
    have hwithout : (s.without ticket).permission = some (p.after told, places) := hp
    exact permission_finish hwithout ticket m
  | elsewhere b => exact hp
  | nothing => exact hp

theorem permission_after (hp : s.permission = some (p, places)) (cues : List Cue) :
    (s.after cues).permission = some (p.after (s.told cues), places) := by
  refine after_of_takes (P := fun told s => s.permission = some (p.after told, places))
    ?_ hp cues
  intro told s s' new hs h
  exact permission_takes h hs

/-- Whatever the order of answers, when the loads of a permission screen are alone on their handles: a load is
refused as superseded exactly when a later load of its kind has begun, and then it changes nothing; the run of a
write is never superseded; the tree is the one loaded last; and the entry that is selected comes, with the matrix
that was loaded for it, from the selection that was accepted last. -/
theorem loads_apart {menu operations : Nat} (hmachines : s.machines = [])
    (hp : s.permission = some (p, menu, operations)) (hgrounded : s.Grounded) (cues : List Cue)
    (hmenu : Lane.menu.Owns menu (s.told cues)) (hnode : Lane.node.Owns operations (s.told cues)) :
    (∀ (l : Load) before ticket r rest, s.told cues = before ++ .ended ticket l.purpose r :: rest →
        (r = .refused .stale ↔ l.lane.Later before ticket)) ∧
      (∀ (l : Load) ticket,
        (s.after cues).tells (.conclude ticket) = [.ended ticket l.purpose (.refused .stale)] →
          (s.after cues).take (.conclude ticket) = (s.after cues).without ticket) ∧
      (∀ ticket m w, (ticket, m) ∈ (s.after cues).machines → m.purpose = .write w →
        m.graph.run.isStale ((s.after cues).counterAt m.handle) = false) ∧
      ∃ q, (s.after cues).permission = some (q, menu, operations) ∧
        q.tree = ((s.told cues).filterMap Incident.tree?).getLast?.getD p.tree ∧
        ((s.told cues).filterMap Incident.selection? = [] →
          q.selected = p.selected ∧ q.matrix = (s.told cues).foldl Incident.onMatrix p.matrix) ∧
        ∀ before ticket n loaded rest,
          s.told cues = before ++ .ended ticket (.node n) (.matrix loaded) :: rest →
          rest.filterMap Incident.selection? = [] →
            q.selected = some n ∧ q.matrix = rest.foldl Incident.onMatrix loaded := by
  have hlanes (l : Load) : ∃ place, l.lane.Holds place (s.told cues) (s.after cues) ∧
      l.lane.Judged (s.told cues) := by
    cases l with
    | menu =>
      have hlane : s.laneAt .menu = some menu := by simp [laneAt, hp]
      obtain ⟨-, hafter⟩ := Lane.holds_after hmachines hlane (hgrounded _ (.lane .menu hlane)) cues
      exact ⟨menu, hafter hmenu⟩
    | node n =>
      have hlane : s.laneAt .node = some operations := by simp [laneAt, hp]
      obtain ⟨-, hafter⟩ := Lane.holds_after hmachines hlane (hgrounded _ (.lane .node hlane)) cues
      exact ⟨operations, hafter hnode⟩
  refine ⟨fun l before ticket r rest htold => ?_, fun l ticket htells => ?_, fun ticket m w hm hw => ?_,
    _, permission_after hp cues, PermissionScreen.tree_after p _, PermissionScreen.after_of_no_selection, ?_⟩
  · obtain ⟨place, -, hjudged⟩ := hlanes l
    exact (hjudged before _ rest htold ticket _ r rfl l.lane?_purpose).stale
  · obtain ⟨place, hholds, -⟩ := hlanes l
    exact hholds.take_conclude htells l.lane?_purpose
  · have hapart := writesApart_after hmachines hgrounded cues
    exact (hapart.apart hm (by rw [hw]; rfl)).isStale
  · intro before ticket n loaded rest htold hrest
    rw [htold]
    exact PermissionScreen.after_of_selection rfl hrest

/-- Items as a backend responds with them. -/
def itemsPayload (items : List Json) : Json := dataPayload (.arr items)

/-- A menu entry as a backend lists it. -/
def entryItem (id : String) : Json := .obj [("command_id", .str id), ("parent_id", .str "0")]

/-- A screen whose groups have one step each. Flags are written for the entry that is read as the selection. -/
def loadingScreen : PermissionScreen where
  graph := ⟨[(PermissionScreen.loadMenu, ⟨[{ workflow := "MENU" }]⟩),
    (PermissionScreen.loadOperation, ⟨[{ workflow := "OPS", critical := true }]⟩),
    (PermissionScreen.saveOperation,
      ⟨[{ workflow := "SAVE", input := [("MenuId", .obj [("key", .str "selectedMenuId")])] }]⟩)]⟩

def loadingShown : Rehearsal where
  surroundings := ⟨.epoch, ⟨"id", 0⟩⟩
  handles := { cells := [{}, {}] }
  permission := some (loadingScreen, 0, 1)

def firstEntry : MenuNode := { id := "a", parent := "0" }

def secondEntry : MenuNode := { id := "b", parent := "0", service := some "svc" }

/-- Two loads of the menu and two selections overlap, and the later ones are answered before the earlier. -/
def crossed : List Cue :=
  [.ask .loadMenu, .ask (.selectNode (some firstEntry)), .ask .loadMenu,
      .ask (.selectNode (some secondEntry))] ++
    roundTrip 3 (itemsPayload []) ++ roundTrip 2 (itemsPayload [entryItem "new"]) ++
    roundTrip 1 (itemsPayload []) ++ roundTrip 0 (itemsPayload [entryItem "old"])

theorem told_crossed : loadingShown.told crossed =
    [.asked .loadMenu (some 0), .began .loadMenu 0 .menu,
      .asked (.selectNode (some firstEntry)) (some 1), .began (.selectNode (some firstEntry)) 1 (.node firstEntry),
      .asked .loadMenu (some 0), .began .loadMenu 2 .menu,
      .asked (.selectNode (some secondEntry)) (some 1),
      .began (.selectNode (some secondEntry)) 3 (.node secondEntry),
      .ended 3 (.node secondEntry) (.matrix {}), .ended 2 .menu (.menu [{ id := "new", parent := "0" }]),
      .ended 1 (.node firstEntry) (.refused .stale), .ended 0 .menu (.refused .stale)] := by
  cbv

theorem grounded_loadingShown : loadingShown.Grounded := by
  intro place hrefers
  cases hrefers with
  | known h =>
    obtain ⟨name, h⟩ | ⟨name, run, h⟩ := h
    · cases h
    · cases h
  | lane ℓ h =>
    cases ℓ with
    | menu =>
      obtain rfl := Option.some.inj h
      decide
    | node =>
      obtain rfl := Option.some.inj h
      decide
    | page => cases h
    | write => cases h
  | machine e he => cases he

/-- The menu that was loaded later and the entry that was selected later are shown. -/
theorem later_loads_shown :
    Lane.menu.Owns 0 (loadingShown.told crossed) ∧ Lane.node.Owns 1 (loadingShown.told crossed) ∧
      ∃ q, (loadingShown.after crossed).permission = some (q, 0, 1) ∧
        q.tree = [{ id := "new", parent := "0" }] ∧ q.selected = some secondEntry := by
  have hmenu : Lane.menu.Owns 0 (loadingShown.told crossed) := by
    rw [told_crossed]
    decide
  have hnode : Lane.node.Owns 1 (loadingShown.told crossed) := by
    rw [told_crossed]
    decide
  obtain ⟨-, -, -, q, hq, htree, -, hlast⟩ :=
    loads_apart (s := loadingShown) rfl rfl grounded_loadingShown crossed hmenu hnode
  obtain ⟨hselected, -⟩ := hlast [_, _, _, _, _, _, _, _] 3 secondEntry {} _ told_crossed rfl
  refine ⟨hmenu, hnode, q, hq, ?_, hselected⟩
  rw [htree, told_crossed]
  rfl

end Rehearsal

end BackOffice
