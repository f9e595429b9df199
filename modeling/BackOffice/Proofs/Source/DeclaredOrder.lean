import BackOffice.Proofs.Context.Reads
import BackOffice.Proofs.Json.Proper
import BackOffice.Proofs.Record.Written
import BackOffice.Proofs.Workflow.WrittenForm
import BackOffice.Source.Contents
import Mathlib

/-!
The order in which a graph lists what a document declares. A document that is read from JSON or YAML keeps everything in
the order in which it is declared. One that is read from TOML is held in tables ordered by name, so that the groups of
a graph and the fields of a step come in the order of their names, whatever order they are declared in.
-/

namespace BackOffice

/-! ### Documents -/

namespace Json

/-- The names of an object, in the order in which they first come. -/
def names (v : Json) : List String := (Keyed.keys (v.members?.getD [])).eraseDups

/-- The value that counts under a name of an object, which is the one given last. -/
def last? (v : Json) (name : String) : Option Json := (v.members?.getD []).reverse.lookup name

end Json

/-- What a document declares for a step of a group; a single step is the group of it alone. -/
def StepGroup.stepAt? : Json → Nat → Option Json
  | .obj members, 0 => some (.obj members)
  | .arr items, k => items[k]?
  | _, _ => none

/-- What a document declares for the input of a step, by name or by position. -/
def Step.inputOf? : Json → Option Json
  | .obj members => (Json.obj members).last? "input"
  | .arr items => items[6]?
  | _ => none

/-- The fields that a document declares for the input of a step of a group. -/
def StepGroup.inputNames (group : Json) (k : Nat) : List String :=
  (((stepAt? group k).bind Step.inputOf?).map Json.names).getD []

namespace SourceFormat

/-- The document in a text, with everything as it is declared. -/
def document? (format : SourceFormat) (text : String) : Option Json :=
  match format with
  | yaml => (Yaml.parse? text).bind (·.toJson? .any)
  | toml => Toml.read? text
  | json => Json.read? text

/-- How a document is held once it is read. -/
def held : SourceFormat → Json → Json
  | toml => Toml.tabled
  | yaml | json => Json.merged

/-- The order in which names are held that are declared in some order. -/
def order : SourceFormat → List String → List String
  | toml => fun names => names.mergeSort fun a b => decide (a ≤ b)
  | yaml | json => id

theorem read?_eq (format : SourceFormat) (text : String) :
    format.read? .any text = (format.document? text).map format.held := by
  cases format with
  | yaml =>
    simp only [read?, document?, held, Form.repeats, Bool.false_eq_true, if_false]
    cases Yaml.parse? text with
    | none => rfl
    | some y =>
      rw [Option.bind_some, Option.bind_some]
      cases y.toJson? .any <;> rfl
  | toml => rfl
  | json =>
    simp only [read?, document?, held, Form.repeats, Bool.false_eq_true, if_false]
    cases Json.read? text <;> rfl

theorem graph_eq (format : SourceFormat) (text : String) :
    format.graph text = match format.document? text with
      | some v => .ok (.ofJson (format.held v))
      | none => .error .unreadable := by
  simp only [graph, decode, read?_eq]
  cases format.document? text <;> rfl

end SourceFormat

/-- Whether a function only changes the order within objects: every name comes once, in an order that depends on where
the names first come, with what was given last under it. -/
structure Arranges (order : List String → List String) (arrange : Json → Json) : Prop where
  nil : order [] = []
  arr (items : List Json) : arrange (.arr items) = .arr (items.map arrange)
  obj (members : Keyed Json) : ∃ arranged : Keyed Json, arrange (.obj members) = .obj arranged ∧
    (Keyed.keys arranged).Nodup ∧ Keyed.keys arranged = order (Json.obj members).names ∧
    ∀ name, Keyed.find? arranged name = ((Json.obj members).last? name).map arrange
  scalar {v : Json} (hmembers : v.members? = none) (hitems : v.items? = none) : arrange v = v

namespace Json

theorem mergedMembers_eq (done members : Keyed Json) :
    mergedMembers done members = Keyed.putAll done (Keyed.mapValues merged members) := by
  induction members generalizing done with
  | nil => rfl
  | cons m rest ih =>
    rw [mergedMembers, ih]
    rfl

theorem arranges_merged : Arranges id merged where
  nil := rfl
  arr items := by rw [merged, mergedItems_eq]
  obj members := by
    refine ⟨mergedMembers [] members, rfl, nodup_mergedMembers members List.nodup_nil, ?_, fun name => ?_⟩
    · rw [mergedMembers_eq, Keyed.keys_putAll, Keyed.keys_mapValues]
      rfl
    · have hreverse : (Keyed.mapValues merged members).reverse = Keyed.mapValues merged members.reverse :=
        List.map_reverse.symm
      have hnone : Keyed.find? ([] : Keyed Json) name = none := rfl
      rw [mergedMembers_eq, Keyed.find?_putAll, hreverse, hnone, Option.or_none]
      exact Keyed.find?_mapValues merged members.reverse name
  scalar {v} hmembers hitems := by
    cases v with
    | arr items => cases hitems
    | obj members => cases hmembers
    | _ => rfl

end Json

namespace Toml

theorem itemsByName_eq (items : List Json) : itemsByName items = items.map byName := by
  induction items with
  | nil => rfl
  | cons v rest ih => rw [itemsByName, ih, List.map_cons]

theorem membersByName_eq (members : Keyed Json) : membersByName members = Keyed.mapValues byName members := by
  induction members with
  | nil => rfl
  | cons m rest ih =>
    rw [membersByName, ih]
    rfl

theorem arranges_tabled : Arranges (SourceFormat.order .toml) tabled where
  nil := List.mergeSort_nil
  arr items := by
    rw [tabled, Json.arranges_merged.arr, byName, itemsByName_eq, List.map_map]
    rfl
  obj members := by
    obtain ⟨once, hobj, hnodup, hkeys, hfind⟩ := Json.arranges_merged.obj members
    have hperm : (Keyed.sorted (Keyed.mapValues byName once)).Perm (Keyed.mapValues byName once) :=
      List.mergeSort_perm _ _
    have hmapped : Keyed.keys (Keyed.mapValues byName once) = (Json.obj members).names :=
      (Keyed.keys_mapValues byName once).trans hkeys
    have hkept : (Keyed.keys (Keyed.mapValues byName once)).Nodup := (Keyed.keys_mapValues byName once).symm ▸ hnodup
    have hsorted : (Keyed.keys (Keyed.sorted (Keyed.mapValues byName once))).Nodup :=
      (hperm.map Prod.fst).nodup_iff.2 hkept
    refine ⟨Keyed.sorted (Keyed.mapValues byName once), ?_, hsorted, ?_, fun name => ?_⟩
    · rw [tabled, hobj, byName, membersByName_eq]
    · rw [← hmapped]
      exact List.map_mergeSort fun _ _ _ _ => rfl
    · rw [Keyed.find?_eq_of_perm hperm hsorted, Keyed.find?_mapValues, hfind, Option.map_map]
      rfl
  scalar {v} hmembers hitems := by
    rw [tabled, Json.arranges_merged.scalar hmembers hitems]
    cases v with
    | arr items => cases hitems
    | obj members => cases hmembers
    | _ => rfl

end Toml

theorem SourceFormat.arranges (format : SourceFormat) : Arranges format.order format.held := by
  cases format with
  | toml => exact Toml.arranges_tabled
  | yaml => exact Json.arranges_merged
  | json => exact Json.arranges_merged

/-! ### Lines of TOML -/

namespace Toml

variable {entries entries' : Entries} {key : String}

theorem prefix_of_openTable? (h : openTable? key entries = some entries') :
    Keyed.keys entries <+: Keyed.keys entries' := by
  unfold openTable? at h
  split at h
  · obtain rfl := Option.some.inj h
    exact Keyed.prefix_keys_put ..
  · obtain rfl := Option.some.inj h
    exact Keyed.prefix_keys_put ..
  · cases h

theorem prefix_of_addTable? (h : addTable? key entries = some entries') :
    Keyed.keys entries <+: Keyed.keys entries' := by
  unfold addTable? at h
  split at h
  · obtain rfl := Option.some.inj h
    exact Keyed.prefix_keys_put ..
  · obtain rfl := Option.some.inj h
    exact Keyed.prefix_keys_put ..
  · cases h

theorem prefix_of_addValue? {v : Json} (h : addValue? key v entries = some entries') :
    Keyed.keys entries <+: Keyed.keys entries' := by
  unfold addValue? at h
  split at h
  · obtain rfl := Option.some.inj h
    rw [Keyed.keys, Keyed.keys, List.map_append]
    exact List.prefix_append _ _
  · cases h

theorem prefix_of_addDotted? {v : Json} {path : List String} (h : addDotted? key v path entries = some entries') :
    Keyed.keys entries <+: Keyed.keys entries' := by
  unfold addDotted? at h
  split at h
  · exact prefix_of_addValue? h
  all_goals
    split at h
    all_goals first
      | obtain ⟨below, -, rfl⟩ := Option.map_eq_some_iff.1 h
        exact Keyed.prefix_keys_put ..
      | cases h

/-- A change in a table further down leaves the names where they are. -/
theorem prefix_of_descend? {change? : Entries → Option Entries} {path : List String}
    (hchange : ∀ {e e' : Entries}, change? e = some e' → Keyed.keys e <+: Keyed.keys e')
    (h : descend? change? path entries = some entries') : Keyed.keys entries <+: Keyed.keys entries' := by
  unfold descend? at h
  split at h
  · exact hchange h
  · split at h
    all_goals first
      | obtain ⟨below, -, rfl⟩ := Option.map_eq_some_iff.1 h
        exact Keyed.prefix_keys_put ..
      | cases h

/-- A line of a document adds the names that it declares behind those that are there. -/
theorem prefix_of_line? {r r' : Reading} {cs rest : List Char} (h : line? r cs = some (r', rest)) :
    Keyed.keys r.root <+: Keyed.keys r'.root := by
  unfold line? at h
  split at h
  · simp only [Option.bind_eq_bind, Option.bind_eq_some_iff] at h
    obtain ⟨⟨path, rest⟩, -, ⟨front, last⟩, -, h⟩ := h
    split at h
    · simp only [Option.bind_eq_some_iff, Option.some.injEq, Prod.mk.injEq] at h
      obtain ⟨root, hroot, _, -, rfl, -⟩ := h
      exact prefix_of_descend? prefix_of_addTable? hroot
    · cases h
  · simp only [Option.bind_eq_bind, Option.bind_eq_some_iff] at h
    obtain ⟨⟨path, rest⟩, -, ⟨front, last⟩, -, h⟩ := h
    split at h
    · simp only [Option.bind_eq_some_iff, Option.some.injEq, Prod.mk.injEq] at h
      obtain ⟨root, hroot, _, -, rfl, -⟩ := h
      exact prefix_of_descend? prefix_of_openTable? hroot
    · cases h
  · obtain ⟨rfl, -⟩ := Prod.mk.inj (Option.some.inj h)
    exact List.prefix_rfl
  · obtain ⟨rfl, -⟩ := Prod.mk.inj (Option.some.inj h)
    exact List.prefix_rfl
  · obtain ⟨rfl, -⟩ := Prod.mk.inj (Option.some.inj h)
    exact List.prefix_rfl
  · obtain ⟨_, -, h⟩ := Option.map_eq_some_iff.1 h
    obtain ⟨rfl, -⟩ := Prod.mk.inj h
    exact List.prefix_rfl
  · simp only [Option.bind_eq_bind, Option.bind_eq_some_iff] at h
    obtain ⟨⟨path, rest⟩, -, ⟨front, last⟩, -, h⟩ := h
    split at h
    · simp only [Option.bind_eq_some_iff, Option.some.injEq, Prod.mk.injEq] at h
      obtain ⟨⟨v, rest⟩, -, root, hroot, _, -, rfl, -⟩ := h
      exact prefix_of_descend? prefix_of_addDotted? hroot
    · cases h

theorem prefix_of_lines? {fuel : Nat} {r r' : Reading} {cs : List Char} (h : lines? fuel r cs = some r') :
    Keyed.keys r.root <+: Keyed.keys r'.root := by
  induction fuel generalizing r cs with
  | zero =>
    cases cs with
    | nil =>
      obtain rfl := Option.some.inj h
      exact List.prefix_rfl
    | cons => cases h
  | succ fuel ih =>
    cases cs with
    | nil =>
      obtain rfl := Option.some.inj h
      exact List.prefix_rfl
    | cons c cs =>
      simp only [lines?, Option.bind_eq_bind, Option.bind_eq_some_iff] at h
      obtain ⟨⟨r'', rest⟩, hline, h⟩ := h
      exact (prefix_of_line? hline).trans (ih h)

end Toml

/-! ### Steps -/

/-- A field with one name has the value of the member of that name. -/
theorem Record.getElem?_of_fill {fields : List Names} {members : Keyed Json} {slots out : List (Option Json)}
    {i : Nat} {name : String} (hname : ∀ key, fields.findIdx? (·.contains key) = some i ↔ key = name)
    (h : fill fields members slots = some out) {slot : Option Json} (hslot : slots[i]? = some slot) :
    out[i]? = some (slot.or (Keyed.find? members name)) := by
  induction members generalizing slots slot with
  | nil =>
    obtain rfl := Option.some.inj h
    rw [hslot, Keyed.find?, List.lookup_nil, Option.or_none]
  | cons m rest ih =>
    obtain ⟨key, v⟩ := m
    rw [fill] at h
    by_cases hkey : key = name
    · subst hkey
      rw [(hname key).2 rfl] at h
      simp only [hslot] at h
      cases slot with
      | none =>
        have hset : (slots.set i (some v))[i]? = some (some v) :=
          List.getElem?_set_self (List.getElem?_eq_some_iff.1 hslot).1
        rw [ih h hset, Option.some_or, Option.none_or, Keyed.find?, List.lookup_cons_self]
      | some w => cases h
    · have hother : (name == key) = false := by simpa using Ne.symm hkey
      have hfind : Keyed.find? ((key, v) :: rest) name = Keyed.find? rest name := by
        rw [Keyed.find?, List.lookup_cons, hother]
        rfl
      rw [hfind]
      split at h
      · exact ih h hslot
      next j hj =>
        split at h
        · have hne : j ≠ i := fun heq => hkey ((hname key).1 (heq ▸ hj))
          exact ih h ((List.getElem?_set_ne hne).trans hslot)
        · cases h

namespace Step

theorem findIdx?_input (key : String) : fields.findIdx? (·.contains key) = some 6 ↔ key = "input" := by
  constructor
  · intro h
    obtain ⟨hlt, hcontains, -⟩ := List.findIdx?_eq_some_iff_getElem.1 h
    simpa [fields] using hcontains
  · rintro rfl
    decide

/-- The input of a step is what the slot of its field gives. -/
theorem exists_slots {v : Json} {s : Step} (h : ofJson? v = some s) :
    ∃ out slot, Record.slots fields v = some out ∧ out[6]? = some slot ∧
      Record.defaulted Json.members? [] slot = some s.input := by
  simp only [ofJson?, Option.bind_eq_bind, Option.bind_eq_some_iff] at h
  obtain ⟨out, hslots, h⟩ := h
  split at h
  · simp only [Option.bind_eq_some_iff, Option.some.injEq] at h
    obtain ⟨_, -, _, -, _, -, _, -, _, -, _, -, input, hinput, _, -, rfl⟩ := h
    exact ⟨_, _, hslots, rfl, hinput⟩
  · cases h

/-- The slot of the input holds what a document declares for it. -/
theorem slot_input {order : List String → List String} {arrange : Json → Json} (ha : Arranges order arrange)
    {declared : Json} {out : List (Option Json)} {slot : Option Json}
    (hslots : Record.slots fields (arrange declared) = some out) (hslot : out[6]? = some slot) :
    slot = (inputOf? declared).map arrange := by
  cases declared with
  | obj members =>
    obtain ⟨arranged, hobj, -, -, hfind⟩ := ha.obj members
    rw [hobj] at hslots
    have hfree : (List.replicate fields.length (none : Option Json))[6]? = some none := rfl
    have hget := Record.getElem?_of_fill findIdx?_input hslots hfree
    rw [hslot, Option.none_or, hfind] at hget
    exact Option.some.inj hget
  | arr items =>
    rw [ha.arr, Record.slots] at hslots
    split at hslots
    · obtain rfl := Option.some.inj hslots
      rw [List.getElem?_append] at hslot
      split at hslot
      next hlt =>
        simp only [List.getElem?_map, Option.map_eq_some_iff] at hslot
        obtain ⟨_, ⟨v, hv, rfl⟩, rfl⟩ := hslot
        rw [inputOf?, hv, Option.map_some]
      next hlt =>
        have hnone : items[6]? = none := by simpa using hlt
        rw [inputOf?, hnone, Option.map_none]
        exact List.eq_of_mem_replicate (List.mem_of_getElem? hslot)
    · cases hslots
  | _ =>
    rw [ha.scalar rfl rfl] at hslots
    cases hslots

/-- The input of a step has the fields that a document declares for it. -/
theorem keys_input {order : List String → List String} {arrange : Json → Json} (ha : Arranges order arrange)
    {declared : Json} {s : Step} (h : ofJson? (arrange declared) = some s) :
    s.input.keys = order (((inputOf? declared).map Json.names).getD []) := by
  obtain ⟨out, slot, hslots, hslot, hread⟩ := exists_slots h
  rw [slot_input ha hslots hslot] at hread
  cases hinput : inputOf? declared with
  | none =>
    rw [hinput] at hread
    have hempty : [] = s.input := Option.some.inj hread
    rw [← hempty]
    exact ha.nil.symm
  | some v =>
    rw [hinput] at hread
    cases v with
    | obj members =>
      obtain ⟨arranged, hobj, -, hkeys, -⟩ := ha.obj members
      rw [Option.map_some, hobj] at hread
      have hmembers : arranged = s.input := Option.some.inj hread
      rw [← hmembers, hkeys]
      rfl
    | arr items =>
      rw [Option.map_some, ha.arr] at hread
      cases hread
    | _ =>
      rw [Option.map_some, ha.scalar rfl rfl] at hread
      cases hread

end Step

/-! ### Groups -/

namespace Keyed

variable {α β : Type} {read? : α → Option β} {entries : Keyed α}

/-- The values that can be read, under their names. -/
def readable (read? : α → Option β) (entries : Keyed α) : Keyed β :=
  entries.filterMap fun e => (read? e.2).map (e.1, ·)

theorem keys_readable (entries : Keyed α) :
    keys (readable read? entries) = (entries.filter fun e => (read? e.2).isSome).map Prod.fst := by
  induction entries with
  | nil => rfl
  | cons e rest ih =>
    rw [readable, List.filterMap_cons, List.filter_cons]
    cases read? e.2 with
    | none => exact ih
    | some b => exact congrArg (e.1 :: ·) ih

theorem nodup_readable (h : (keys entries).Nodup) : (keys (readable read? entries)).Nodup := by
  rw [keys_readable]
  exact h.sublist (List.filter_sublist.map Prod.fst)

theorem find?_readable (h : (keys entries).Nodup) (name : String) :
    find? (readable read? entries) name = (find? entries name).bind read? := by
  ext b
  rw [find?_eq_some_iff (nodup_readable h), Option.bind_eq_some_iff]
  simp only [find?_eq_some_iff h, readable, List.mem_filterMap, Option.map_eq_some_iff, Prod.mk.injEq]
  constructor
  · rintro ⟨e, he, b, hb, rfl, rfl⟩
    exact ⟨e.2, he, hb⟩
  · rintro ⟨a, ha, hb⟩
    exact ⟨(name, a), ha, b, hb, rfl, rfl⟩

end Keyed

namespace WorkflowGraph

/-- Members with names of their own are read one after another. -/
theorem foldl_addMember_eq (front : Keyed StepGroup) (members : Keyed Json)
    (h : (Keyed.keys front ++ Keyed.keys members).Nodup) :
    members.foldl addMember ⟨front⟩ = ⟨front ++ Keyed.readable groupOfJson? members⟩ := by
  induction members generalizing front with
  | nil => rw [Keyed.readable, List.filterMap_nil, List.append_nil, List.foldl_nil]
  | cons m rest ih =>
    obtain ⟨name, raw⟩ := m
    have hkeys : Keyed.keys front ++ Keyed.keys ((name, raw) :: rest) = Keyed.keys front ++ name :: Keyed.keys rest := rfl
    rw [hkeys] at h
    rw [List.foldl_cons, addMember, Keyed.readable, List.filterMap_cons]
    cases groupOfJson? raw with
    | none => exact ih front (h.sublist ((List.sublist_cons_self name _).append_left _))
    | some group =>
      have hnew : name ∉ Keyed.keys front := fun hmem =>
        (List.nodup_append.1 h).2.2 name hmem name List.mem_cons_self rfl
      have hmore : Keyed.keys (front ++ [(name, group)]) = Keyed.keys front ++ [name] := by simp [Keyed.keys]
      simp only [insert, Keyed.put_of_notMem hnew]
      rw [ih _ (by rwa [hmore, List.append_assoc, List.singleton_append])]
      simp [Keyed.readable]

/-- The steps of a group that a document declares. -/
theorem exists_stepAt? {order : List String → List String} {arrange : Json → Json} (ha : Arranges order arrange)
    {declared : Json} {group : StepGroup} (h : groupOfJson? (arrange declared) = some group) {k : Nat} {s : Step}
    (hs : group.steps[k]? = some s) :
    ∃ step, StepGroup.stepAt? declared k = some step ∧ Step.ofJson? (arrange step) = some s := by
  have hsteps : ∃ items : List Json, (∀ k, items[k]? = StepGroup.stepAt? declared k) ∧
      (items.map arrange).mapM Step.ofJson? = some group.steps := by
    cases declared with
    | obj members =>
      obtain ⟨arranged, hobj, -⟩ := ha.obj members
      rw [hobj] at h
      obtain ⟨steps, hsteps, rfl⟩ := Option.map_eq_some_iff.1 h
      refine ⟨[.obj members], fun k => ?_, ?_⟩
      · cases k <;> rfl
      · rwa [List.map_singleton, hobj]
    | arr items =>
      rw [ha.arr] at h
      obtain ⟨steps, hsteps, rfl⟩ := Option.map_eq_some_iff.1 h
      exact ⟨items, fun k => rfl, hsteps⟩
    | _ =>
      rw [ha.scalar rfl rfl] at h
      cases h
  obtain ⟨items, hitems, hsteps⟩ := hsteps
  obtain ⟨v, hv, hread⟩ := Record.exists_of_getElem?_mapM hsteps hs
  rw [List.getElem?_map] at hv
  obtain ⟨step, hstep, rfl⟩ := Option.map_eq_some_iff.1 hv
  exact ⟨step, hitems k ▸ hstep, hread⟩

/-- Whether a graph lists what a document declares: the groups that can be read, and the fields of their steps, in the
order that its format holds them in. -/
structure Lists (g : WorkflowGraph) (format : SourceFormat) (document : Json) : Prop where
  get?_eq (name : String) :
    g.get? name = (document.last? name).bind fun declared => groupOfJson? (format.held declared)
  names_eq : g.names = (format.order document.names).filter fun name => (g.get? name).isSome
  keys_input {name : String} {declared : Json} {group : StepGroup} {k : Nat} {s : Step}
    (hdeclared : document.last? name = some declared) (hgroup : g.get? name = some group)
    (hs : group.steps[k]? = some s) :
    s.input.keys = format.order (StepGroup.inputNames declared k)

theorem lists_ofJson (format : SourceFormat) (document : Json) :
    (WorkflowGraph.ofJson (format.held document)).Lists format document := by
  have ha := format.arranges
  have hread : ∃ members : Keyed Json, WorkflowGraph.ofJson (format.held document) = ⟨Keyed.readable groupOfJson? members⟩ ∧
      (Keyed.keys members).Nodup ∧ Keyed.keys members = format.order document.names ∧
      ∀ name, Keyed.find? members name = (document.last? name).map format.held := by
    cases document with
    | obj declared =>
      obtain ⟨members, hobj, hnodup, hkeys, hfind⟩ := ha.obj declared
      refine ⟨members, ?_, hnodup, hkeys, hfind⟩
      rw [hobj, ofJson_obj]
      exact foldl_addMember_eq [] members hnodup
    | arr items => exact ⟨[], by rw [ha.arr]; rfl, List.nodup_nil, ha.nil.symm, fun _ => rfl⟩
    | _ => exact ⟨[], by rw [ha.scalar rfl rfl]; rfl, List.nodup_nil, ha.nil.symm, fun _ => rfl⟩
  obtain ⟨members, hgraph, hnodup, hkeys, hfind⟩ := hread
  have hget : ∀ name, (WorkflowGraph.ofJson (format.held document)).get? name =
      (document.last? name).bind fun declared => groupOfJson? (format.held declared) := by
    intro name
    rw [hgraph, get?, Keyed.find?_readable hnodup, hfind, Option.bind_map]
    rfl
  refine ⟨hget, ?_, fun hdeclared hgroup hs => ?_⟩
  · have hisSome : ∀ m ∈ members, (groupOfJson? m.2).isSome =
        ((WorkflowGraph.ofJson (format.held document)).get? m.1).isSome := by
      intro m hm
      rw [hgraph, get?, Keyed.find?_readable hnodup, (Keyed.find?_eq_some_iff hnodup).2 hm, Option.bind_some]
    rw [← hkeys, Keyed.keys, List.filter_map, hgraph, names, Keyed.keys_readable, ← hgraph]
    exact congrArg (List.map Prod.fst) (List.filter_congr hisSome)
  · rw [hget, hdeclared, Option.bind_some] at hgroup
    obtain ⟨step, hstep, hread⟩ := exists_stepAt? ha hgroup hs
    rw [Step.keys_input ha hread, StepGroup.inputNames, hstep, Option.bind_some]

/-- Every document gives a graph, which lists its groups and the fields of their steps in the order that its format
holds them in: as they are declared in JSON and YAML, by their names in TOML. -/
theorem graph_lists_document (format : SourceFormat) (text : String) :
    (∀ document, format.document? text = some document →
      ∃ g, format.graph text = .ok g ∧ g.Lists format document) ∧
    (format.document? text = none → format.graph text = .error .unreadable) := by
  rw [format.graph_eq]
  refine ⟨fun document h => ?_, fun h => by rw [h]⟩
  rw [h]
  exact ⟨_, rfl, lists_ofJson format document⟩

/-- What is declared in the texts below: the group `b` before `a`, and in its step the field `z` before `y`. -/
def declaredGroups : Json :=
  .obj [("b", .arr [.obj [("workflowId", .str "B")]]),
    ("a", .arr [.obj [("workflowId", .str "A"), ("input", .obj [("z", .str "1"), ("y", .str "2")])]])]

def jsonText : String :=
  "\x7b\"b\": [\x7b\"workflowId\": \"B\"\x7d], \"a\": [\x7b\"workflowId\": \"A\", \"input\": \x7b\"z\": \"1\", \"y\": \"2\"\x7d\x7d]\x7d"

def tomlText : String :=
  "[[b]]\nworkflowId = \"B\"\n\n[[a]]\nworkflowId = \"A\"\n[a.input]\nz = \"1\"\ny = \"2\"\n"

theorem json_graph_lists_groups_as_declared :
    ∃ g, SourceFormat.json.graph jsonText = .ok g ∧ g.Lists .json declaredGroups ∧ g.names = ["b", "a"] := by
  have hdocument : SourceFormat.json.document? jsonText = some declaredGroups := by cbv
  obtain ⟨g, hgraph, hlists⟩ := (graph_lists_document .json jsonText).1 declaredGroups hdocument
  have hread : SourceFormat.json.graph jsonText = .ok
      ⟨[("b", ⟨[{ workflow := "B" }]⟩), ("a", ⟨[{ workflow := "A", input := [("z", .str "1"), ("y", .str "2")] }]⟩)]⟩ := by
    rw [SourceFormat.graph_eq, hdocument]
    rfl
  obtain rfl := Except.ok.inj (hgraph.symm.trans hread)
  exact ⟨_, hgraph, hlists, rfl⟩

theorem tabled_declaredGroups : Toml.tabled declaredGroups =
    .obj [("a", .arr [.obj [("input", .obj [("y", .str "2"), ("z", .str "1")]), ("workflowId", .str "A")]]),
      ("b", .arr [.obj [("workflowId", .str "B")]])] := by
  simp [Toml.tabled, declaredGroups, Json.merged, Json.mergedItems, Json.mergedMembers, Keyed.put, Toml.byName,
    Toml.itemsByName, Toml.membersByName, Keyed.sorted, List.mergeSort, List.MergeSort.Internal.splitInTwo]

/-- The same groups declared in TOML are listed the other way round, and so are the fields of the step. -/
theorem toml_graph_lists_groups_by_name :
    ∃ g group s, SourceFormat.toml.document? tomlText = some declaredGroups ∧
      declaredGroups.names = ["b", "a"] ∧ SourceFormat.toml.graph tomlText = .ok g ∧ g.names = ["a", "b"] ∧
      (declaredGroups.last? "a").map (StepGroup.inputNames · 0) = some ["z", "y"] ∧
      g.get? "a" = some group ∧ group.steps[0]? = some s ∧ s.input.keys = ["y", "z"] := by
  have hdocument : SourceFormat.toml.document? tomlText = some declaredGroups := by cbv
  have hgraph : SourceFormat.toml.graph tomlText = .ok
      ⟨[("a", ⟨[{ workflow := "A", input := [("y", .str "2"), ("z", .str "1")] }]⟩), ("b", ⟨[{ workflow := "B" }]⟩)]⟩ := by
    rw [SourceFormat.graph_eq, hdocument]
    simp only [SourceFormat.held, tabled_declaredGroups]
    rfl
  exact ⟨_, _, _, hdocument, by decide +kernel, hgraph, rfl, by decide +kernel, rfl, rfl, rfl⟩

end WorkflowGraph

end BackOffice
