import BackOffice.Proofs.Record.Keyed
import BackOffice.Proofs.Record.Written
import BackOffice.Workflow.Graph

/-!
The written form of a workflow graph. A graph that was put together group by group, or read from a value, has no
group twice, and reading its written form gives the same graph: the same groups, steps and fields in the same order.
-/

namespace BackOffice

/-! ### Steps and groups -/

namespace WriteBack

theorem toJson_eq (w : WriteBack) :
    w.toJson = .obj (Record.written ["from", "to"] [some (.str w.source), some (.str w.target)]) := rfl

theorem ofJson?_toJson (w : WriteBack) : ofJson? w.toJson = some w := by
  have hslots : Record.slots fields w.toJson = some [some (.str w.source), some (.str w.target)] :=
    w.toJson_eq ▸ Record.slots_written (by decide) rfl
  rw [ofJson?, hslots]
  rfl

end WriteBack

namespace Step

/-- The names under which a step's fields are written. -/
def names : List String :=
  ["id", "workflowId", "learnApi", "useMicroservice", "shouldAwait", "critical", "input", "writeBack"]

/-- What is written for a step's fields. -/
def values (s : Step) : List (Option Json) :=
  [s.slot.map .str, some (.str s.workflow), s.learnApi.map .str, s.useMicroservice.map .bool,
    some (.bool s.awaited), some (.bool s.critical), some (.obj s.input),
    if s.writeBacks.isEmpty then none else some (.arr (s.writeBacks.map WriteBack.toJson))]

theorem toJson_eq (s : Step) : s.toJson = .obj (Record.written names s.values) := by
  obtain ⟨slot, workflow, learnApi, useMicroservice, awaited, critical, input, writeBacks⟩ := s
  cases slot <;> cases learnApi <;> cases useMicroservice <;> cases writeBacks <;> rfl

/-- A step reads back as it was written. -/
theorem ofJson?_toJson (s : Step) : ofJson? s.toJson = some s := by
  have hslots : Record.slots fields s.toJson = some s.values :=
    s.toJson_eq ▸ Record.slots_written (by decide) rfl
  have hslot := Record.optional_map Json.text? .str (fun _ => rfl) nofun s.slot
  have hlearn := Record.optional_map Json.text? .str (fun _ => rfl) nofun s.learnApi
  have huse := Record.optional_map Record.bool? .bool (fun _ => rfl) nofun s.useMicroservice
  have hwrites : Record.defaulted (Record.list? WriteBack.ofJson?) []
      (if s.writeBacks.isEmpty then none else some (.arr (s.writeBacks.map WriteBack.toJson))) =
        some s.writeBacks := by
    split
    next hempty => rw [List.isEmpty_iff.1 hempty]; rfl
    next => exact Record.list?_map fun w _ => w.ofJson?_toJson
  simp only [ofJson?, hslots, values, Option.bind_eq_bind, Option.bind_some, hslot, hlearn, huse, hwrites]
  rfl

end Step

theorem StepGroup.ofJson?_toJson (g : StepGroup) : ofJson? g.toJson = some g := by
  rw [ofJson?, toJson, Record.list?_map fun s _ => s.ofJson?_toJson]
  rfl

/-! ### Graphs -/

namespace WorkflowGraph

/-- The graphs that can be built: from none at all, by adding groups, or out of a value. -/
inductive Built : WorkflowGraph → Prop
  | empty : Built empty
  | insert {g : WorkflowGraph} (h : Built g) (name : String) (group : StepGroup) : Built (g.insert name group)
  | ofJson (v : Json) : Built (ofJson v)

theorem nodup_insert {g : WorkflowGraph} (h : g.names.Nodup) (name : String) (group : StepGroup) :
    (g.insert name group).names.Nodup :=
  Keyed.nodup_keys_put h name group

/-- The graph with the group that a member stands for, if it can be read. -/
def addMember (g : WorkflowGraph) (m : String × Json) : WorkflowGraph :=
  match groupOfJson? m.2 with
  | some group => g.insert m.1 group
  | none => g

theorem ofJson_obj (members : Keyed Json) : WorkflowGraph.ofJson (.obj members) = members.foldl addMember empty := rfl

theorem nodup_foldl_addMember (members : Keyed Json) {g : WorkflowGraph} (h : g.names.Nodup) :
    (members.foldl addMember g).names.Nodup := by
  induction members generalizing g with
  | nil => exact h
  | cons m rest ih =>
    rw [List.foldl_cons]
    apply ih
    unfold addMember
    split
    · exact nodup_insert h _ _
    · exact h

/-- No graph has a group twice. -/
theorem Built.nodup {g : WorkflowGraph} (h : Built g) : g.names.Nodup := by
  induction h with
  | empty => exact List.nodup_nil
  | insert _ name group ih => exact nodup_insert ih name group
  | ofJson v =>
    cases v with
    | obj members => exact nodup_foldl_addMember members List.nodup_nil
    | _ => exact List.nodup_nil

/-- Groups that are read one after another come to stand behind one another. -/
theorem foldl_addMember_written (front back : Keyed StepGroup) (h : (Keyed.keys (front ++ back)).Nodup) :
    (back.mapValues StepGroup.toJson).foldl addMember ⟨front⟩ = ⟨front ++ back⟩ := by
  induction back generalizing front with
  | nil => rw [List.append_nil, Keyed.mapValues, List.map_nil, List.foldl_nil]
  | cons entry rest ih =>
    obtain ⟨name, group⟩ := entry
    have hnew : name ∉ Keyed.keys front := Keyed.notMem_of_nodup h
    have hread : addMember ⟨front⟩ (name, group.toJson) = ⟨front ++ [(name, group)]⟩ := by
      have hgroup : groupOfJson? group.toJson = some group := group.ofJson?_toJson
      simp only [addMember, hgroup, insert, Keyed.put_of_notMem hnew]
    have hmore : front ++ (name, group) :: rest = front ++ [(name, group)] ++ rest := by simp
    rw [Keyed.mapValues, List.map_cons, List.foldl_cons, hread, ← Keyed.mapValues, ih _ (hmore ▸ h), hmore]

theorem ofJson_toJson {g : WorkflowGraph} (h : g.names.Nodup) : WorkflowGraph.ofJson g.toJson = g :=
  foldl_addMember_written [] g.groups h

/-- Every graph that can be built names each group once, keeps the place of a group that is replaced, and reads back
from its written form as the same graph. -/
theorem written_graph_reads_back {g : WorkflowGraph} (h : Built g) :
    g.names.Nodup ∧
      (∀ (name : String) (group : StepGroup), (g.insert name group).names = (if name ∈ g.names then g.names else g.names ++ [name]) ∧
        ∀ i : Nat, (g.insert name group).groups[i]? =
          if (g.insert name group).names[i]? = some name then some (name, group) else g.groups[i]?) ∧
      WorkflowGraph.ofJson g.toJson = g := by
  refine ⟨h.nodup, fun name group => ?_, ofJson_toJson h.nodup⟩
  by_cases hmem : name ∈ g.names
  · have hnames : (g.insert name group).names = g.names := Keyed.keys_put_of_mem hmem group
    rw [if_pos hmem, hnames]
    exact ⟨rfl, fun i => Keyed.getElem?_put h.nodup hmem group i⟩
  · have hgroups : (g.insert name group).groups = g.groups ++ [(name, group)] := Keyed.put_of_notMem hmem group
    have hnames : (g.insert name group).names = g.names ++ [name] := Keyed.keys_put_of_notMem hmem group
    rw [if_neg hmem, hnames, hgroups]
    refine ⟨rfl, fun i => ?_⟩
    have hlength : g.names.length = g.groups.length := List.length_map _
    obtain hlt | heq | hgt := Nat.lt_trichotomy i g.groups.length
    · rw [List.getElem?_append_left hlt, List.getElem?_append_left (hlength ▸ hlt), if_neg]
      exact fun heq => hmem (List.mem_of_getElem? heq)
    · subst heq
      rw [← hlength, List.getElem?_concat_length, if_pos rfl, hlength, List.getElem?_concat_length]
    · have hbeyond : g.names.length < i := hlength ▸ hgt
      rw [List.getElem?_eq_none (by rw [List.length_append, List.length_singleton]; omega),
        List.getElem?_eq_none (by rw [List.length_append, List.length_singleton]; omega),
        List.getElem?_eq_none (Nat.le_of_lt hgt), if_neg (Option.some_ne_none name).symm]

theorem extended_graph_reads_back :
    let read := WorkflowGraph.ofJson (.obj [("load", .obj [("workflow_id", .str "LOAD")]), ("broken", .null)])
    let g := read.insert "save" ⟨[{ workflow := "SAVE", input := [("b", .null), ("a", .null)] }]⟩
    Built g ∧ g.names = ["load", "save"] ∧ WorkflowGraph.ofJson g.toJson = g := by
  intro read g
  have hbuilt : Built g := (Built.ofJson _).insert "save" _
  exact ⟨hbuilt, rfl, (written_graph_reads_back hbuilt).2.2⟩

end WorkflowGraph

end BackOffice
