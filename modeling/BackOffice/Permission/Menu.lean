import BackOffice.Json.Printer
import BackOffice.Record

/-!
The menu: entries that name their parents, and the forest that they make. The entries under the root
are the trees of the forest; an entry that no root reaches is left out, and none is placed twice.
-/

namespace BackOffice

/-- What a menu entry stands for. -/
inductive CommandKind where
  /-- An entry that may have others below it. -/
  | menu
  /-- A command that belongs to a menu. -/
  | command
deriving DecidableEq, Repr

/-- An entry of the menu with the entries below it. -/
structure MenuNode where
  id : String
  parent : String := ""
  kind : CommandKind := .menu
  name : String := ""
  service : Option String := none
  children : List MenuNode := []

namespace CommandKind

def ofJson? : Json → Option CommandKind :=
  Record.unit? [("M", menu), ("m", menu), ("C", command), ("c", command)]

def toJson : CommandKind → Json
  | menu => .str "M"
  | command => .str "C"

end CommandKind

/-- An identifier given as a text or as a number; anything else stands for the empty one. -/
def lenientId : Json → String
  | .str s => s
  | .num n => (Json.num n).text
  | _ => ""

namespace MenuNode

def fields : List Record.Names :=
  [["command_id"], ["parent_id"], ["command_type"], ["command_name"], ["service_id"], ["children"]]

/-- Reads the items of an array that may be absent. -/
def readBelow? (slot : Option Json)
    (read? : (w : Json) → (∃ items, slot = some (.arr items) ∧ w ∈ items) → Option MenuNode) :
    Option (List MenuNode) :=
  match slot, read? with
  | none, _ => some []
  | some (.arr items), read? => items.attach.mapM fun w => read? w.1 ⟨items, rfl, w.2⟩
  | some _, _ => none

/-- The items below an entry are parts of the value that the entry is read from. -/
theorem sizeOf_lt_of_children {v w : Json} {id parent kind name service children : Option Json}
    (h : Record.slots fields v = some [id, parent, kind, name, service, children])
    (hw : ∃ items, children = some (.arr items) ∧ w ∈ items) : sizeOf w < sizeOf v := by
  obtain ⟨items, rfl, hm⟩ := hw
  have h₁ := Record.sizeOf_lt_of_items? (v := .arr items) rfl hm
  have h₂ := Record.sizeOf_lt_of_slots h (w := .arr items) (by simp)
  omega

/-- Reads an entry with the entries below it, all of which have to be readable. -/
def ofJson? (v : Json) : Option MenuNode :=
  match h : Record.slots fields v with
  | some [id, parent, kind, name, service, children] => do
    let id ← id
    let kind ← Record.defaulted CommandKind.ofJson? .menu kind
    let name ← Record.defaulted Json.text? "" name
    let below ← readBelow? children fun w hw =>
      have : sizeOf w < sizeOf v := sizeOf_lt_of_children h hw
      ofJson? w
    some {
      id := lenientId id
      parent := (parent.map lenientId).getD ""
      kind, name
      service := (service.map lenientId).filter (· ≠ "")
      children := below }
  | _ => none
termination_by sizeOf v

mutual

def toJson : MenuNode → Json
  | { id, parent, kind, name, service, children } =>
    .obj ([("command_id", .str id), ("parent_id", .str parent), ("command_type", kind.toJson),
        ("command_name", .str name)]
      ++ (match service with
        | some service => [("service_id", .str service)]
        | none => [])
      ++ [("children", .arr (listToJson children))])

def listToJson : List MenuNode → List Json
  | [] => []
  | n :: rest => toJson n :: listToJson rest

end

/-- The entries that can be read. -/
def ofItems (items : List Json) : List MenuNode := items.filterMap ofJson?

/-- The parent that the entries at the top name. -/
def rootId : String := "0"

def isRoot (n : MenuNode) : Bool := n.parent == rootId

/-- The service behind an entry: the entry itself if it names none. -/
def serviceId (n : MenuNode) : String := n.service.getD n.id

mutual

/-- The first entry with an identifier, an entry before those below it. -/
def find? (id : String) : MenuNode → Option MenuNode
  | { id := own, parent, kind, name, service, children } =>
    if own = id then some { id := own, parent, kind, name, service, children }
    else findIn? id children

def findIn? (id : String) : List MenuNode → Option MenuNode
  | [] => none
  | n :: rest => (find? id n).or (findIn? id rest)

end

/-- The places of the entries that name a parent, in order. -/
def childrenOf (flat : List MenuNode) (id : String) : List Nat :=
  (List.range flat.length).filter fun i => flat[i]?.any (·.parent == id)

/-- Attaches entries one after another, each with the places that are taken by then. -/
def attachEach (attach : List Nat → Nat → Option MenuNode × List Nat) (taken : List Nat) :
    List Nat → List MenuNode × List Nat
  | [] => ([], taken)
  | i :: rest =>
    let (node, taken) := attach taken i
    let (nodes, taken) := attachEach attach taken rest
    (node.toList ++ nodes, taken)

/-- The entry at a place with all that it reaches and that is not yet taken. A chain of entries that
reach one another is no longer than the list, which bounds the depth. -/
def attach (flat : List MenuNode) : (depth : Nat) → List Nat → Nat → Option MenuNode × List Nat
  | 0, taken, _ => (none, taken)
  | depth + 1, taken, i =>
    if taken.contains i then (none, taken)
    else match flat[i]? with
      | none => (none, taken)
      | some node =>
        let (children, taken) :=
          attachEach (attach flat depth) (i :: taken) (childrenOf flat node.id)
        (some { node with children }, taken)

/-- The forest of a list of entries. -/
def forest (flat : List MenuNode) : List MenuNode :=
  (attachEach (attach flat flat.length) [] (childrenOf flat rootId)).1

end MenuNode

end BackOffice
