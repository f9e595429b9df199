import BackOffice.Workflow.Graph

/-!
The order in which the groups of a graph run. A group depends on another when it reads, from outside,
a key that the other writes. Groups are laid out in waves, where each group comes after all that it
depends on; groups that depend on each other in a circle run one by one, as they are declared.
-/

namespace BackOffice

/-- The order of the groups of a graph, which are named by their places. -/
structure Plan where
  waves : List (List Nat)
  /-- For each group, the groups that it has to come after. -/
  dependencies : List (List Nat)
  /-- Whether the groups depend on each other in a circle. -/
  sequential : Bool
deriving DecidableEq, Repr

namespace Plan

/-- Whether one group reads a key that another writes. -/
def reads (reader writer : StepGroup) : Bool := reader.externalReads.any writer.writes.contains

/-- The groups that a group depends on, in order. -/
def dependenciesOf (groups : List StepGroup) (reader : Nat) : List Nat :=
  (List.range groups.length).filter fun writer =>
    writer ≠ reader && match groups[reader]?, groups[writer]? with
      | some r, some w => reads r w
      | _, _ => false

/-- Takes away, wave by wave, the groups that depend on none that is left. Nothing comes of it when all
that are left depend on others. -/
def waves? (dependencies : Nat → List Nat) : (fuel : Nat) → List Nat → Option (List (List Nat))
  | _, [] => some []
  | 0, _ :: _ => none
  | fuel + 1, left =>
    let ready := left.filter fun i => (dependencies i).all (!left.contains ·)
    if ready.isEmpty then none
    else (waves? dependencies fuel (left.filter (!ready.contains ·))).map (ready :: ·)

/-- The plan of a graph. -/
def of (graph : WorkflowGraph) : Plan :=
  let groups := graph.groups.map Prod.snd
  let places := List.range groups.length
  match waves? (dependenciesOf groups) groups.length places with
  | some waves => ⟨waves, places.map (dependenciesOf groups), false⟩
  | none => ⟨places.map ([·]), places.map fun i => (dependenciesOf groups i).filter (· < i), true⟩

end Plan

end BackOffice
