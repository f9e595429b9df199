import BackOffice.Config.Resolved
import BackOffice.Workflow.Step

/-!
Groups of steps that run one after another, and graphs of named groups. The order of declaration is
kept: it decides how the writes of groups that run side by side are merged.
-/

namespace BackOffice

/-- Steps that run one after another. -/
structure StepGroup where
  steps : List Step

namespace StepGroup

def ofJson? (v : Json) : Option StepGroup := (Record.list? Step.ofJson? v).map StepGroup.mk

def toJson (g : StepGroup) : Json := .arr (g.steps.map Step.toJson)

/-- The keys that steps read and no step before them writes, given keys that are written already. -/
def readsAfter (written : List String) : List Step → List String
  | [] => []
  | s :: rest => s.reads.filter (!written.contains ·) ++ readsAfter (written ++ s.writes) rest

/-- The keys that the group reads from outside. -/
def externalReads (g : StepGroup) : List String := readsAfter [] g.steps

/-- The keys that the group may write. -/
def writes (g : StepGroup) : List String := g.steps.flatMap Step.writes

end StepGroup

/-- Named groups in declaration order. -/
structure WorkflowGraph where
  groups : Keyed StepGroup

namespace WorkflowGraph

/-- The graph without groups. -/
def empty : WorkflowGraph := ⟨[]⟩

/-- Adds a group; a group that is replaced keeps its place. -/
def insert (g : WorkflowGraph) (name : String) (group : StepGroup) : WorkflowGraph :=
  ⟨g.groups.put name group⟩

def get? (g : WorkflowGraph) (name : String) : Option StepGroup := g.groups.find? name

def names (g : WorkflowGraph) : List String := g.groups.keys

/-- The group that a value stands for; a single step stands for the group of it alone. -/
def groupOfJson? : Json → Option StepGroup
  | .obj members => StepGroup.ofJson? (.arr [.obj members])
  | v => StepGroup.ofJson? v

/-- Reads a graph; groups that cannot be read are left out, and what is no object is the empty graph. -/
def ofJson (v : Json) : WorkflowGraph :=
  match v.members? with
  | none => empty
  | some members => members.foldl
      (fun g (name, raw) => match groupOfJson? raw with
        | some group => g.insert name group
        | none => g)
      empty

def toJson (g : WorkflowGraph) : Json := .obj (g.groups.mapValues StepGroup.toJson)

/-- The graph in a text; a text that holds none gives the empty graph. -/
def ofText? (text : Option String) : WorkflowGraph := ofJson (Config.ofText? .object text).value

end WorkflowGraph

end BackOffice
