import BackOffice.Proofs.Run.ArrivalOrder

/-!
The journal of a context holds all that is written on it, one value at a time or from another journal, in order. So
the writes since a mark, made again on a copy taken there, bring the copy to the same values. When several snapshots of
a context are written on and their journals are made again one after another, the last snapshot that wrote a key decides.
-/

namespace BackOffice

namespace Context

/-- What is written on a context: one value, or a list of writes. -/
inductive Edit where
  | set (key : String) (v : Json)
  | apply (writes : List Write)

namespace Edit

/-- The writes that are made. -/
def writes : Edit → List Write
  | set key v => [(key, v)]
  | apply writes => writes

/-- The value that is written last under a key, if one is. -/
def lastWritten? (key : String) (edits : List Edit) : Option Json := (edits.flatMap writes).reverse.lookup key

end Edit

/-- The context after it has been written on once. -/
def edit (c : Context) : Edit → Context
  | .set key v => c.set key v
  | .apply writes => c.apply writes

/-- The context after it has been written on. -/
def edited (c : Context) (edits : List Edit) : Context := edits.foldl edit c

/-- The context after the journals of others have been made again on it, one after another. -/
def replayed (c : Context) (others : List Context) : Context :=
  others.foldl (fun c other => c.apply (other.writesSince 0)) c

variable {c : Context}

theorem edit_eq (c : Context) (e : Edit) : c.edit e = c.apply e.writes := by
  cases e <;> rfl

theorem edited_eq (c : Context) (edits : List Edit) : c.edited edits = c.apply (edits.flatMap Edit.writes) := by
  induction edits generalizing c with
  | nil => rfl
  | cons e rest ih =>
    have hstep : c.edited (e :: rest) = (c.edit e).edited rest := rfl
    rw [hstep, ih, edit_eq, List.flatMap_cons, apply_append]

/-- The journal has all writes since a mark, and nothing else. -/
theorem writesSince_edited (c : Context) (edits : List Edit) :
    (c.edited edits).writesSince c.mark = edits.flatMap Edit.writes := by
  rw [edited_eq, writesSince_apply]

theorem replayed_eq (c : Context) (others : List Context) :
    c.replayed others = c.apply (others.flatMap (·.writesSince 0)) := by
  induction others generalizing c with
  | nil => rfl
  | cons other rest ih =>
    have hstep : c.replayed (other :: rest) = (c.apply (other.writesSince 0)).replayed rest := rfl
    rw [hstep, ih, List.flatMap_cons, apply_append]

theorem replayed_snapshots (c : Context) (courses : List (List Edit)) :
    c.replayed (courses.map c.snapshot.edited) = c.apply (courses.flatMap (·.flatMap Edit.writes)) := by
  have hjournal : (fun edits => (c.snapshot.edited edits).writesSince 0) = fun edits => edits.flatMap Edit.writes :=
    funext c.snapshot.writesSince_edited
  rw [replayed_eq, List.flatMap_map, hjournal]

/-- What stands under a key of a context that has been written on. -/
theorem find?_edited (c : Context) (edits : List Edit) (key : String) :
    (c.edited edits).values.find? key = (Edit.lastWritten? key edits).or (c.values.find? key) := by
  rw [edited_eq, values_apply, Keyed.find?_putAll, Edit.lastWritten?]

/-- In the writes of several courses the last course that writes a key decides. -/
theorem lookup_writes_courses (courses : List (List Edit)) (key : String) :
    (courses.flatMap (·.flatMap Edit.writes)).reverse.lookup key =
      courses.reverse.findSome? (Edit.lastWritten? key) := by
  induction courses with
  | nil => rfl
  | cons edits rest ih =>
    rw [List.flatMap_cons, List.reverse_append, List.lookup_append, ih, List.reverse_cons, List.findSome?_append,
      List.findSome?_singleton, Edit.lastWritten?]

/-- The writes since a mark bring a copy that was taken there, with or without the journal, to the values that the
context has. Snapshots of a context that were written on, each in its own way, come together when their journals are
made again in order: every key has the last value that the last snapshot to write it has written, which is what stands
there in that snapshot, and a key that no snapshot wrote has its old value. -/
theorem journals_replay_exactly (c : Context) :
    (∀ edits : List Edit, (c.apply ((c.edited edits).writesSince c.mark)).values = (c.edited edits).values ∧
        (c.snapshot.apply ((c.edited edits).writesSince c.mark)).values = (c.edited edits).values) ∧
      (∀ (courses : List (List Edit)) (key : String), (c.replayed (courses.map c.snapshot.edited)).values.find? key =
        (courses.reverse.findSome? (Edit.lastWritten? key)).or (c.values.find? key)) ∧
      ∀ (edits : List Edit) (key : String), (c.snapshot.edited edits).values.find? key =
        (Edit.lastWritten? key edits).or (c.values.find? key) := by
  refine ⟨fun edits => ?_, fun courses key => ?_, fun edits key => c.snapshot.find?_edited edits key⟩
  · have hcopy (copy : Context) (h : copy.values = c.values) :
        (copy.apply ((c.edited edits).writesSince c.mark)).values = (c.edited edits).values := by
      rw [writesSince_edited, edited_eq, values_apply, values_apply, h]
    exact ⟨hcopy c rfl, hcopy c.snapshot rfl⟩
  · rw [replayed_snapshots, values_apply, Keyed.find?_putAll, lookup_writes_courses]

end Context

namespace GraphRun

/-- The groups of a wave that ran side by side come together in this way. -/
theorem context_foldl_merge_eq_replayed (c : Conditions) (g : GraphRun) (groups : List (Nat × GroupRun)) :
    (groups.foldl (fun g e => g.merge c.rules true e.1 e.2) g).run.context =
      g.run.context.replayed (groups.map (·.2.context)) := by
  rw [context_foldl_merge, Context.replayed_eq, List.flatMap_map]

end GraphRun

end BackOffice
