import BackOffice.Proofs.Context.Reads
import Mathlib.Tactic.SplitIfs

/-!
Which expressions a value can stand for. Such an expression is written in a form that stands for it again, so nothing
is lost when steps are written out and read back. Any other expression is taken for something else once it is written:
a literal may look like a script, a reference or a transform, and an unknown transform may have a known name.
-/

namespace BackOffice

/-- The name of the transform that members stand for, if they have the marker. -/
def Transform.named? (members : Keyed Json) : Option String := (members.find? marker).bind Json.text?

/-- Whether an unknown transform has a name that stands for nothing when it stands alone. -/
def Transform.isNamed : Transform → Bool
  | unknown name => name ∉ ["uuid", "now", "timestamp", "today"]
  | _ => true

/-- The key that members refer to: they are a key, and at most a default beside it. -/
def Json.referred? (members : Keyed Json) : Option String :=
  if (Keyed.keys members).all fun k => k = "key" ∨ k = "default" then (members.find? "key").bind Json.text? else none

/-- Whether a value stands for itself: it is no script text, has no marker of a transform, and refers to nothing. -/
def Json.isPlain : Json → Bool
  | str text => !looksLikeScript text
  | obj members => (Transform.named? members).isNone && (referred? members).isNone
  | _ => true

/-- Whether there is a value that an expression can be read from. -/
def InputExpr.isReadable : InputExpr → Bool
  | literal v => v.isPlain
  | contextRef .. => true
  | transform t => t.isNamed
  | script text => looksLikeScript text

namespace Transform

theorem isNamed_ofName (name : String) (members : Keyed Json) : (ofName name members).isNamed = true := by
  simp only [ofName]
  split_ifs with huuid hnow htimestamp htoday hcontext
  · rfl
  · rfl
  · rfl
  · rfl
  · -- A name that reads a key without one stands for nothing, and is none of the other names.
    split
    · rfl
    · simp [isNamed, huuid, hnow, htimestamp, htoday]
  · simp [isNamed, huuid, hnow, htimestamp, htoday]

/-- Without members beside it, a name that stands for nothing is not taken for another one. -/
theorem ofName_unknown {name : String} (h : (unknown name).isNamed = true) :
    ofName name [(marker, .str name)] = unknown name := by
  have hnot : ¬name = "uuid" ∧ ¬name = "now" ∧ ¬name = "timestamp" ∧ ¬name = "today" := by simpa [isNamed] using h
  obtain ⟨huuid, hnow, htimestamp, htoday⟩ := hnot
  have hkey : Keyed.find? [(marker, Json.str name)] "key" = none := rfl
  simp only [ofName, if_neg huuid, if_neg hnow, if_neg htimestamp, if_neg htoday, hkey, Option.bind_none, ite_self]

end Transform

namespace InputExpr

theorem ofJson_obj_of_named {members : Keyed Json} {name : String} (h : Transform.named? members = some name) :
    ofJson (.obj members) = transform (.ofName name members) := by
  rw [Transform.named?] at h
  simp only [ofJson, h]

theorem ofJson_obj_of_not_named {members : Keyed Json} (h : Transform.named? members = none) :
    ofJson (.obj members) = match Json.referred? members with
      | some key => contextRef key (Keyed.find? members "default")
      | none => literal (.obj members) := by
  rw [Transform.named?] at h
  simp only [ofJson, h, Json.referred?]
  cases (Keyed.find? members "key").bind Json.text? with
  | none => simp only [ite_self]
  | some key =>
    by_cases hall : ((Keyed.keys members).all fun k => k = "key" ∨ k = "default") = true
    · simp only [if_pos hall]
    · simp only [if_neg hall]

/-- A value stands for itself if it does not look like anything else. -/
theorem ofJson_of_isPlain {v : Json} (h : v.isPlain = true) : ofJson v = literal v := by
  cases v with
  | str text =>
    rw [Json.isPlain, Bool.not_eq_true'] at h
    simp [ofJson, h]
  | obj members =>
    rw [Json.isPlain, Bool.and_eq_true, Option.isNone_iff_eq_none, Option.isNone_iff_eq_none] at h
    rw [ofJson_obj_of_not_named h.1, h.2]
  | _ => rfl

/-- Whatever is read out of a value can be read. -/
theorem isReadable_ofJson (v : Json) : (ofJson v).isReadable = true := by
  cases v with
  | str text =>
    rw [ofJson]
    split
    next h => exact h
    next h => simp [isReadable, Json.isPlain, h]
  | obj members =>
    cases hname : Transform.named? members with
    | some name =>
      rw [ofJson_obj_of_named hname]
      exact Transform.isNamed_ofName name members
    | none =>
      rw [ofJson_obj_of_not_named hname]
      cases hkey : Json.referred? members with
      | some key => rfl
      | none => simp [isReadable, Json.isPlain, hname, hkey]
  | _ => rfl

/-- A reference is written as a key with at most a default, and nothing else is written so. -/
theorem ofJson_contextRef (key : String) (default : Option Json) :
    ofJson (contextRef key default).toJson = contextRef key default := by
  cases default <;> rfl

theorem ofJson_transform {t : Transform} (h : t.isNamed = true) : ofJson (transform t).toJson = transform t := by
  cases t with
  | uuid | now | timestamp | today => rfl
  | fromContext key default => cases default <;> rfl
  | unknown name =>
    -- The name is written alone, so it cannot be taken for one that reads a key.
    have hname : Transform.named? [(Transform.marker, .str name)] = some name := rfl
    exact (ofJson_obj_of_named hname).trans (congrArg transform (Transform.ofName_unknown h))

/-- What can be read reads back from its written form. -/
theorem ofJson_toJson {e : InputExpr} (h : e.isReadable = true) : ofJson e.toJson = e := by
  cases e with
  | literal v => exact ofJson_of_isPlain h
  | contextRef key default => exact ofJson_contextRef key default
  | transform t => exact ofJson_transform h
  | script text =>
    rw [isReadable] at h
    simp [toJson, ofJson, h]

theorem ofJson_toJson_iff (e : InputExpr) : ofJson e.toJson = e ↔ e.isReadable = true :=
  ⟨fun h => h ▸ isReadable_ofJson e.toJson, ofJson_toJson⟩

end InputExpr

/-- The step with its fields written anew from what they stand for. -/
def Step.rewritten (s : Step) : Step := { s with input := s.input.mapValues fun v => (InputExpr.ofJson v).toJson }

theorem Step.inputs_rewritten (s : Step) : s.rewritten.inputs = s.inputs := by
  simp only [inputs, rewritten, Keyed.mapValues, List.map_map]
  refine List.map_congr_left fun entry _ => ?_
  exact congrArg (entry.1, ·) (InputExpr.ofJson_toJson (InputExpr.isReadable_ofJson entry.2))

/-- What a value stands for is written in a form that stands for the same, and the expressions that are kept by writing
them are just those that values stand for. So a step that is written anew reads the same keys, and is bound in the
same way in every context. -/
theorem InputExpr.written_expression_reads_back :
    (∀ v : Json, ofJson (ofJson v).toJson = ofJson v) ∧
      (∀ e : InputExpr, ((∃ v, ofJson v = e) ↔ e.isReadable = true) ∧ (ofJson e.toJson = e ↔ e.isReadable = true)) ∧
      ∀ (s : Step) (c : Context) (around : Surroundings),
        s.rewritten.reads = s.reads ∧ s.rewritten.bind c around = s.bind c around := by
  refine ⟨fun v => ofJson_toJson (isReadable_ofJson v), fun e => ⟨⟨?_, fun h => ⟨e.toJson, ofJson_toJson h⟩⟩,
    ofJson_toJson_iff e⟩, fun s c around => ⟨?_, ?_⟩⟩
  · rintro ⟨v, rfl⟩
    exact isReadable_ofJson v
  · rw [Step.reads, s.inputs_rewritten, Step.reads]
  · rw [Step.bind, s.inputs_rewritten, Step.bind]
    rfl

/-- Another spelling and other members are not kept, and without a key to read the name stands for nothing. -/
example :
    (InputExpr.ofJson (.obj [("n", .null), ("key", .str "k"), ("$fn", .str "from_context")])).toJson =
        .obj [("$fn", .str "fromContext"), ("key", .str "k")] ∧
      (InputExpr.ofJson (.obj [("key", .null), ("$fn", .str "from_context")])).toJson =
        .obj [("$fn", .str "from_context")] := ⟨rfl, rfl⟩

end BackOffice
