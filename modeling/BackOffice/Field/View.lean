import BackOffice.Field.Coercion
import BackOffice.Field.Kind
import BackOffice.Field.Schema
import BackOffice.Calendar.LayoutWriter
import BackOffice.Decimal.Fixed
import BackOffice.Json.Path
import BackOffice.Pattern.Reader

/-!
A field seen through its kind and its configuration: how a value is shown, what input is stored, and
what is wrong with an input.
-/

namespace BackOffice

/-- What is wrong with a value. -/
inductive FieldIssue where
  | required
  | belowMin (min : Float)
  | aboveMax (max : Float)
  | tooLong (max : Nat)
  | patternMismatch (pattern : String)
  | fault (f : FieldFault)

namespace FieldIssue

def message : FieldIssue → String
  | required => "This field is required"
  | belowMin min => s!"Value must be at least {String.ofList (FloatLayout.plainText.write min)}"
  | aboveMax max => s!"Value must be at most {String.ofList (FloatLayout.plainText.write max)}"
  | tooLong max => s!"Value must be at most {max} characters"
  | patternMismatch pattern => s!"Value does not match the pattern {pattern}"
  | fault f => f.message

end FieldIssue

/-- A date mask in which `YYYY`, `MM`, `DD`, `HH`, `mm` and `ss` stand for the parts of a date, as the
text of a layout. A text with a percent sign is one already. -/
def layoutOfMask (mask : List Char) : List Char :=
  if mask.contains '%' then mask
  else
    let replace (part by_ : String) (cs : List Char) : List Char := replaceAll part.toList by_.toList cs
    (replace "mm" "%M" ∘ replace "MM" "%m" ∘ replace "ss" "%S" ∘ replace "HH" "%H" ∘ replace "DD" "%d"
      ∘ replace "YYYY" "%Y") mask

/-- The layout of a mask, if it is one. -/
def maskLayout? (mask : String) : Option Layout :=
  let chars := layoutOfMask mask.toList
  Layout.ofChars? chars.length chars

/-- The moment in a layout; as a date if there is no such layout, or it asks for more than a moment has. -/
def Moment.writeOrDate (m : Moment) (layout : Option Layout) : String :=
  (layout.bind m.write?).getD m.date.text

/-- The paths of a list, given as texts or as objects with a code. -/
def pathsOf (v : Json) : List String :=
  (v.items?.getD []).filterMap fun item => match item with
    | .str s => some s
    | .obj members => (Keyed.find? members "code").bind Json.text?
    | _ => none

/-- A field as its kind and its configuration make it. -/
structure FieldView where
  kind : FieldKind
  config : Config
  options : List FieldOption
  required : Bool

namespace FieldView

/-- The options in a configuration; entries that are none are left out. -/
def optionsOf (config : Config) : List FieldOption :=
  (((config.get? "options").bind Json.items?).getD []).filterMap FieldOption.ofJson?

/-- The view of a tag and a configuration. -/
def ofTag (tag : String) (config : Config) : FieldView :=
  { kind := .ofTag tag, config, options := optionsOf config, required := false }

/-- Asks for a value, if the kind of field allows that. -/
def withRequired (f : FieldView) (required : Bool) : FieldView :=
  { f with required := required && f.kind.canBeRequired }

/-- The view of a field; options of its own replace those of its configuration. -/
def ofSchema (schema : FieldSchema) : FieldView :=
  let f := ofTag schema.inputType schema.config.resolved
  { f with options := schema.options.getD f.options }.withRequired schema.required

/-- The first option with a value, or with a value of the same text. -/
def option? (f : FieldView) (v : Json) : Option FieldOption :=
  f.options.find? fun o => o.value.same v || o.value.plainText == v.plainText

mutual

/-- The options chosen by a value: each item of an array on its own, and null for nothing. -/
def chosen? (f : FieldView) : Json → Except FieldFault Json
  | .null => .ok .null
  | .arr items => (chosenItems? f items).map .arr
  | v => match f.option? v with
    | some o => .ok o.value
    | none => .error (.notOption v.plainText)

def chosenItems? (f : FieldView) : List Json → Except FieldFault (List Json)
  | [] => .ok []
  | v :: rest => do
    let v ← chosen? f v
    let rest ← chosenItems? f rest
    pure (v :: rest)

end

/-- The language of a text that comes without one. -/
def defaultLanguage (f : FieldView) : String := (f.config.text? "defaultLang").getD "en"

/-- The value that is stored for an input. -/
def coerce (f : FieldView) (v : Json) : Except FieldFault Json :=
  match f.kind with
  | .text | .textArea => .ok (if v.isNull then .null else .str v.plainText)
  | .numeric => if v.isBlank then .ok .null else v.toFloat?.map Json.ofNumber
  | .toggle => v.toBool?.map .bool
  | .select | .tag => if f.options.isEmpty then .ok v else f.chosen? v
  | .multiLanguage =>
    match v with
    | .null => .ok .null
    | .obj members => .ok (.obj members)
    | .str s => match Json.parse s with
      | some (.obj members) => .ok (.obj members)
      | _ => .ok (.obj [(f.defaultLanguage, .str s)])
    | v => .error (.notObject v.text)
  | .maskedDate =>
    if v.isBlank then .ok .null
    else do
      let m ← v.toMoment? ((f.config.text? "format").bind maskLayout?)
      match f.config.text? "valueFormat" with
      | some mask => pure (.str (m.writeOrDate (maskLayout? mask)))
      | none => pure (.str m.date.text)
  | .objectPreview =>
    match v with
    | .null => .ok .null
    | .obj members => .ok (.obj members)
    | .arr items => .ok (.arr items)
    | .str s => match Json.parse s with
      | some (.obj members) => .ok (.obj members)
      | some (.arr items) => .ok (.arr items)
      | _ => .error (.notObject s)
    | v => .error (.notObject v.text)
  | .actionTrigger | .unknown _ => .ok v

section Coerce

variable {f : FieldView} (v : Json)

theorem coerce_text (hkind : f.kind = .text ∨ f.kind = .textArea) :
    f.coerce v = .ok (if v.isNull then .null else .str v.plainText) := by
  unfold coerce
  obtain hkind | hkind := hkind <;> rw [hkind]

theorem coerce_numeric (hkind : f.kind = .numeric) :
    f.coerce v = if v.isBlank then .ok .null else v.toFloat?.map Json.ofNumber := by
  unfold coerce
  rw [hkind]

theorem coerce_toggle (hkind : f.kind = .toggle) : f.coerce v = v.toBool?.map .bool := by
  unfold coerce
  rw [hkind]

theorem coerce_choice (hkind : f.kind = .select ∨ f.kind = .tag) :
    f.coerce v = if f.options.isEmpty then .ok v else f.chosen? v := by
  unfold coerce
  obtain hkind | hkind := hkind <;> rw [hkind]

theorem coerce_unchecked (hkind : f.kind = .actionTrigger ∨ ∃ tag, f.kind = .unknown tag) : f.coerce v = .ok v := by
  unfold coerce
  obtain hkind | ⟨tag, hkind⟩ := hkind <;> rw [hkind]

end Coerce

/-- A double as a length: at least zero, without its fraction. -/
def lengthOf (x : Float) : Nat := x.toUInt64.toNat

/-- What is wrong with a text: its length, and that a pattern does not occur in it. A text that is no
pattern is passed over. -/
def textIssues (f : FieldView) (text : String) : List FieldIssue :=
  (match f.config.float? "maxLength" with
    | some max => if lengthOf max < text.length then [.tooLong (lengthOf max)] else []
    | none => [])
  ++ match f.config.text? "pattern" with
    | some pattern => match Pattern.ofText? pattern with
      | some p => if p.occursIn text then [] else [.patternMismatch pattern]
      | none => []
    | none => []

/-- What is wrong with a number. -/
def numberIssues (f : FieldView) (x : Float) : List FieldIssue :=
  (match f.config.float? "min" with
    | some min => if x < min then [.belowMin min] else []
    | none => [])
  ++ match f.config.float? "max" with
    | some max => if max < x then [.aboveMax max] else []
    | none => []

/-- What is wrong with an input; a blank one is only ever missing. -/
def validate (f : FieldView) (v : Json) : List FieldIssue :=
  if v.isBlank then if f.required then [.required] else []
  else match f.coerce v with
    | .error e => [.fault e]
    | .ok stored =>
      match f.kind with
      | .numeric => match stored.toFloat? with
        | .ok x => f.numberIssues x
        | .error _ => []
      | .text | .textArea => f.textIssues stored.plainText
      | .multiLanguage =>
        ((stored.members?.getD []).filterMap fun m => m.2.text?).flatMap f.textIssues
      | _ => []

/-- The number of decimals to show, at most twelve. -/
def decimals? (f : FieldView) : Option Nat :=
  ((f.config.float? "precision").or (f.config.float? "decimals")).map fun x => min (lengthOf x) 12

/-- The label of a value, or its text. -/
def label (f : FieldView) (v : Json) : String :=
  match f.option? v with
  | some o => if o.label = "" then v.plainText else o.label
  | none => v.plainText

/-- The text of the default language, or the first that there is. -/
def ofLanguages (f : FieldView) (members : Keyed Json) : String :=
  let texts := members.mapValues Json.text?
  match ((texts.find? f.defaultLanguage).bind id).filter (· ≠ "") with
  | some s => s
  | none => (texts.findSome? fun m => m.2.filter (· ≠ "")).getD ""

/-- The values at the paths of the preview. -/
def preview (f : FieldView) (v : Json) : String :=
  match ((f.config.get? "previewinfo").map pathsOf).getD [] with
  | [] => v.plainText
  | paths => " / ".intercalate (((paths.filterMap v.path?).filter (!·.isNull)).map Json.plainText)

/-- How a value is shown. -/
def display (f : FieldView) (v : Json) : String :=
  match f.kind with
  | .text | .textArea | .unknown _ => v.plainText
  | .numeric => match v.toFloat?, f.decimals? with
    | .ok x, some places => String.ofList (fixedText places x)
    | _, _ => v.plainText
  | .toggle => match v.toBool? with
    | .ok true => (f.config.text? "trueLabel").getD "Yes"
    | .ok false => (f.config.text? "falseLabel").getD "No"
    | .error _ => v.plainText
  | .select | .tag => match v with
    | .arr items => ", ".intercalate (items.map f.label)
    | v => f.label v
  | .multiLanguage => match v with
    | .obj members => f.ofLanguages members
    | .str s => match Json.parse s with
      | some (.obj members) => f.ofLanguages members
      | _ => s
    | v => v.plainText
  | .maskedDate =>
    if v.isBlank then ""
    else match v.toMoment? none with
      | .ok m => match f.config.text? "format" with
        | some mask => m.writeOrDate (maskLayout? mask)
        | none => m.date.text
      | .error _ => v.plainText
  | .objectPreview => match v with
    | .str s => match Json.parse s with
      | some v => f.preview v
      | none => s
    | v => f.preview v
  | .actionTrigger =>
    ((f.config.text? "label").or (f.config.text? "text")).getD v.plainText

end FieldView

end BackOffice
