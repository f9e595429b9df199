import BackOffice.Text.Blank
import BackOffice.Text.LowerCase

/-!
The kinds of fields, by the tag that a server gives them.
-/

namespace BackOffice

/-- What a field or a column holds. -/
inductive FieldKind where
  | text
  | textArea
  | numeric
  | toggle
  | select
  /-- A badge whose value has a label among the options. -/
  | tag
  | multiLanguage
  | maskedDate
  | objectPreview
  | actionTrigger
  /-- A tag that is not known. Its values are shown as they are and never required. -/
  | unknown (tag : String)
deriving DecidableEq, Repr

namespace FieldKind

/-- The tags of each kind, in lower case, with minus signs for underscores. -/
def tags : List (FieldKind × List String) :=
  [(text, ["", "text", "input", "string", "label"]),
    (textArea, ["textarea", "text-area", "multiline", "richtext"]),
    (numeric, ["number", "numeric", "int", "integer", "decimal", "float", "amount"]),
    (toggle, ["switch", "toggle", "checkbox", "bool", "boolean"]),
    (select, ["select", "dropdown", "radio", "combobox", "enum"]),
    (tag, ["tag", "status", "badge"]),
    (multiLanguage, ["multilang", "multi-lang", "multi-language", "multilanguage", "i18n"]),
    (maskedDate, ["date", "datetime", "masked-date", "maskdate", "maskeddate", "time"]),
    (objectPreview, ["object", "preview", "object-preview", "objectpreview", "json"]),
    (actionTrigger, ["button", "action", "action-trigger", "link", "operation"])]

/-- The kind of a tag. White space around the tag, case, and the difference between an underscore and a
minus sign do not count. -/
def ofTag (tag : String) : FieldKind :=
  let chars := (trim tag).toList.map fun c => if c = '_' then '-' else c.toLower
  match tags.find? fun entry => entry.2.contains (String.ofList chars) with
  | some (kind, _) => kind
  | none => unknown tag

/-- The tag that stands for a kind. -/
def name : FieldKind → String
  | text => "text"
  | textArea => "textarea"
  | numeric => "numeric"
  | toggle => "toggle"
  | select => "select"
  | tag => "tag"
  | multiLanguage => "multi-language"
  | maskedDate => "masked-date"
  | objectPreview => "object-preview"
  | actionTrigger => "action-trigger"
  | unknown other => other

/-- Whether a value can be asked for. -/
def canBeRequired : FieldKind → Bool
  | unknown _ | actionTrigger => false
  | _ => true

def isUnknown : FieldKind → Bool
  | unknown _ => true
  | _ => false

end FieldKind

end BackOffice
