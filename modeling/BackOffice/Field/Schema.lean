import BackOffice.Config.Lazy
import BackOffice.Record
import BackOffice.Text.LowerCase

/-!
Fields and columns as a server describes them.
-/

namespace BackOffice

/-- A value that may be chosen, with its label. -/
structure FieldOption where
  value : Json
  label : String

/-- One field of a form. -/
structure FieldSchema where
  code : String
  inputType : String := ""
  label : String := ""
  required : Bool := false
  config : LazyConfig := default
  options : Option (List FieldOption) := none

/-- One column of a table. -/
structure ColumnSchema where
  code : String
  title : String := ""
  inputType : String := ""
  config : LazyConfig := default

namespace FieldOption

def fields : List Record.Names := [["value", "key", "code"], ["label", "name", "text"]]

def ofJson? (v : Json) : Option FieldOption := do
  let [value, label] ← Record.slots fields v | none
  some { value := ← value, label := ← Record.defaulted Json.text? "" label }

def toJson (o : FieldOption) : Json := .obj [("value", o.value), ("label", .str o.label)]

end FieldOption

/-- A flag in any of its spellings: a truth value, a number other than zero, or a word for yes; all else
is no. -/
def lenientBool : Json → Bool
  | .bool b => b
  | .num n => n.toFloat != 0
  | .str s => ["true", "1", "y", "yes"].contains (lowerCase (trim s))
  | _ => false

/-- A configuration with the given shape. -/
def lazyConfig? (shape : ConfigShape) (v : Json) : Option LazyConfig :=
  some ((LazyConfig.ofJson v).withShape shape)

namespace FieldSchema

def fields : List Record.Names :=
  [["code"], ["inputtype"], ["label"], ["required"], ["config"], ["options"]]

def ofJson? (v : Json) : Option FieldSchema := do
  let [code, inputType, label, required, config, options] ← Record.slots fields v | none
  some {
    code := ← Record.required Json.text? code
    inputType := ← Record.defaulted Json.text? "" inputType
    label := ← Record.defaulted Json.text? "" label
    required := (required.map lenientBool).getD false
    config := ← Record.defaulted (lazyConfig? .object) default config
    options := ← Record.optional (Record.list? FieldOption.ofJson?) options }

def toJson (f : FieldSchema) : Json :=
  .obj ([("code", .str f.code), ("inputtype", .str f.inputType), ("label", .str f.label),
      ("required", .bool f.required), ("config", f.config.toJson)]
    ++ match f.options with
      | some options => [("options", .arr (options.map FieldOption.toJson))]
      | none => [])

end FieldSchema

namespace ColumnSchema

def fields : List Record.Names := [["code"], ["title", "name", "label"], ["inputtype"], ["config"]]

def ofJson? (v : Json) : Option ColumnSchema := do
  let [code, title, inputType, config] ← Record.slots fields v | none
  some {
    code := ← Record.required Json.text? code
    title := ← Record.defaulted Json.text? "" title
    inputType := ← Record.defaulted Json.text? "" inputType
    config := ← Record.defaulted (lazyConfig? .object) default config }

def toJson (c : ColumnSchema) : Json :=
  .obj [("code", .str c.code), ("title", .str c.title), ("inputtype", .str c.inputType),
    ("config", c.config.toJson)]

end ColumnSchema

end BackOffice
