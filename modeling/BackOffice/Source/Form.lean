import BackOffice.Json.Value
import BackOffice.Record

/-!
What a text is to be read as. A form says where texts, numbers, flags, lists and records are wanted, for
readers whose texts do not tell all of them apart.
-/

namespace BackOffice

/-- The form of a value that is to be read. -/
inductive Form where
  /-- Whatever is there. -/
  | any
  /-- What nobody asks for. -/
  | ignored
  | text
  /-- A number below 2^64. -/
  | word
  | flag
  /-- One of the names that a type has. -/
  | choice (type : String)
  /-- A value or null. -/
  | maybe (value : Form)
  | list (item : Form)
  /-- Values under any names. -/
  | keyed (value : Form)
  /-- Fields by their names. -/
  | record (fields : List (Record.Names × Form))
deriving Inhabited

namespace Form

/-- The form of an item, if there may be items. -/
def item? : Form → Option Form
  | any => some any
  | ignored => some ignored
  | maybe form => form.item?
  | list form => some form
  | _ => none

/-- The form of the field that a name belongs to. -/
def field? (fields : List (Record.Names × Form)) (key : String) : Option Form :=
  (fields.find? fun f => f.1.contains key).map Prod.snd

/-- The form of what stands under a name, if anything may. A field that a record does not have is ignored. -/
def member? : Form → (key : String) → Option Form
  | any, _ | choice _, _ => some any
  | ignored, _ => some ignored
  | maybe form, key => form.member? key
  | keyed form, _ => some form
  | record fields, key => some ((field? fields key).getD ignored)
  | _, _ => none

mutual

/-- Whether a record gives a field of the form more than once, at any level that the form describes. -/
def repeats : Form → Json → Bool
  | record fields, .obj members =>
    Record.repeats (fields.map Prod.fst) (.obj members) || fieldsRepeat fields members
  | record fields, .arr items => itemsRepeat fields items
  | list item, .arr items => items.any (repeats item)
  | maybe form, v => repeats form v
  | _, _ => false

def fieldsRepeat : List (Record.Names × Form) → List (String × Json) → Bool
  | [], _ => false
  | (names, form) :: rest, members =>
    (members.any fun m => names.contains m.1 && repeats form m.2) || fieldsRepeat rest members

def itemsRepeat : List (Record.Names × Form) → List Json → Bool
  | (_, form) :: rest, v :: more => repeats form v || itemsRepeat rest more
  | _, _ => false

end

end Form

end BackOffice
