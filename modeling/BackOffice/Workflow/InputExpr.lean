import BackOffice.Json.Value
import BackOffice.Text.Blank
import BackOffice.Text.LowerCase

/-!
What a step puts into a field of its request: a value as it is, a value read out of the context, or a
value made when the request is bound. Script text is recognised, so that it is never sent as a value,
and never run.
-/

namespace BackOffice

/-- A letter, digit, underscore or dollar sign of ASCII. -/
def isIdentifierChar (c : Char) : Bool := c.isAlphanum || c == '_' || c == '$'

/-- The characters after a word that stands in front. -/
def stripFront? (word cs : List Char) : Option (List Char) :=
  if word.isPrefixOf cs then some (cs.drop word.length) else none

/-- The characters before the first `=>`. -/
def beforeArrow? : List Char → Option (List Char)
  | '=' :: '>' :: _ => some []
  | c :: rest => (beforeArrow? rest).map (c :: ·)
  | [] => none

/-- The parameters of an arrow function: a list in parentheses, or one identifier. -/
def isParameters (head : List Char) : Bool :=
  (head.head? == some '(' && head.getLast? == some ')')
    || (!head.isEmpty && head.all isIdentifierChar && !(head.head?.any Char.isDigit))

/-- Whether a text is a script: `function` and white space or a parenthesis, or an arrow function,
which may be `async`. -/
def looksLikeScript (text : String) : Bool :=
  let cs := trimBack (trimFront text.toList)
  match stripFront? "function".toList cs with
  | some rest => rest.head?.any fun c => isBlank c || c == '('
  | none => match beforeArrow? cs with
    | none => false
    | some head =>
      let head := trimBack (trimFront head)
      let head := match stripFront? "async".toList head with
        | some rest => trimBack (trimFront rest)
        | none => head
      isParameters head

/-- A value made when a request is bound. -/
inductive Transform where
  /-- A fresh identifier. -/
  | uuid
  /-- The time, to the millisecond. -/
  | now
  /-- The time as a number of milliseconds. -/
  | timestamp
  /-- The date. -/
  | today
  /-- A value of the context. -/
  | fromContext (key : String) (default : Option Json)
  /-- A name that stands for nothing. -/
  | unknown (name : String)

/-- What a field of a request is made from. -/
inductive InputExpr where
  | literal (v : Json)
  | contextRef (key : String) (default : Option Json)
  | transform (t : Transform)
  | script (text : String)

namespace Transform

/-- The member that marks a transform. -/
def marker : String := "$fn"

/-- The transform of a name, with the members that stand beside the name. -/
def ofName (name : String) (members : Keyed Json) : Transform :=
  if name = "uuid" then uuid
  else if name = "now" then now
  else if name = "timestamp" then timestamp
  else if name = "today" then today
  else if name = "fromContext" ∨ name = "from_context" then
    match (members.find? "key").bind Json.text? with
    | some key => fromContext key (members.find? "default")
    | none => unknown name
  else unknown name

def name : Transform → String
  | uuid => "uuid"
  | now => "now"
  | timestamp => "timestamp"
  | today => "today"
  | fromContext .. => "fromContext"
  | unknown name => name

end Transform

/-- A default as a member, if there is one. -/
def defaultMember : Option Json → Keyed Json
  | some v => [("default", v)]
  | none => []

def sameDefault : Option Json → Option Json → Bool
  | some a, some b => a.same b
  | none, none => true
  | _, _ => false

def Transform.same : Transform → Transform → Bool
  | uuid, uuid | now, now | timestamp, timestamp | today, today => true
  | fromContext a d, fromContext b e => a == b && sameDefault d e
  | unknown a, unknown b => a == b
  | _, _ => false

namespace InputExpr

/-- Reads an expression. An object is a transform if it has the marker, and a reference if it has a key
and at most a default beside it; everything else is a literal, script text apart. -/
def ofJson : Json → InputExpr
  | .str s => if looksLikeScript s then script s else literal (.str s)
  | .obj members =>
    match (Keyed.find? members Transform.marker).bind Json.text? with
    | some name => transform (.ofName name members)
    | none => match (Keyed.find? members "key").bind Json.text? with
      | some key =>
        if (Keyed.keys members).all fun k => k = "key" ∨ k = "default" then
          contextRef key (Keyed.find? members "default")
        else literal (.obj members)
      | none => literal (.obj members)
  | v => literal v

/-- The written form of an expression. A literal is written as it is. -/
def toJson : InputExpr → Json
  | literal v => v
  | contextRef key default => .obj (("key", .str key) :: defaultMember default)
  | transform (.fromContext key default) =>
    .obj ((Transform.marker, .str "fromContext") :: ("key", .str key) :: defaultMember default)
  | transform t => .obj [(Transform.marker, .str t.name)]
  | script s => .str s

/-- The key of the context that an expression reads. -/
def contextKey? : InputExpr → Option String
  | contextRef key _ => some key
  | transform (.fromContext key _) => some key
  | _ => none

/-- Equality of expressions, values compared as JSON values. -/
def same : InputExpr → InputExpr → Bool
  | literal a, literal b => a.same b
  | contextRef a d, contextRef b e => a == b && sameDefault d e
  | transform a, transform b => a.same b
  | script a, script b => a == b
  | _, _ => false

end InputExpr

end BackOffice
