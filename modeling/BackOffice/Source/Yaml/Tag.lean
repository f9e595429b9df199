import BackOffice.Json.Value
import BackOffice.Source.Yaml.Cursor
import BackOffice.Text.Hex

/-!
The tags of YAML nodes. A tag is written with a handle, which a directive may define, and says what kind
of value a node has.
-/

namespace BackOffice.Yaml

/-- A tag as written: a handle, which is empty for a whole tag, and what follows it. -/
structure TagName where
  handle : String
  suffix : String
deriving DecidableEq, Repr, Inhabited

/-- What a tag says about a scalar. -/
inductive Tag where
  /-- There is no tag. -/
  | absent
  /-- The exclamation mark alone. -/
  | plain
  | null
  | text
  /-- A text in base 64. -/
  | binary
  /-- A kind of values that are no texts. -/
  | typed
  /-- A tag of someone's own. -/
  | named (name : String)
deriving DecidableEq, Repr, Inhabited

namespace Tag

/-- What the tags of the standard's own types begin with. -/
def standard : String := "tag:yaml.org,2002:"

/-- The meaning of a tag that is written out. -/
def ofName (name : String) : Tag :=
  let front := [standard, "!!", "!"].find? fun front => name.startsWith front
  let kind := front.map fun front => (name.drop front.length).toString
  match kind with
  | some "" => if name == "!" then plain else named name
  | some "null" => null
  | some "str" => text
  | some "binary" => binary
  | some kind =>
    if ["int", "float", "bool", "seq", "map", "timestamp"].contains kind then typed else named name
  | none => named name

/-- The meaning of a tag, with the handles that directives define. A handle between exclamation marks has
to be defined. -/
def resolve? (handles : Keyed String) (t : TagName) : Option Tag :=
  match handles.find? t.handle with
  | some front => some (ofName (front ++ t.suffix))
  | none =>
    if t.handle == "!!" then some (ofName (standard ++ t.suffix))
    else if 2 ≤ t.handle.length then none
    else some (ofName (t.handle ++ t.suffix))

/-- Whether a scalar with the tag may be a text. -/
def admitsText : Tag → Bool
  | null | binary | typed => false
  | _ => true

/-- Whether two tags count as the same for the keys of a mapping. -/
def same : Tag → Tag → Bool
  | named _, named _ => true
  | a, b => a == b

/-- The name of a type in a tag of someone's own, if it names one. -/
def typeName? : Tag → Option String
  | named name =>
    let name := if name.startsWith standard then (name.drop standard.length).toString else name
    let cs := name.toList.dropWhile (· == '!')
    if cs.isEmpty || cs.contains ':' || cs.contains '!' then none else some (String.ofList cs)
  | _ => none

end Tag

/-- The characters of addresses. -/
def isAddressChar (c : Char) : Bool := c.isAlphanum || "-#;/?:@&=+$,_.!~*'()[]%".contains c

/-- The characters of a tag behind its handle. -/
def isTagChar (c : Char) : Bool := isAddressChar c && !isFlowMark c && c != '!'

/-- The number that two hexadecimal digits behind a percent sign stand for. -/
def percentByte? : List Char → Option (Nat × List Char)
  | '%' :: a :: b :: rest => (hexNumber? [a, b]).map (·, rest)
  | _ => none

/-- Further bytes of a character, put behind each other. -/
def percentMore? : (count code : Nat) → List Char → Option (Nat × List Char)
  | 0, code, cs => some (code, cs)
  | count + 1, code, cs => do
    let (byte, rest) ← percentByte? cs
    if byte / 64 = 2 then percentMore? count (256 * code + byte) rest else none

/-- A character written by percent signs. The bytes of one that takes several are not decoded, but make up
its number. -/
def percentChar? (cs : List Char) : Option (Char × List Char) := do
  let (byte, rest) ← percentByte? cs
  let more ←
    if byte < 128 then some 0
    else if byte / 32 = 6 then some 1
    else if byte / 16 = 14 then some 2
    else if byte / 8 = 30 then some 3
    else none
  let (code, rest) ← percentMore? more byte rest
  if h : code.isValidChar then some (Char.ofNatAux code h, rest) else none

/-- The characters of a tag here, with those that percent signs stand for. -/
def tagText? (isOne : Char → Bool) : (fuel : Nat) → List Char → Cursor → Option (List Char × Cursor)
  | 0, _, _ => none
  | fuel + 1, text, p =>
    if p.atEnd || !isOne p.peek then some (text.reverse, p)
    else if p.peek == '%' then do
      let (c, rest) ← percentChar? p.rest
      tagText? isOne fuel (c :: text) (p.past (p.rest.length - rest.length))
    else tagText? isOne fuel (p.peek :: text) (p.past 1)

/-- A handle here: exclamation marks, and a name between them. The last mark may be missing. -/
def tagHandle? (p : Cursor) : Option (List Char × Cursor) :=
  if p.peek != '!' then none
  else
    let (name, p) := (p.past 1).takeWhile isNameChar
    if p.peek == '!' then some ('!' :: name ++ ['!'], p.past 1) else some ('!' :: name, p)

/-- A tag here. -/
def tag? (p : Cursor) : Option (TagName × Cursor) := do
  let fuel := p.rest.length + 1
  if p.peekAt 1 == '<' then
    let (text, p) ← tagText? isAddressChar fuel [] (p.past 2)
    if p.peek == '>' then some (⟨"", String.ofList text⟩, p.past 1) else none
  else
    let (handle, p) ← tagHandle? p
    let (text, p) ← tagText? isTagChar fuel [] p
    if 2 ≤ handle.length ∧ handle.getLast? = some '!' then
      if text.isEmpty then none else some (⟨String.ofList handle, String.ofList text⟩, p)
    else
      let suffix := handle.drop 1 ++ text
      if suffix.isEmpty then some (⟨"", "!"⟩, p) else some (⟨"!", String.ofList suffix⟩, p)

end BackOffice.Yaml
