import BackOffice.Decimal.Reading
import BackOffice.Source.Form
import BackOffice.Source.Yaml.Node
import BackOffice.Text.Base64
import BackOffice.Text.Blank
import BackOffice.Text.Hex

/-!
What the nodes of a YAML document are worth as JSON values. A plain scalar may be null, a truth value or a
number by its looks; where the reader knows that a text or a number is wanted, it is taken as one. A tag
that says otherwise is a mistake.
-/

namespace BackOffice.Yaml

/-- A truth value by its looks. -/
def flag? (text : String) : Option Bool :=
  let word := lowerAscii (trim text)
  if ["true", "yes", "y", "on"].contains word then some true
  else if ["false", "no", "n", "off"].contains word then some false
  else none

/-- Digits of a base with a mark in front; decimal ones have none. Underscores count for nothing. -/
def magnitude? (cs : List Char) : Option Nat :=
  let (base, ds) := match cs with
    | '0' :: 'x' :: ds | '0' :: 'X' :: ds => (16, ds)
    | '0' :: 'o' :: ds | '0' :: 'O' :: ds => (8, ds)
    | '0' :: 'b' :: ds | '0' :: 'B' :: ds => (2, ds)
    | ds => (10, ds)
  let ds := ds.filter (· ≠ '_')
  if ds.isEmpty then none
  else (ds.mapM fun c => (hexDigit? c).filter (· < base)).map fun ds =>
    ds.foldl (fun n d => base * n + d) 0

/-- A whole number in the range of the 64-bit words. -/
def whole? (text : String) : Option Int :=
  let (minus, cs) := Numeral.sign (trim text).toList
  (magnitude? cs).bind fun n =>
    if minus then if n ≤ Nat.pow 2 63 then some (-(n : Int)) else none
    else if n < Nat.pow 2 64 then some (n : Int) else none

/-- A number below 2^64, which has no minus. -/
def word? (text : String) : Option Int :=
  if (trim text).startsWith "-" then none else whole? text

/-- The texts of the floats that JSON has no numbers for. -/
def specialText (x : Float) : String :=
  if x.isNaN then ".nan" else if x < 0 then "-.inf" else ".inf"

/-- A float; one that JSON has no number for is a text. -/
def float? (text : String) : Option Json :=
  let text := trim text
  let word := lowerAscii text
  if [".nan", "+.nan", "-.nan"].contains word then some (.str ".nan")
  else if [".inf", "+.inf"].contains word then some (.str ".inf")
  else if word == "-.inf" then some (.str "-.inf")
  else (Numeral.float? text).map fun x => if x.isFinite then Json.ofFloat x else .str (specialText x)

/-- The value of a plain scalar by its looks. -/
def plainJson (text : String) : Json :=
  match flag? text with
  | some b => .bool b
  | none => match whole? text with
    | some n => .whole n
    | none => (float? text).getD (.str text)

/-- The text of a scalar. One that looks like null is no text, unless its tag says so. -/
def scalarText? (text : String) (style : ScalarStyle) (tag : Tag) : Option String :=
  if tag == .binary then Base64.text? text
  else if (tag != .text && looksNull text style) || !tag.admitsText then none
  else some text

/-- The text of a key. -/
def keyText? : Yaml → Option String
  | scalar text style tag => scalarText? text style tag
  | _ => none

/-- Whether a scalar stands for null. -/
def isNull (text : String) (style : ScalarStyle) (tag : Tag) : Bool := tag == .null || looksNull text style

/-- The value of a scalar, as far as possible in the form that is wanted. Where a value may be missing, an
empty block stands for null too. -/
def scalarJson? (text : String) (style : ScalarStyle) (tag : Tag) : Form → Option Json
  | .any | .ignored =>
    if isNull text style tag then some .null
    else if style == .plain && tag.admitsText then some (plainJson text)
    else (scalarText? text style tag).map .str
  | .text => (scalarText? text style tag).map .str
  | .word => (word? text).map .whole
  | .flag => (flag? text).map .bool
  | .choice type => if (tag.typeName?.getD type) == type then some (.str text) else none
  | .maybe form =>
    if isNull text style tag || (text.isEmpty && style != .quoted) then some .null
    else scalarJson? text style tag form
  | .list _ => if isNull text style tag then some (.arr []) else none
  | .keyed _ | .record _ => if isNull text style tag then some (.obj []) else none

mutual

/-- The value of a node, as far as possible in the form that is wanted. -/
def toJson? : Yaml → Form → Option Json
  | scalar text style tag, form => scalarJson? text style tag form
  | seq items, form => do
    let form ← form.item?
    return .arr (← itemsToJson? items form)
  | map own merged mergeable, form =>
    if mergeable then do
      let entries ← entriesToJson? own [] form
      return .obj (entries ++ (← mergedToJson? merged (own.map Prod.fst) form))
    else none

def itemsToJson? : List Yaml → Form → Option (List Json)
  | [], _ => some []
  | y :: rest, form => do
    let v ← y.toJson? form
    return v :: (← itemsToJson? rest form)

/-- One member. A key has to be a text, if anybody asks for it. -/
def memberToJson? : Yaml × Yaml → Form → Option (String × Json)
  | (key, y), form =>
    match form with
    | .ignored => do
      let _ ← key.toJson? .ignored
      return ("", ← y.toJson? .ignored)
    | form => do
      let name ← key.keyText?
      return (name, ← y.toJson? (← form.member? name))

/-- The entries of a mapping itself, none of which may have the key of one before. -/
def entriesToJson? : List (Yaml × Yaml) → (before : List Yaml) → Form → Option (List (String × Json))
  | [], _, _ => some []
  | entry :: rest, before, form =>
    if before.any entry.1.same then none
    else do
      let member ← memberToJson? entry form
      return member :: (← entriesToJson? rest (entry.1 :: before) form)

/-- The merged entries; of those with the same key only the first counts. -/
def mergedToJson? : List (Yaml × Yaml) → (before : List Yaml) → Form → Option (List (String × Json))
  | [], _, _ => some []
  | entry :: rest, before, form =>
    if before.any entry.1.same then mergedToJson? rest before form
    else do
      let member ← memberToJson? entry form
      return member :: (← mergedToJson? rest (entry.1 :: before) form)

end

end BackOffice.Yaml
