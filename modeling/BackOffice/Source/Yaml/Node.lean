import BackOffice.Source.Yaml.Scalar
import BackOffice.Source.Yaml.Tag
import BackOffice.Text.LowerCase

/-!
The nodes of a YAML document. Aliases are filled in; a mapping holds its own entries, and apart from them
those that it merges from others.
-/

namespace BackOffice

open Yaml in
/-- A node of a YAML document. -/
inductive Yaml where
  | scalar (text : String) (style : ScalarStyle) (tag : Tag)
  | seq (items : List Yaml)
  /-- A mapping, with the entries from others and whether all of these are mappings. -/
  | map (own merged : List (Yaml × Yaml)) (mergeable : Bool)
deriving Inhabited

namespace Yaml

/-- A node that is not there. -/
def nothing : Yaml := .scalar "~" .plain .absent

/-- Whether a plain scalar stands for null. -/
def isNullText (text : String) : Bool := ["", "~", "null"].contains (lowerAscii text)

/-- Whether a scalar stands for null by its looks. -/
def looksNull (text : String) (style : ScalarStyle) : Bool := style == .plain && isNullText text

mutual

/-- Whether two nodes are the same key. The style does not matter. -/
def same : Yaml → Yaml → Bool
  | scalar text _ tag, scalar text' _ tag' => text == text' && tag.same tag'
  | seq items, seq items' => sameItems items items'
  | map own merged _, map own' merged' _ => sameEntries own own' && sameEntries merged merged'
  | _, _ => false

def sameItems : List Yaml → List Yaml → Bool
  | [], [] => true
  | y :: rest, y' :: rest' => y.same y' && sameItems rest rest'
  | _, _ => false

def sameEntries : List (Yaml × Yaml) → List (Yaml × Yaml) → Bool
  | [], [] => true
  | (key, y) :: rest, (key', y') :: rest' => key.same key' && y.same y' && sameEntries rest rest'
  | _, _ => false

end

mutual

/-- The entries that merging a node brings in. Where several give the same key, the first counts. -/
def mergedEntries? : Yaml → Option (List (Yaml × Yaml))
  | scalar text style _ => if looksNull text style then some [] else none
  | map own merged mergeable => if mergeable then some (own ++ merged) else none
  | seq items => mergedItems? items

/-- The same for several nodes; what a later one brings in counts before. -/
def mergedItems? : List Yaml → Option (List (Yaml × Yaml))
  | [] => some []
  | y :: rest => do
    let later ← mergedItems? rest
    let now ← y.mergedEntries?
    some (later ++ now)

end

/-- Whether a key asks for a merge. -/
def isMergeKey : Yaml → Bool
  | scalar text .plain _ => text == "<<"
  | _ => false

/-- The mapping of entries as written. -/
def ofEntries (entries : List (Yaml × Yaml)) : Yaml :=
  let own := entries.filter (!·.1.isMergeKey)
  match mergedItems? ((entries.filter (·.1.isMergeKey)).map Prod.snd) with
  | some merged => .map own merged true
  | none => .map own [] false

end Yaml

end BackOffice
