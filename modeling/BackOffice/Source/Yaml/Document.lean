import BackOffice.Source.Yaml.Lexer
import BackOffice.Source.Yaml.Node

/-!
The document of a YAML text. An alias stands for the node that has been anchored last under its name, as
long as that node is complete. There may be only one document; a mistake after its end does not matter.
-/

namespace BackOffice.Yaml

/-- How far a text has been read. -/
structure Reading where
  /-- The tokens that are left. -/
  tokens : List Token
  /-- The handles of tags. -/
  handles : Keyed String := []
  /-- The numbers of the nodes that were anchored last under each name. -/
  names : Keyed Nat := []
  /-- The anchored nodes with their sizes; those that are not complete are missing. -/
  anchored : Array (Option (Yaml × Nat)) := #[]
  /-- The number of scalars, starts and ends so far, with aliases filled in. -/
  size : Nat := 0
  /-- The number of aliases so far. -/
  aliases : Nat := 0
  /-- The size of what the aliases stood for. -/
  filled : Nat := 0

/-- How deep collections may lie inside of each other. -/
def maxDepth : Nat := 2000

/-- How much aliases may stand for in all. -/
def maxFilled : Nat := 1000000

/-- How many aliases there may be for an anchor, from a hundred on. -/
def maxAliases : Nat := 10

namespace Reading

def peek? (r : Reading) : Option Token := r.tokens.head?

/-- Behind the next token. -/
def next (r : Reading) : Reading := { r with tokens := r.tokens.drop 1 }

/-- What stands before a node: an anchor, and a tag. -/
structure Properties where
  anchor : Option Nat := none
  tag : Option Tag := none

/-- An anchor here. -/
def anchor? (r : Reading) : Option (Nat × Reading) :=
  match r.tokens with
  | .anchor name :: tokens =>
    let n := r.anchored.size
    some (n, { r with tokens, names := r.names.put name n, anchored := r.anchored.push none })
  | _ => none

/-- A tag here. -/
def tag? (r : Reading) : Option (Option Tag × Reading) :=
  match r.tokens with
  | .tag name :: tokens => (Tag.resolve? r.handles name).map fun t => (some t, { r with tokens })
  | _ => some (none, r)

/-- The properties of a node: an anchor and a tag in either order. -/
def properties? (r : Reading) : Option (Properties × Reading) :=
  match r.anchor? with
  | some (n, r) => r.tag?.map fun (tag, r) => (⟨some n, tag⟩, r)
  | none => do
    let (tag, r) ← r.tag?
    match if tag.isSome then r.anchor? else none with
    | some (n, r) => some (⟨some n, tag⟩, r)
    | none => some (⟨none, tag⟩, r)

/-- Keeps a complete node under its anchor. -/
def keep (r : Reading) (anchor : Option Nat) (y : Yaml) (size : Nat) : Reading :=
  match anchor with
  | some n => { r with anchored := r.anchored.setIfInBounds n (some (y, size)) }
  | none => r

/-- A scalar. An empty text in quotes that is anchored is none. -/
def scalar (r : Reading) (props : Properties) (text : String) (style : ScalarStyle) : Yaml × Reading :=
  let style := if props.anchor.isSome && text.isEmpty && style == .quoted then .plain else style
  let y := Yaml.scalar text style (props.tag.getD .absent)
  (y, { r with size := r.size + 1 }.keep props.anchor y 1)

/-- A node that is not there, and that has no properties. -/
def absent (r : Reading) : Yaml × Reading := (nothing, { r with size := r.size + 1 })

/-- The node that an alias stands for. -/
def alias? (r : Reading) (name : String) : Option (Yaml × Reading) := do
  let n ← r.names.find? name
  let (y, size) ← (← r.anchored[n]?)
  let r := { r with size := r.size + size, aliases := r.aliases + 1, filled := r.filled + size }
  if maxFilled < r.filled then none else some (y, r.next)

end Reading

open Reading

mutual

/-- A node. A collection by indentation may only start where `block` holds, and a sequence that is not
indented only where `dashes` holds too. -/
def node? : (fuel depth : Nat) → (block dashes : Bool) → Reading → Option (Yaml × Reading)
  | 0, _, _, _, _ => none
  | fuel + 1, depth, block, dashes, r => do
    match ← r.peek? with
    | .alias name => r.alias? name
    | _ =>
      let start := r.size
      let (props, r) ← r.properties?
      let inner := { r.next with size := r.size + 1 }
      let collection ← match ← r.peek? with
        | .dash => if dashes then (dashes? fuel depth [] { inner with tokens := r.tokens }).map some else none
        | .flowSeq => (flowItems? fuel depth true [] inner).map some
        | .flowMap => (flowEntries? fuel depth true [] inner).map some
        | .blockSeq => if block then (blockItems? fuel depth [] inner).map some else none
        | .blockMap => if block then (blockEntries? fuel depth [] inner).map some else none
        | _ => some none
      match collection with
      | some (y, r) =>
        if maxDepth ≤ depth then none
        else
          let r := { r with size := r.size + 1 }
          some (y, r.keep props.anchor y (r.size - start))
      | none =>
        match ← r.peek? with
        | .scalar text style => some (r.next.scalar props text style)
        | _ => if props.anchor.isSome || props.tag.isSome then some (r.scalar props "" .plain) else none

/-- The items of a sequence in a block. -/
def blockItems? : (fuel depth : Nat) → List Yaml → Reading → Option (Yaml × Reading)
  | 0, _, _, _ => none
  | fuel + 1, depth, items, r => do
    match ← r.peek? with
    | .blockEnd => some (.seq items.reverse, r.next)
    | .dash =>
      let r := r.next
      let (y, r) ← match ← r.peek? with
        | .dash | .blockEnd => some r.absent
        | _ => node? fuel (depth + 1) true false r
      blockItems? fuel depth (y :: items) r
    | _ => none

/-- The items of a sequence that is not indented deeper than its key. -/
def dashes? : (fuel depth : Nat) → List Yaml → Reading → Option (Yaml × Reading)
  | 0, _, _, _ => none
  | fuel + 1, depth, items, r => do
    match ← r.peek? with
    | .dash =>
      let r := r.next
      let (y, r) ← match ← r.peek? with
        | .dash | .key | .value | .blockEnd => some r.absent
        | _ => node? fuel (depth + 1) true false r
      dashes? fuel depth (y :: items) r
    | _ => some (.seq items.reverse, r)

/-- The entries of a mapping in a block. -/
def blockEntries? : (fuel depth : Nat) → List (Yaml × Yaml) → Reading → Option (Yaml × Reading)
  | 0, _, _, _ => none
  | fuel + 1, depth, entries, r => do
    let part? := fun (r : Reading) => do
      match ← r.peek? with
      | .key | .value | .blockEnd => some r.absent
      | _ => node? fuel (depth + 1) true true r
    let entry? := fun (key : Yaml) (r : Reading) => do
      let (y, r) ← match ← r.peek? with
        | .value => part? r.next
        | _ => some r.absent
      blockEntries? fuel depth ((key, y) :: entries) r
    match ← r.peek? with
    | .blockEnd => some (ofEntries entries.reverse, r.next)
    | .key => do
      let (key, r) ← part? r.next
      entry? key r
    | .value => entry? nothing { r with size := r.size + 1 }
    | _ => none

/-- The items of a sequence in brackets; an item may be a single pair. -/
def flowItems? : (fuel depth : Nat) → (first : Bool) → List Yaml → Reading → Option (Yaml × Reading)
  | 0, _, _, _, _ => none
  | fuel + 1, depth, first, items, r => do
    match ← r.peek? with
    | .flowSeqEnd => some (.seq items.reverse, r.next)
    | t =>
      if !first && t != .comma then none
      else
        let r := if first then r else r.next
        match ← r.peek? with
        | .flowSeqEnd => some (.seq items.reverse, r.next)
        | .key => do
          let (y, r) ← flowPair? fuel depth { r.next with size := r.size + 2 }
          flowItems? fuel depth false (y :: items) r
        | _ => do
          let (y, r) ← node? fuel (depth + 1) false false r
          flowItems? fuel depth false (y :: items) r

/-- A single pair. One without a key also passes over what follows. -/
def flowPair? : (fuel depth : Nat) → Reading → Option (Yaml × Reading)
  | 0, _, _ => none
  | fuel + 1, depth, r => do
    let (key, r) ← match ← r.peek? with
      | .value | .comma | .flowSeqEnd => some r.next.absent
      | _ => node? fuel (depth + 2) false false r
    let (y, r) ← match ← r.peek? with
      | .value => do
        let r := r.next
        match ← r.peek? with
        | .comma | .flowSeqEnd => some r.absent
        | _ => node? fuel (depth + 2) false false r
      | _ => some r.absent
    some (ofEntries [(key, y)], r)

/-- The entries of a mapping in braces; an entry may be a key alone. -/
def flowEntries? : (fuel depth : Nat) → (first : Bool) → List (Yaml × Yaml) → Reading →
    Option (Yaml × Reading)
  | 0, _, _, _, _ => none
  | fuel + 1, depth, first, entries, r => do
    let part? := fun (r : Reading) => do
      match ← r.peek? with
      | .value | .comma | .flowMapEnd => some r.absent
      | _ => node? fuel (depth + 1) false false r
    let value? := fun (r : Reading) => do
      match ← r.peek? with
      | .value => do
        let r := r.next
        match ← r.peek? with
        | .comma | .flowMapEnd => some r.absent
        | _ => node? fuel (depth + 1) false false r
      | _ => some r.absent
    match ← r.peek? with
    | .flowMapEnd => some (ofEntries entries.reverse, r.next)
    | t =>
      if !first && t != .comma then none
      else
        let r := if first then r else r.next
        match ← r.peek? with
        | .flowMapEnd => some (ofEntries entries.reverse, r.next)
        | .key => do
          let (key, r) ← part? r.next
          let (y, r) ← value? r
          flowEntries? fuel depth false ((key, y) :: entries) r
        | .value => do
          let (y, r) ← value? { r with size := r.size + 1 }
          flowEntries? fuel depth false ((nothing, y) :: entries) r
        | _ => do
          let (key, r) ← node? fuel (depth + 1) false false r
          flowEntries? fuel depth false ((key, nothing) :: entries) { r with size := r.size + 1 }

end

namespace Reading

/-- Behind the marks of documents' ends here. -/
def skipEnds (r : Reading) : Reading :=
  { r with tokens := r.tokens.dropWhile (· == .documentEnd) }

/-- Behind directives. The version may be told once, and a handle may be defined once. -/
def directives? : (version : Bool) → (handles : Keyed String) → List Token →
    Option (Keyed String × List Token)
  | version, handles, .version :: rest => if version then none else directives? true handles rest
  | version, handles, .handle name front :: rest =>
    if (handles.find? name).isSome then none
    else directives? version (handles.put name front) rest
  | version, handles, .reserved :: rest => directives? version handles rest
  | _, handles, tokens => some (handles, tokens)

/-- Whether a document starts with directives or a mark. -/
def isMarked (r : Reading) : Bool :=
  match r.peek? with
  | some .version | some (.handle ..) | some .reserved | some .documentStart => true
  | _ => false

/-- Behind the mark of a document's start, and the directives before it. -/
def marked? (r : Reading) : Option Reading :=
  match directives? false [] r.tokens with
  | some (handles, .documentStart :: tokens) => some { r with handles, tokens }
  | _ => none

/-- Whether a document behind its mark is empty. -/
def isEmpty (r : Reading) : Bool :=
  r.isMarked || r.peek? == some .documentEnd || r.peek? == some .textEnd

/-- Whether a part of a node is here. -/
def startsNode (r : Reading) : Bool :=
  match r.properties? with
  | none => false
  | some (props, r) => match r.peek? with
    | some (.scalar ..) | some .flowSeq | some .flowMap | some .blockSeq | some .blockMap => true
    | some _ => props.anchor.isSome || props.tag.isSome
    | none => false

/-- Whether a further document is here; the mark of the last one's end has been passed or not. -/
def startsDocument (ended : Bool) (r : Reading) : Bool :=
  let r := { r.skipEnds with handles := [], anchored := #[] }
  if r.isMarked then match r.marked? with
    | some r => r.isEmpty || r.startsNode
    | none => false
  else ended && r.startsNode

/-- The node of a document, behind its mark if there is one. -/
def root? (r : Reading) : Option (Yaml × Reading) :=
  let fuel := 4 * r.tokens.length + 4
  if r.isMarked then r.marked?.bind fun r => if r.isEmpty then some r.absent else node? fuel 0 true false r
  else node? fuel 0 true false r

/-- Whether there are too many aliases for the anchors. -/
def isRepetitive (r : Reading) : Bool :=
  decide (100 ≤ r.aliases) && decide (maxAliases * r.anchored.size < r.aliases)

end Reading

/-- The only document of a text; a text without one holds nothing. -/
def parse? (text : String) : Option Yaml := do
  let r : Reading := Reading.skipEnds { tokens := tokensOf text }
  if (← r.peek?) == .textEnd then some nothing
  else
    let (y, r) ← r.root?
    let ended := (← r.peek?) == .documentEnd
    if !ended && r.isMarked && r.peek? != some .documentStart then none
    else if r.isRepetitive || r.startsDocument ended then none
    else some y

end BackOffice.Yaml
