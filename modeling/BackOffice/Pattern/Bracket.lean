import BackOffice.Pattern.Escape

/-!
Bracket classes of patterns: items side by side, ranges, named classes, classes within classes, and the
operations on sets. Where case is ignored, it is so for every set before it is turned around or joined.
-/

namespace BackOffice.PatternReader

/-- How many constructs may stand within one another. -/
def maxDepth : Nat := 250

/-- The ASCII classes that have names. -/
def namedClass? : String → Option CharSet
  | "alnum" => some ⟨[(0x30, 0x39), (0x41, 0x5A), (0x61, 0x7A)]⟩
  | "alpha" => some ⟨[(0x41, 0x5A), (0x61, 0x7A)]⟩
  | "ascii" => some (.range 0 0x7F)
  | "blank" => some ⟨[(0x09, 0x09), (0x20, 0x20)]⟩
  | "cntrl" => some ⟨[(0, 0x1F), (0x7F, 0x7F)]⟩
  | "digit" => some (.range 0x30 0x39)
  | "graph" => some (.range 0x21 0x7E)
  | "lower" => some (.range 0x61 0x7A)
  | "print" => some (.range 0x20 0x7E)
  | "punct" => some ⟨[(0x21, 0x2F), (0x3A, 0x40), (0x5B, 0x60), (0x7B, 0x7E)]⟩
  | "space" => some asciiBlank
  | "upper" => some (.range 0x41 0x5A)
  | "word" => some asciiWord
  | "xdigit" => some ⟨[(0x30, 0x39), (0x41, 0x46), (0x61, 0x66)]⟩
  | _ => none

/-- A named class as in `[:alpha:]`, its bracket already read: whether it is turned around, and its
set. -/
def asciiClass? : List Char → Option (Bool × CharSet × List Char)
  | ':' :: rest =>
    let (negated, rest) := match rest with
      | '^' :: rest => (true, rest)
      | rest => (false, rest)
    let name := rest.takeWhile (· ≠ ':')
    match rest.drop name.length with
    | ':' :: ']' :: after => (namedClass? (String.ofList name)).map (negated, ·, after)
    | _ => none
  | _ => none

/-- How two sets of a bracket class are joined. -/
inductive SetOp where
  | and | minus | either

def SetOp.apply : SetOp → CharSet → CharSet → CharSet
  | and => .inter
  | minus => .diff
  | either => .either

/-- Items side by side: their set, their number, and how deep the deepest of them is. -/
structure ClassItems where
  set : CharSet := .empty
  count : Nat := 0
  inner : Nat := 0

namespace ClassItems

def push (items : ClassItems) (s : CharSet) (depth : Nat) : ClassItems :=
  ⟨items.set.union s, items.count + 1, max items.inner depth⟩

/-- Several items are one construct more. -/
def depth (items : ClassItems) : Nat := if items.count ≤ 1 then items.inner else items.inner + 1

end ClassItems

/-- A set with its depth and the operation that waits behind it. -/
structure Pending where
  set : CharSet
  depth : Nat
  op : SetOp

/-- The items, joined to what waits for them: a set and its depth. -/
def joinPending (flags : PatternFlags) (pending : Option Pending) (items : ClassItems) :
    CharSet × Nat :=
  match pending with
  | some p => (p.op.apply (foldSet flags p.set) (foldSet flags items.set), max p.depth items.depth + 1)
  | none => (items.set, items.depth)

/-- The items in front of an operation wait for those behind it. -/
def suspend (flags : PatternFlags) (pending : Option Pending) (items : ClassItems) (op : SetOp) :
    Option Pending :=
  let (s, depth) := joinPending flags pending items
  some ⟨s, depth, op⟩

/-- Minus signs at the front of a bracket class stand for themselves. -/
def leadingMinus (flags : PatternFlags) (items : ClassItems) :
    (fuel : Nat) → List Char → ClassItems × List Char
  | 0, cs => (items, cs)
  | fuel + 1, cs =>
    match cs with
    | '-' :: rest => leadingMinus flags (items.push (.one '-') 0) fuel (gap flags rest)
    | cs => (items, cs)

/-- The beginning of a bracket class, its bracket already read: whether it is turned around, and the
characters that stand for themselves only there. -/
def classStart (flags : PatternFlags) (cs : List Char) : Bool × ClassItems × List Char :=
  let (negated, cs) := match gap flags cs with
    | '^' :: rest => (true, gap flags rest)
    | cs => (false, cs)
  match cs with
  | ']' :: rest => (negated, ClassItems.push {} (.one ']') 0, rest)
  | cs => (negated, leadingMinus flags {} cs.length cs)

/-- One item: a character or a set. Characters beyond ASCII are none of an ASCII class. -/
def classItem? (flags : PatternFlags) (cs : List Char) : Option (Escaped × List Char) := do
  let (item, rest) ← match cs with
    | '\\' :: rest => escape? flags rest
    | c :: rest => some (.char c, rest)
    | [] => none
  match item with
  | .char c => if !flags.allScripts ∧ 0x80 ≤ c.toNat then none else some (item, rest)
  | .set _ => some (item, rest)
  | .edge _ => none

/-- The character that comes next. In spaced patterns white space is passed over, and the sign of a
comment. -/
def peek (flags : PatternFlags) (cs : List Char) : Option Char :=
  if !flags.spaced then cs.head?
  else match cs.dropWhile isBlank with
    | '#' :: rest => (rest.dropWhile isBlank).head?
    | cs => cs.head?

/-- A character, a class, or a range of characters. A minus sign before the end of the class or before
another one makes no range. -/
def classRange? (flags : PatternFlags) (cs : List Char) : Option (CharSet × List Char) := do
  let (first, rest) ← classItem? flags cs
  let lone : Option CharSet := match first with
    | .char c => some (.one c)
    | .set s => some s
    | .edge _ => none
  match gap flags rest with
  | '-' :: after =>
    if peek flags after = some ']' ∨ peek flags after = some '-' then lone.map (·, '-' :: after)
    else do
      let (last, rest) ← classItem? flags (gap flags after)
      match first, last with
      | .char a, .char b => if a.toNat ≤ b.toNat then some (.range a.toNat b.toNat, rest) else none
      | _, _ => none
  | rest => lone.map (·, rest)

/-- The items of a bracket class up to its closing bracket: the set and its depth. `level` counts the
brackets around. -/
def classItems? (flags : PatternFlags) (level : Nat) :
    (fuel : Nat) → Option Pending → ClassItems → List Char → Option (CharSet × Nat × List Char)
  | 0, _, _, _ => none
  | fuel + 1, pending, items, cs =>
    if maxDepth < level then none
    else match gap flags cs with
    | [] => none
    | ']' :: rest =>
      let (s, depth) := joinPending flags pending items
      some (s, depth, rest)
    | '[' :: rest =>
      match asciiClass? rest with
      | some (negated, s, rest) => do
        let s ← negate? flags negated (foldSet flags s)
        classItems? flags level fuel pending (items.push s 0) rest
      | none => do
        let (negated, front, inner) := classStart flags rest
        let (s, depth, rest) ← classItems? flags (level + 1) fuel none front inner
        let s ← negate? flags negated (foldSet flags s)
        classItems? flags level fuel pending (items.push s (depth + 1)) rest
    | '&' :: '&' :: rest => classItems? flags level fuel (suspend flags pending items .and) {} rest
    | '-' :: '-' :: rest => classItems? flags level fuel (suspend flags pending items .minus) {} rest
    | '~' :: '~' :: rest => classItems? flags level fuel (suspend flags pending items .either) {} rest
    | cs => do
      let (s, rest) ← classRange? flags cs
      classItems? flags level fuel pending (items.push s 0) rest

/-- A bracket class, its bracket already read: the set and its depth. -/
def bracket? (flags : PatternFlags) (cs : List Char) : Option (CharSet × Nat × List Char) := do
  let (negated, front, inner) := classStart flags cs
  let (s, depth, rest) ← classItems? flags 1 (cs.length + 1) none front inner
  pure (← negate? flags negated (foldSet flags s), depth + 1, rest)

end BackOffice.PatternReader
