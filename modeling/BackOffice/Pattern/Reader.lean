import BackOffice.Pattern.Bracket
import BackOffice.Pattern.Size
import BackOffice.Decimal.Reading
import BackOffice.Text.LowerCase

/-!
Reading a pattern from its text. There is no looking around; a text with a mistake in it, one whose
constructs stand too deep within one another and one whose pattern is too large are no patterns.
-/

namespace BackOffice

namespace PatternReader

/-! ## Repetitions -/

/-- A number with white space around it. -/
def count? (cs : List Char) : Option Nat :=
  let (n, used, rest) := Numeral.digits (trimFront cs)
  if used = 0 ∨ Nat.pow 2 32 ≤ n ∨ trimFront rest ≠ [] then none else some n

/-- The bounds of a repetition, as they stand in braces. -/
def bounds? (inner : List Char) : Option (Nat × Option Nat) :=
  match splitAtFirst ',' inner with
  | none => (count? inner).map fun n => (n, some n)
  | some (least, []) => (count? least).map (·, none)
  | some (least, most) => do
    let least ← count? least
    let most ← count? most
    if least ≤ most then some (least, some most) else none

/-- Passes over the question mark behind a repetition, which changes nothing about where matches are. -/
def skipLazy : List Char → List Char
  | '?' :: rest => rest
  | cs => cs

/-- The bounds in front, if there are any. -/
def quantifier? (flags : PatternFlags) :
    List Char → Option (Option (Nat × Option Nat) × List Char)
  | '*' :: rest => some (some (0, none), skipLazy rest)
  | '+' :: rest => some (some (1, none), skipLazy rest)
  | '?' :: rest => some (some (0, some 1), skipLazy rest)
  | '{' :: rest => do
    let (inner, rest) ← braced? flags false rest
    let bounds ← bounds? inner
    pure (some bounds, skipLazy (gap flags rest))
  | cs => some (none, cs)

/-- Whether a character would be a quantifier with nothing before it. -/
def isQuantifier (c : Char) : Bool := ['*', '+', '?', '{'].contains c

/-- A pattern with the depth of its constructs. -/
structure Nested where
  pattern : Pattern
  depth : Nat

/-- Applies the quantifiers that stand behind a pattern. -/
def quantified? (flags : PatternFlags) :
    (fuel : Nat) → Nested → List Char → Option (Nested × List Char)
  | 0, _, _ => none
  | fuel + 1, p, cs =>
    match quantifier? flags (gap flags cs) with
    | none => none
    | some (none, rest) => some (p, rest)
    | some (some (least, most), rest) =>
      quantified? flags fuel ⟨p.pattern.times least most, p.depth + 1⟩ rest

/-! ## Groups -/

/-- What an opening parenthesis begins. -/
inductive Opening where
  | flags (f : PatternFlags)
  | group (wrap : Pattern → Pattern) (f : PatternFlags)

/-- Sets a flag by its letter. -/
def setFlag? (flags : PatternFlags) (on : Bool) : Char → Option PatternFlags
  | 'i' => some { flags with ignoreCase := on }
  | 'm' => some { flags with multiLine := on }
  | 's' => some { flags with dotAll := on }
  | 'u' => some { flags with allScripts := on }
  | 'x' => some { flags with spaced := on }
  | 'R' => some { flags with returns := on }
  | 'U' => some flags
  | _ => none

/-- Flag letters up to a colon or the closing parenthesis, which is given back. No letter may come
twice, and a minus needs letters behind it. -/
def flags? (flags : PatternFlags) (on : Bool) (seen : List Char) :
    List Char → Option (PatternFlags × Char × List Char)
  | [] => none
  | c :: rest =>
    if c = ')' ∨ c = ':' then
      if seen.head? = some '-' ∨ (c = ')' ∧ seen = []) then none else some (flags, c, rest)
    else if seen.contains c then none
    else if c = '-' then flags? flags false ('-' :: seen) rest
    else (setFlag? flags on c).bind fun f => flags? f on (c :: seen) rest

/-- Letters of all scripts, and characters that count as such. -/
def isLetter (c : Char) : Bool :=
  if c.toNat < 128 then c.isAlpha
  else (CharProperty.get? "alphabetic".toList).any (·.contains c)

/-- Numbers of all scripts. -/
def isNumber (c : Char) : Bool :=
  if c.toNat < 128 then c.isDigit else (CharProperty.get? ['n']).any (·.contains c)

/-- The name of a group up to the angle bracket. -/
def groupName? (cs : List Char) : Option (String × List Char) :=
  let name := cs.takeWhile (· ≠ '>')
  match cs.drop name.length with
  | '>' :: rest =>
    if name.head?.any (fun c => c == '_' || isLetter c)
        && name.all fun c => ['_', '.', '[', ']'].contains c || isLetter c || isNumber c then
      some (String.ofList name, rest)
    else none
  | _ => none

/-- The beginning of a group, its parenthesis already read. -/
def opening? (flags : PatternFlags) (cs : List Char) : Option (Opening × List Char) :=
  let named (cs : List Char) : Option (Opening × List Char) :=
    (groupName? cs).map fun (name, rest) => (.group (.group (some name)) flags, rest)
  match gap flags cs with
  | '?' :: 'P' :: '<' :: rest => named rest
  | '?' :: '<' :: rest => named rest
  | '?' :: rest => (flags? flags true [] rest).map fun (f, close, rest) =>
      (if close = ')' then .flags f else .group id f, rest)
  | rest => some (.group (.group none) flags, rest)

/-! ## Sequences and alternatives -/

/-- A piece of a sequence: a pattern, or nothing where flags were set. -/
structure Piece where
  pattern : Option Pattern
  depth : Nat

/-- Several constructs side by side are one more. -/
def depthOf (depths : List Nat) : Nat :=
  let inner := depths.foldl max 0
  if depths.length ≤ 1 then inner else inner + 1

/-- The pieces, last first, one after another. -/
def sequence (pieces : List Piece) : Nested :=
  ⟨.sequence (pieces.reverse.filterMap Piece.pattern), depthOf (pieces.map Piece.depth)⟩

/-- A sequence with the alternatives before it, last first. -/
def alternatives (before : List Nested) (pieces : List Piece) : Nested :=
  let all := (sequence pieces :: before).reverse
  ⟨.choice (all.map Nested.pattern), depthOf (all.map Nested.depth)⟩

/-- A character that stands for itself. -/
def literal (flags : PatternFlags) (c : Char) : Pattern :=
  if !flags.ignoreCase then .literal [c]
  else if flags.allScripts then
    .ofSet (.ofList (Shift.preimage CaseTable.fold (Shift.apply CaseTable.fold c)))
  else .ofSet (CharSet.one c).ignoringAsciiCase

/-- One pattern without its quantifier that is no group. A dot of ASCII would match parts of
characters. -/
def atom? (flags : PatternFlags) : List Char → Option (Nested × List Char)
  | '.' :: rest =>
    if !flags.allScripts then none
    else
      let breaks : List Char :=
        if flags.dotAll then [] else if flags.returns then ['\n', '\r'] else ['\n']
      some (⟨.ofSet (CharSet.ofList breaks).complement, 0⟩, rest)
  | '^' :: rest =>
    some (⟨.edge (if flags.multiLine then .lineStart flags.returns else .textStart), 0⟩, rest)
  | '$' :: rest =>
    some (⟨.edge (if flags.multiLine then .lineEnd flags.returns else .textEnd), 0⟩, rest)
  | '[' :: rest => (bracket? flags rest).map fun (s, depth, rest) => (⟨.ofSet s, depth⟩, rest)
  | '\\' :: rest => (escape? flags rest).map fun (e, rest) =>
      (⟨match e with
        | .char c => literal flags c
        | .set s => .ofSet s
        | .edge e => .edge e, 0⟩, rest)
  | c :: rest => some (⟨literal flags c, 0⟩, rest)
  | [] => none

/-- The alternatives of a group up to its closing parenthesis or the end, which is left to be read.
`level` counts the groups around. -/
def body? (level : Nat) :
    (fuel : Nat) → PatternFlags → List Nested → List Piece → List Char → Option (Nested × List Char)
  | 0, _, _, _, _ => none
  | fuel + 1, flags, before, pieces, cs =>
    if maxDepth < level then none
    else match gap flags cs with
    | [] => some (alternatives before pieces, [])
    | ')' :: rest => some (alternatives before pieces, ')' :: rest)
    | '|' :: rest => body? level fuel flags (sequence pieces :: before) [] rest
    | '(' :: rest => do
      let (open_, rest) ← opening? flags rest
      match open_ with
      | .flags f =>
        if (gap f rest).head?.any isQuantifier then none
        else body? level fuel f before (⟨none, 0⟩ :: pieces) rest
      | .group wrap inner => do
        let (p, rest) ← body? (level + 1) fuel inner [] [] rest
        match rest with
        | ')' :: rest => do
          let (p, rest) ← quantified? flags fuel ⟨wrap p.pattern, p.depth + 1⟩ rest
          body? level fuel flags before (⟨some p.pattern, p.depth⟩ :: pieces) rest
        | _ => none
    | c :: rest =>
      if isQuantifier c then none
      else do
        let (p, rest) ← atom? flags (c :: rest)
        let (p, rest) ← quantified? flags fuel p rest
        body? level fuel flags before (⟨some p.pattern, p.depth⟩ :: pieces) rest

end PatternReader

namespace Pattern

/-- The pattern that a text describes, if it describes one of a fair size. -/
def ofText? (text : String) : Option Pattern := do
  let (p, rest) ← PatternReader.body? 0 (2 * text.length + 2) {} [] [] text.toList
  if rest = [] ∧ p.depth ≤ PatternReader.maxDepth ∧ p.pattern.names.Nodup ∧ p.pattern.isFair then
    some p.pattern
  else none

end Pattern

end BackOffice
