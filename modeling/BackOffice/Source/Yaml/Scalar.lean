import BackOffice.Source.Yaml.Cursor
import BackOffice.Text.Hex

/-!
The scalars of YAML: plain text, text in quotes, and blocks of text. All of them may go on over several
lines, whose breaks are folded: one break becomes a space, and further ones stay breaks. Texts are
gathered from the last character to the first.
-/

namespace BackOffice.Yaml

/-- How a scalar is written. -/
inductive ScalarStyle where
  | plain
  | quoted
  | block
deriving DecidableEq, Repr, Inhabited

/-- What stands between two pieces of a scalar. -/
structure Between where
  /-- The blanks on one line, the last first. -/
  blanks : List Char := []
  /-- Whether a line has ended. -/
  broken : Bool := false
  /-- Whether its break counts as a space; a break behind a backslash counts for nothing. -/
  spaced : Bool := true
  /-- The number of further breaks. -/
  breaks : Nat := 0

/-- The text that stands for it. -/
def Between.text (b : Between) : List Char :=
  if !b.broken then b.blanks
  else if b.spaced && b.breaks = 0 then [' ']
  else List.replicate b.breaks '\n'

/-- Whether a character before another belongs to plain text. A colon ends it where it may follow a key. -/
def isPlain (flow : Bool) (c next : Char) : Bool :=
  if c == ':' && (isApart next || (flow && isFlowMark next)) then false else !(flow && isFlowMark c)

/-- The front of plain text that has no blanks. -/
def plainPiece (flow : Bool) : List Char → List Char
  | [] => []
  | c :: rest =>
    if isApart c || !isPlain flow c (rest.headD endMark) then [] else c :: plainPiece flow rest

/-- What comes before the next piece of plain text. Only a line without text may have a tab before the
column `deeper`. -/
def plainBetween? (deeper : Int) : (fuel : Nat) → Between → Cursor → Option (Between × Cursor)
  | 0, _, _ => none
  | fuel + 1, b, p =>
    if isBreak p.peek then
      let b := if p.fresh then { b with breaks := b.breaks + 1 }
        else { b with blanks := [], broken := true }
      plainBetween? deeper fuel b p.nextLine
    else if !isGap p.peek then some (b, p)
    else if !p.fresh then
      plainBetween? deeper fuel { b with blanks := p.peek :: b.blanks } (p.beyond 1)
    else if p.peek == '\t' && decide (p.column < deeper) then do
      let (_, p) ← p.restOfLine?
      if isLineEnd p.peek then plainBetween? deeper fuel b p else none
    else plainBetween? deeper fuel b (p.beyond 1)

/-- The rest of plain text, and whether a comment ends it. Its further lines start in the column `deeper`
at least, unless they stand between brackets. -/
def plain? (flow : Bool) (deeper : Int) : (fuel : Nat) → List Char → Between → Cursor →
    Option (List Char × Bool × Cursor)
  | 0, _, _, _ => none
  | fuel + 1, text, b, p =>
    if p.fresh && p.atDocumentMark then some (text, false, p)
    else if p.peek == '#' then
      some (text, !text.isEmpty && !b.broken && !b.blanks.isEmpty, p)
    else if flow && p.peek == '-' && isFlowMark (p.peekAt 1) then none
    else
      let piece := plainPiece flow p.rest
      if piece.isEmpty then some (text, false, p)
      else do
        let text := piece.reverse ++ (b.text ++ text)
        let p := p.past piece.length
        let (b, q) ← plainBetween? deeper fuel {} p
        if p.index = q.index ∨ (!flow ∧ q.column < deeper) then some (text, false, q)
        else plain? flow deeper fuel text b q

/-- The escapes with one character. -/
def shortEscape? : Char → Option Char
  | '0' => some '\x00'
  | 'a' => some '\x07'
  | 'b' => some '\x08'
  | 't' | '\t' => some '\t'
  | 'n' => some '\n'
  | 'v' => some '\x0b'
  | 'f' => some '\x0c'
  | 'r' => some '\r'
  | 'e' => some '\x1b'
  | ' ' => some ' '
  | '"' => some '"'
  | '/' => some '/'
  | '\\' => some '\\'
  | 'N' => some '\u0085'
  | '_' => some '\u00a0'
  | 'L' => some '\u2028'
  | 'P' => some '\u2029'
  | _ => none

/-- So many hexadecimal digits as a character. -/
def hexEscape? (count : Nat) (cs : List Char) : Option (Char × List Char) :=
  if cs.length < count then none else (hexChar? (cs.take count)).map (·, cs.drop count)

/-- The character of an escape behind a backslash, and what comes after it. -/
def escape? : List Char → Option (Char × List Char)
  | 'x' :: rest => hexEscape? 2 rest
  | 'u' :: rest => hexEscape? 4 rest
  | 'U' :: rest => hexEscape? 8 rest
  | c :: rest => (shortEscape? c).map (·, rest)
  | [] => none

/-- A piece of quoted text without blanks, and whether a backslash before a line break ends it. -/
def quotedPiece? (quote : Char) : (fuel : Nat) → List Char → Cursor → Option (List Char × Bool × Cursor)
  | 0, _, _ => none
  | fuel + 1, text, p =>
    if isApart p.peek then some (text, false, p)
    else if p.peek == quote then
      if quote == '\'' && p.peekAt 1 == quote then quotedPiece? quote fuel (quote :: text) (p.past 2)
      else some (text, false, p)
    else if p.peek == '\\' && quote == '"' then
      if isBreak (p.peekAt 1) then some (text, true, (p.past 1).nextLine)
      else do
        let (c, rest) ← escape? (p.rest.drop 1)
        quotedPiece? quote fuel (c :: text) (p.past (p.rest.length - rest.length))
    else quotedPiece? quote fuel (p.peek :: text) (p.past 1)

/-- What comes before the next piece of quoted text. Tabs do not indent it. -/
def quotedBetween? (indent : Int) : (fuel : Nat) → Between → Cursor → Option (Between × Cursor)
  | 0, _, _ => none
  | fuel + 1, b, p =>
    if isBreak p.peek then
      let b := if b.broken then { b with breaks := b.breaks + 1 }
        else { b with blanks := [], broken := true }
      quotedBetween? indent fuel b p.nextLine
    else if !isGap p.peek then some (b, p)
    else if !b.broken then
      quotedBetween? indent fuel { b with blanks := p.peek :: b.blanks } (p.beyond 1)
    else if p.peek == '\t' && decide (p.column < indent) then none
    else quotedBetween? indent fuel b (p.beyond 1)

/-- The rest of a text in quotes, up to the quote that ends it. Its further lines are no marks of
documents, and they start in the column `deeper` at least. -/
def quoted? (quote : Char) (indent deeper : Int) : (fuel : Nat) → (first : Bool) → List Char → Cursor →
    Option (List Char × Cursor)
  | 0, _, _, _ => none
  | fuel + 1, first, text, p =>
    if p.atEnd || (p.column = 0 && p.atDocumentMark) || (!first && decide (p.column < deeper)) then none
    else do
      let (text, broken, p) ← quotedPiece? quote fuel text p
      if p.peek == quote then some (text, p.past 1)
      else
        let (b, p) ← quotedBetween? indent fuel { broken, spaced := !broken } p
        quoted? quote indent deeper fuel (first && !b.broken) (b.text ++ text) p

/-- What becomes of the line breaks at the end of a block. -/
inductive Chomping where
  | strip
  | clip
  | keep
deriving DecidableEq

/-- The head of a block: what becomes of its end, and how much deeper than its parent it is indented. -/
structure BlockHead where
  chomping : Chomping := .clip
  increment : Option Nat := none

def chomping? : Char → Option Chomping
  | '+' => some .keep
  | '-' => some .strip
  | _ => none

/-- The marks after the first of a block's head, in either order. -/
def blockHead (p : Cursor) : BlockHead × Cursor :=
  let digit := fun (p : Cursor) => if p.peek.isDigit then some (p.peek.toNat - 48) else none
  match chomping? p.peek, digit p with
  | some chomping, _ =>
    match digit (p.past 1) with
    | some n => ({ chomping, increment := n }, p.past 2)
    | none => ({ chomping }, p.past 1)
  | none, some n =>
    match chomping? (p.peekAt 1) with
    | some chomping => ({ chomping, increment := n }, p.past 2)
    | none => ({ increment := n }, p.past 1)
  | none, none => ({}, p)

/-- The place behind a block's indentation and the empty lines before it, which are counted. -/
def blockIndent (indent : Nat) : (fuel : Nat) → (breaks : Nat) → Cursor → Nat × Cursor
  | 0, breaks, p => (breaks, p)
  | fuel + 1, breaks, p =>
    let p := p.beyond ((p.rest.take (indent - p.column)).takeWhile (· == ' ')).length
    if isBreak p.peek then blockIndent indent fuel (breaks + 1) p.nextLine else (breaks, p)

/-- The same where the indentation is to be found: the width of the widest line so far is given too. -/
def blockDepth : (fuel : Nat) → (depth breaks : Nat) → Cursor → Nat × Nat × Cursor
  | 0, depth, breaks, p => (depth, breaks, p)
  | fuel + 1, depth, breaks, p =>
    let p := p.beyondWhile (· == ' ')
    let depth := max depth p.column
    if isBreak p.peek then blockDepth fuel depth (breaks + 1) p.nextLine else (depth, breaks, p)

/-- The lines of a block. A line that starts with a blank is not folded with the ones around it. At the
end, the break of the last line and the empty lines after it are given apart. -/
def blockLines (folded : Bool) (indent : Nat) : (fuel : Nat) → (text : List Char) →
    (broken afterBlank : Bool) → (breaks : Nat) → Cursor → List Char × Bool × Nat × Cursor
  | 0, text, broken, _, breaks, p => (text, broken, breaks, p)
  | fuel + 1, text, broken, afterBlank, breaks, p =>
    if p.column ≠ indent || p.atEnd || (indent = 0 && p.atTriple '.') then (text, broken, breaks, p)
    else
      let blank := isGap p.peek
      let front := if folded && broken && !afterBlank && !blank then
          if breaks = 0 then [' '] else List.replicate breaks '\n'
        else List.replicate (breaks + if broken then 1 else 0) '\n'
      let line := p.rest.takeWhile (!isBreak ·)
      let text := line.reverse ++ (front ++ text)
      let p := p.beyond line.length
      if p.atEnd then (text, false, 0, p)
      else
        let q := p.nextLine
        let (breaks, q) := blockIndent indent (q.rest.length + 1) 0 q
        blockLines folded indent fuel text true blank breaks q

/-- What stands for a block without lines at the end of the text. -/
def emptyBlock (chomping : Chomping) (broken : Bool) (breaks : Nat) : List Char :=
  match chomping, broken with
  | .strip, _ | _, false => []
  | .clip, true => ['\n']
  | .keep, true => List.replicate (max breaks 1) '\n'

/-- A block of text below its parent, from the mark of its style on. -/
def block? (folded : Bool) (parent : Int) (p : Cursor) : Option (List Char × Cursor) := do
  let (head, p) := blockHead (p.past 1)
  let (_, p) ← p.restOfLine?
  if !isLineEnd p.peek || head.increment == some 0 then none
  else
    let q := p.nextLine
    let fuel := q.rest.length + 1
    if q.peek == '\t' then none
    else
      let (indent, breaks, q) := match head.increment with
        | some n =>
          let indent := (max parent 0).toNat + n
          (indent, blockIndent indent fuel 0 q)
        | none =>
          let (depth, breaks, q) := blockDepth fuel 0 0 q
          (max depth (parent + 1).toNat, breaks, q)
      if q.atEnd then some (emptyBlock head.chomping (p.line < q.line) breaks, q)
      else if q.column < indent ∧ parent < q.column then none
      else
        let (text, broken, breaks, q) := blockLines folded indent fuel [] false false breaks q
        let ending := match head.chomping with
          | .strip => 0
          | .clip => if broken then 1 else 0
          | .keep => breaks + if broken then 1 else 0
        let last := if head.chomping ≠ .strip ∧ q.atEnd ∧ max indent 1 ≤ q.column then 1 else 0
        some (List.replicate (ending + last) '\n' ++ text, q)

end BackOffice.Yaml
