import BackOffice.Source.Yaml.Token

/-!
Splitting a YAML text into tokens. A collection in a block starts where the indentation grows and ends
where it shrinks. What may be a key turns out to be one when its colon comes; until then the tokens from
there on wait. Such a key lies on one line and takes 1024 bytes at most, unless it stands between brackets.
-/

namespace BackOffice.Yaml

/-- A place where a key may have started. -/
structure KeyPlace where
  /-- Whether there may still be a key. -/
  possible : Bool := false
  /-- Whether there has to be one. -/
  required : Bool := false
  /-- The number of its first token. -/
  number : Nat := 0
  index : Nat := 0
  line : Nat := 0
  column : Nat := 0

/-- An indentation that another one is inside of. -/
structure Indent where
  column : Int
  /-- Whether the inner one is a collection's; else it only keeps a value to the right of its key. -/
  block : Bool

/-- A text that is being split into tokens. -/
structure Lexer where
  place : Cursor
  /-- Tokens that wait, with their columns. -/
  waiting : Array (Token × Nat) := #[]
  /-- The number of tokens that have been given out. -/
  given : Nat := 0
  /-- Whether a key may start here. -/
  mayKey : Bool := true
  /-- The last place of a key inside the innermost brackets. -/
  key : KeyPlace := {}
  /-- The ones outside of these brackets. -/
  outerKeys : List KeyPlace := []
  indent : Int := -1
  outer : List Indent := []
  /-- Where a value may follow its key without a blank. -/
  adjacent : Nat := 0
  /-- Whether a mapping has been opened by a brace or a question mark. -/
  inMapping : Bool := false
  /-- For each open square bracket, whether the current item is a single pair. -/
  pairs : List Bool := []
  /-- The line of a comment that ended plain text. -/
  comment : Option Nat := none
  ended : Bool := false

namespace Lexer

/-- Whether brackets are open. -/
def inFlow (l : Lexer) : Bool := !l.outerKeys.isEmpty

/-- How many brackets may be open. -/
def maxBrackets : Nat := 255

/-- How many bytes a key may take. -/
def maxKey : Nat := 1024

/-- Adds a token. -/
def put (l : Lexer) (t : Token) (column : Nat) : Lexer := { l with waiting := l.waiting.push (t, column) }

/-- Puts a token before the one of a number. -/
def insert (l : Lexer) (number : Nat) (t : Token) : Lexer :=
  { l with waiting := l.waiting.insertIdxIfInBounds (number - l.given) (t, l.key.column) }

/-- Gives up a key that can be none any more. -/
def stale? (l : Lexer) : Option Lexer :=
  if l.key.possible && !l.inFlow
      && (l.key.line < l.place.line || l.key.index + maxKey < l.place.index) then
    if l.key.required then none else some { l with key.possible := false }
  else some l

/-- Takes down that a key may start here. -/
def saveKey (l : Lexer) : Lexer :=
  if l.mayKey then
    let p := l.place
    let required := !l.inFlow && l.indent == p.column && (l.outer.head?.map Indent.block) == some true
    { l with key := ⟨true, required, l.given + l.waiting.size, p.index, p.line, p.column⟩ }
  else l

/-- Gives up the last key, which must not be required. -/
def dropKey? (l : Lexer) : Option Lexer :=
  if l.key.possible && l.key.required then none else some { l with key.possible := false }

/-- The indentation after the ones to the right of a column, and the number of collections that end. -/
def closed (column : Int) : Int → List Indent → Nat × Int × List Indent
  | indent, [] => (0, indent, [])
  | indent, i :: rest =>
    if column < indent then
      let (ends, result) := closed column i.column rest
      (ends + i.block.toNat, result)
    else (0, indent, i :: rest)

/-- Ends the collections to the right of a column. -/
def unroll (l : Lexer) (column : Int) : Lexer :=
  if l.inFlow then l
  else
    let (ends, indent, outer) := closed column l.indent l.outer
    { l with indent, outer, waiting := l.waiting ++ Array.replicate ends (.blockEnd, l.place.column) }

/-- Takes back an indentation that is no collection's. -/
def unrollLoose (l : Lexer) : Lexer :=
  match l.outer with
  | ⟨column, false⟩ :: rest => { l with indent := column, outer := rest }
  | _ => l

/-- Starts a collection at a column, before the token of a number or behind all, unless one is there. -/
def roll (l : Lexer) (column : Nat) (number : Option Nat) (t : Token) : Lexer :=
  if l.inFlow then l
  else
    let l := if l.indent ≤ column then l.unrollLoose else l
    if l.indent < column then
      let l := { l with outer := ⟨l.indent, true⟩ :: l.outer, indent := column }
      match number with
      | some n => l.insert n t
      | none => l.put t column
    else l

/-- Keeps what follows to the right of the collection. -/
def rollLoose (l : Lexer) : Lexer :=
  match l.outer with
  | ⟨_, true⟩ :: _ =>
    if l.inFlow then l else { l with outer := ⟨l.indent, false⟩ :: l.outer, indent := l.indent + 1 }
  | _ => l

/-- Ends a single pair in square brackets. -/
def endPair (l : Lexer) : Lexer :=
  match l.pairs with
  | true :: rest => { l with inMapping := false, pairs := false :: rest }.put .flowMapEnd l.place.column
  | _ => l

/-- The place behind blanks and a comment. -/
def restOfLine? (l : Lexer) : Option Lexer :=
  l.place.restOfLine?.map fun (_, place) => { l with place }

/-- The place of the next token. Tabs do not indent blocks. Plain text must not go on behind a comment on
the next line. -/
def toNext? : (fuel : Nat) → Lexer → Option Lexer
  | 0, _ => none
  | fuel + 1, l =>
    let p := l.place
    if p.peek == '\t' && !l.outer.isEmpty && p.fresh && decide (p.column < l.indent) then do
      let l ← l.restOfLine?
      if isLineEnd l.place.peek then toNext? fuel l else none
    else if isGap p.peek then toNext? fuel { l with place := p.beyond 1 }
    else if isBreak p.peek then toNext? fuel { l with place := p.nextLine, mayKey := l.mayKey || !l.inFlow }
    else if p.peek == '#' then toNext? fuel { l with place := p.beyondWhile (!isLineEnd ·) }
    else if (l.comment.map (· + 1)) == some p.line && !l.inFlow && decide (l.indent < p.column)
        && !p.atEnd && !(p.column == 0 && p.atDocumentMark) then none
    else some { l with comment := none }

def end? (l : Lexer) : Option Lexer :=
  if (l.key :: l.outerKeys).any fun k => k.possible && k.required then none
  else
    let l := l.unroll (-1)
    let outerKeys := l.outerKeys.map fun k => { k with possible := false }
    let l := { l with key.possible := false, outerKeys, mayKey := false, ended := true }
    some (l.put .textEnd l.place.column)

/-- A number of a version: up to nine digits. -/
def versionNumber? (p : Cursor) : Option Cursor :=
  let (digits, p) := p.takeWhile Char.isDigit
  if digits.isEmpty ∨ 9 < digits.length then none else some p

/-- The directive of a name, from behind the name on. -/
def directiveOf? (name : List Char) (p : Cursor) : Option (Token × Cursor) :=
  let q := p.beyondWhile isGap
  match String.ofList name with
  | "YAML" => do
    let q ← versionNumber? q
    if q.peek = '.' then (versionNumber? (q.past 1)).map (Token.version, ·) else none
  | "TAG" => do
    let (handle, q) ← tagHandle? q
    let q := q.beyondWhile isGap
    if (handle.length = 1 ∨ handle.getLast? = some '!') ∧ (q.peek = '!' ∨ isTagChar q.peek) then
      let (front, q) ← tagText? isAddressChar (q.rest.length + 1) [] q
      if isApart q.peek then some (Token.handle (String.ofList handle) (String.ofList front), q) else none
    else none
  | _ => some (.reserved, p.beyondWhile (!isLineEnd ·))

def directive? (l : Lexer) : Option Lexer := do
  let start := l.place
  let l ← (l.unroll (-1)).dropKey?
  let (name, p) := (start.past 1).takeWhile isNameChar
  if name.isEmpty || !isApart p.peek then none
  else
    let (t, p) ← directiveOf? name p
    let (_, p) ← p.restOfLine?
    if isLineEnd p.peek then some ({ l with mayKey := false, place := p.nextLine }.put t start.column)
    else none

/-- The mark of a document's start or end, which nothing may follow. -/
def documentMark? (l : Lexer) (t : Token) : Option Lexer := do
  let l ← (l.unroll (-1)).dropKey?
  let l := { l with mayKey := false, place := l.place.past 3 }.put t l.place.column
  if t = .documentEnd then
    let l ← l.restOfLine?
    if isLineEnd l.place.peek then some l else none
  else some l

def open? (l : Lexer) (t : Token) : Option Lexer :=
  let start := l.place
  let l := { l.saveKey with place := start.past 1 }.rollLoose
  if l.outerKeys.length = maxBrackets then none
  else
    let l := { l with outerKeys := l.key :: l.outerKeys, key := {}, mayKey := true }
    let l := if t = .flowMap then { l with inMapping := true } else { l with pairs := false :: l.pairs }
    (l.put t start.column).restOfLine?

def close? (l : Lexer) (t : Token) : Option Lexer := do
  let start := l.place
  let l ← l.dropKey?
  match l.outerKeys with
  | [] => none
  | key :: outerKeys =>
    let l := if t = .flowSeqEnd then { l.endPair with pairs := l.pairs.drop 1 } else l
    let l ← { l with key, outerKeys, mayKey := false, place := start.past 1 }.restOfLine?
    let l := if l.inFlow then { l with adjacent := l.place.index } else l
    some (l.put t start.column)

def comma? (l : Lexer) : Option Lexer := do
  let start := l.place
  let l ← l.dropKey?
  ({ l.endPair with mayKey := true, place := start.past 1 }.put .comma start.column).restOfLine?

/-- The mark of an item. A tag or an anchor on the margin belongs to no collection inside of another. -/
def dash? (l : Lexer) : Option Lexer := do
  let start := l.place
  let loose := match l.waiting.back? with
    | some (.anchor _, 0) | some (.tag _, 0) => start.column == 0 && decide (-1 < l.indent)
    | _ => false
  if l.inFlow || !l.mayKey || loose then none
  else
    let l := { l with place := start.past 1 }.roll start.column none .blockSeq
    let (blanks, p) ← l.place.restOfLine?
    if blanks.contains '\t' ∧ p.peek = '-' ∧ isApart (p.peekAt 1) then none
    else
      let l := { l with place := p }
      let l := if isBreak p.peek ∨ isFlowMark p.peek then l.rollLoose else l
      let l ← l.dropKey?
      some ({ l with mayKey := true }.put .dash start.column)

/-- The place behind spaces, comments and lines without text. -/
def toText : (fuel : Nat) → Lexer → Lexer
  | 0, l => l
  | fuel + 1, l =>
    let p := l.place
    if p.peek == ' ' then toText fuel { l with place := p.beyond 1 }
    else if isBreak p.peek then toText fuel { l with place := p.nextLine, mayKey := l.mayKey || !l.inFlow }
    else if p.peek == '#' then toText fuel { l with place := p.beyondWhile (!isLineEnd ·) }
    else l

/-- The question mark before a key. A space or the end of the line follows it, and no tab. -/
def question? (l : Lexer) : Option Lexer := do
  let start := l.place
  if !l.inFlow ∧ !l.mayKey then none
  else
    let l := if l.inFlow then { l with inMapping := true } else l.roll start.column none .blockMap
    let l ← l.dropKey?
    let l := { l with mayKey := !l.inFlow, place := start.past 1 }
    if l.place.peek ≠ ' ' ∧ !isBreak l.place.peek then none
    else
      let l := l.toText (l.place.rest.length + 1)
      if l.place.peek = '\t' then none else some (l.put .key start.column)

/-- The colon before a value; it may show that there was a key before it. -/
def colon? (l : Lexer) : Option Lexer := do
  let start := l.place
  let pair := !l.pairs.isEmpty && !l.inMapping
  let l := { l with
    place := start.past 1, pairs := if pair then true :: l.pairs.drop 1 else l.pairs }
  let (blanks, p) ← if l.place.peek = '\t' then l.place.restOfLine? else some ([' '], l.place)
  if !blanks.contains ' ' ∧ isNameChar p.peek then none
  else
    let l := { l with place := p }
    if l.key.possible then
      if pair ∧ l.key.line < start.line then none
      else
        let number := l.key.number
        let l := l.insert number .key
        let l := if pair then l.insert number .flowMap else l
        let l := (l.roll l.key.column (some number) .blockMap).rollLoose
        some ({ l with key.possible := false, mayKey := false }.put .value start.column)
    else
      let l := if pair then l.put .flowMap start.column else l
      if !l.inFlow ∧ !l.mayKey then none
      else
        let l := (l.roll start.column none .blockMap).rollLoose
        some ({ l with mayKey := !l.inFlow }.put .value start.column)

/-- The colon between brackets where no blank follows it. -/
def flowColon? (l : Lexer) : Option Lexer :=
  let next := l.place.peekAt 1
  if l.place.index ≠ l.adjacent ∧ (next = '[' ∨ next = '{') then none else l.colon?

/-- An anchor or an alias. -/
def name? (l : Lexer) (token : String → Token) : Option Lexer :=
  let start := l.place
  let (name, place) := (start.past 1).takeWhile fun c => !isApart c && !isFlowMark c && c != '\ufeff'
  if name.isEmpty then none
  else some ({ l.saveKey with mayKey := false, place }.put (token (String.ofList name)) start.column)

def tagHere? (l : Lexer) : Option Lexer := do
  let (name, place) ← tag? l.place
  if isApart place.peek || (l.inFlow && isFlowMark place.peek) then
    some ({ l.saveKey with mayKey := false, place }.put (.tag name) l.place.column)
  else none

/-- Behind a block a key may start again. -/
def block? (l : Lexer) (folded : Bool) : Option Lexer := do
  let start := l.place
  let l := { l.saveKey with mayKey := true }.unrollLoose
  let (text, place) ← Yaml.block? folded l.indent start
  some ({ l with place }.put (.scalar (String.ofList text.reverse) .block) start.column)

/-- Text in quotes. What follows it on the line ends brackets or makes a key of it. -/
def quoted? (l : Lexer) (quote : Char) : Option Lexer := do
  let start := l.place
  let l := { l.saveKey with mayKey := false }
  let deeper := if l.inFlow then l.indent else l.unrollLoose.indent + 1
  let (text, p) ← Yaml.quoted? quote l.indent deeper (start.rest.length + 1) true [] (start.past 1)
  let (_, p) ← p.restOfLine?
  let c := p.peek
  if isLineEnd c || (c == ':' && (l.inFlow || p.line == start.line))
      || (l.inFlow && [',', ']', '}'].contains c) then
    let l ← { l with place := p }.toNext? (p.rest.length + 1)
    some ({ l with adjacent := l.place.index }.put (.scalar (String.ofList text.reverse) .quoted)
      start.column)
  else none

def plain? (l : Lexer) : Option Lexer := do
  let start := l.place
  let l := { l.saveKey with mayKey := false }.unrollLoose
  let deeper : Int := l.indent + 1
  if l.inFlow && decide (start.column < deeper) then none
  else
    let (text, comment, place) ← Yaml.plain? l.inFlow deeper (start.rest.length + 1) [] {} start
    if text.isEmpty then none
    else some ({ l with
      place, mayKey := place.fresh, comment := if comment then some place.line else none }.put
        (.scalar (String.ofList text.reverse) .plain) start.column)

/-- The token that the characters here start. -/
def token? (l : Lexer) : Option Lexer :=
  let next := l.place.peekAt 1
  match l.place.peek with
  | '[' => l.open? .flowSeq
  | '{' => l.open? .flowMap
  | ']' => l.close? .flowSeqEnd
  | '}' => l.close? .flowMapEnd
  | ',' => l.comma?
  | '-' => if isApart next then l.dash? else l.plain?
  | '?' => if isApart next then l.question? else l.plain?
  | ':' =>
    if isApart next then l.colon?
    else if l.inFlow && (isFlowMark next || l.place.index = l.adjacent) then l.flowColon?
    else l.plain?
  | '*' => l.name? .alias
  | '&' => l.name? .anchor
  | '!' => l.tagHere?
  | '|' => if l.inFlow then l.plain? else l.block? false
  | '>' => if l.inFlow then l.plain? else l.block? true
  | '\'' => l.quoted? '\''
  | '"' => l.quoted? '"'
  | '%' | '@' | '\x60' => none
  | _ => l.plain?

/-- Adds the next token. -/
def step? (l : Lexer) : Option Lexer := do
  let l ← l.toNext? (l.place.rest.length + 1)
  let l ← l.stale?
  let l := l.unroll l.place.column
  let p := l.place
  if p.atEnd then l.end?
  else if p.column = 0 ∧ p.peek = '%' then l.directive?
  else if p.column = 0 ∧ p.atTriple '-' then l.documentMark? .documentStart
  else if p.column = 0 ∧ p.atTriple '.' then l.documentMark? .documentEnd
  else if p.column < l.indent ∧ !(l.inFlow && [',', ']', '}'].contains p.peek) then none
  else l.token?

/-- Gives out the tokens before the first that may still turn out to be behind a key's mark. -/
def release (l : Lexer) : Array (Token × Nat) × Lexer :=
  let count := (l.key :: l.outerKeys).foldl (fun count k =>
    if k.possible && l.given ≤ k.number then min count (k.number - l.given) else count) l.waiting.size
  (l.waiting.extract 0 count,
    { l with given := l.given + count, waiting := l.waiting.extract count l.waiting.size })

/-- The tokens behind those given out before, up to a mistake or the end. -/
def tokens : (fuel : Nat) → Array Token → Lexer → Array Token
  | 0, done, _ => done
  | fuel + 1, done, l =>
    match l.step?.bind stale? with
    | none => done
    | some l =>
      let (more, l) := l.release
      let done := done ++ more.map Prod.fst
      if l.ended then done else tokens fuel done l

end Lexer

/-- The tokens of a text, up to its first mistake. -/
def tokensOf (text : String) : List Token :=
  (Lexer.tokens (text.length + 2) #[] { place := .ofText text }).toList

end BackOffice.Yaml
