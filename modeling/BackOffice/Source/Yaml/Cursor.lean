/-!
Places in a YAML text, with their lines and columns. A tab is one column wide; a carriage return, a line
feed, or both together end a line.
-/

namespace BackOffice.Yaml

/-- A space or a tab. -/
def isGap (c : Char) : Bool := c == ' ' || c == '\t'

def isBreak (c : Char) : Bool := c == '\n' || c == '\r'

/-- What stands behind the end of a text. -/
def endMark : Char := '\x00'

/-- Whether a character is none of a line's text. -/
def isLineEnd (c : Char) : Bool := isBreak c || c == endMark

/-- Whether a character sets apart what stands before it. -/
def isApart (c : Char) : Bool := isGap c || isLineEnd c

/-- A character that stands for itself between brackets. -/
def isFlowMark (c : Char) : Bool := [',', '[', ']', '{', '}'].contains c

/-- A character of the plain names: of directives, and of the handles of tags. -/
def isNameChar (c : Char) : Bool := c.isAlphanum || c == '_' || c == '-'

/-- A place in a text. -/
structure Cursor where
  rest : List Char
  /-- The number of bytes before it. -/
  index : Nat := 0
  line : Nat := 0
  column : Nat := 0
  /-- Whether nothing but blanks stands before it on its line. -/
  fresh : Bool := true

namespace Cursor

/-- The start of a text, which a mark of its encoding does not belong to. A null character ends it. -/
def ofText (text : String) : Cursor :=
  let cs := text.toList.takeWhile (· != endMark)
  { rest := match cs with
      | '\ufeff' :: rest => rest
      | cs => cs }

/-- The character so many places further on. -/
def peekAt (p : Cursor) (n : Nat) : Char := (p.rest.drop n).headD endMark

def peek (p : Cursor) : Char := p.rest.headD endMark

def atEnd (p : Cursor) : Bool := p.rest.isEmpty

/-- How many bytes so many characters take here. -/
def bytes (p : Cursor) (n : Nat) : Nat := (p.rest.take n).foldl (fun sum c => sum + c.utf8Size) 0

/-- The place behind some blanks. -/
def beyond (p : Cursor) (n : Nat) : Cursor :=
  { p with rest := p.rest.drop n, index := p.index + p.bytes n, column := p.column + n }

/-- The place behind some characters of a line. -/
def past (p : Cursor) (n : Nat) : Cursor := { p.beyond n with fresh := false }

/-- The place behind all characters of a kind, which are blanks or make a comment. -/
def beyondWhile (p : Cursor) (isOne : Char → Bool) : Cursor := p.beyond (p.rest.takeWhile isOne).length

/-- The characters of a kind here, and the place behind them. -/
def takeWhile (p : Cursor) (isOne : Char → Bool) : List Char × Cursor :=
  let cs := p.rest.takeWhile isOne
  (cs, if cs.isEmpty then p else p.past cs.length)

/-- The start of the next line, behind a line break. -/
def nextLine (p : Cursor) : Cursor :=
  match p.rest with
  | '\r' :: '\n' :: rest => { rest, index := p.index + 2, line := p.line + 1 }
  | c :: rest => if isBreak c then { rest, index := p.index + 1, line := p.line + 1 } else p
  | [] => p

/-- Whether three of a character stand here, set apart from what follows. -/
def atTriple (p : Cursor) (c : Char) : Bool :=
  p.rest.take 3 == [c, c, c] && isApart (p.peekAt 3)

/-- Whether the mark of a document's start or end is here. -/
def atDocumentMark (p : Cursor) : Bool := p.atTriple '-' || p.atTriple '.'

/-- The place behind the blanks here and a comment after them; a comment has to be set apart. The blanks
are given too. -/
def restOfLine? (p : Cursor) : Option (List Char × Cursor) :=
  let blanks := p.rest.takeWhile isGap
  let p := p.beyond blanks.length
  if p.peek != '#' then some (blanks, p)
  else if blanks.isEmpty then none
  else some (blanks, p.beyondWhile (!isLineEnd ·))

end Cursor

end BackOffice.Yaml
