import BackOffice.Json.Parser
import BackOffice.Source.Toml.Scalar

/-!
Reading TOML. The tables of a document are given in pieces, which have to fit together: a table is given
once, and what is given as a value is not added to. Tables are kept ordered by name, so that a document
becomes a JSON value whose objects are.
-/

namespace BackOffice.Toml

/-- How a table came to be. -/
inductive TableOrigin where
  /-- By a header of its own, or as the whole document. -/
  | header
  /-- By the header of a table below it. -/
  | implied
  /-- By a name with dots. -/
  | dotted
deriving DecidableEq

/-- A part of a document that is being read. -/
inductive Node where
  | value (v : Json)
  | table (origin : TableOrigin) (entries : List (String × Node))
  /-- The tables of an array, the one given last in front. -/
  | tables (last : List (String × Node)) (before : List (List (String × Node)))

/-- A table that is being read. -/
abbrev Entries := Keyed Node

mutual

/-- The value of a part, with everything in the order in which it is declared. -/
def Node.toJson : Node → Json
  | value v => v
  | table _ entries => .obj (membersToJson entries)
  | tables last before => .arr ((listToJson before).reverse ++ [.obj (membersToJson last)])

def Node.membersToJson : List (String × Node) → List (String × Json)
  | [] => []
  | (key, n) :: rest => (key, n.toJson) :: membersToJson rest

def Node.listToJson : List (List (String × Node)) → List Json
  | [] => []
  | entries :: rest => .obj (membersToJson entries) :: listToJson rest

end

/-- Changes the table that a path of headers leads to; of an array of tables, the last. -/
def descend? (change? : Entries → Option Entries) : List String → Entries → Option Entries
  | [], entries => change? entries
  | key :: rest, entries =>
    match entries.find? key with
    | none => (descend? change? rest []).map fun e => entries.put key (.table .implied e)
    | some (.value _) => none
    | some (.table origin below) =>
      (descend? change? rest below).map fun e => entries.put key (.table origin e)
    | some (.tables last before) =>
      (descend? change? rest last).map fun e => entries.put key (.tables e before)

/-- Opens the table under a name: a new one, or one that was only implied. -/
def openTable? (key : String) (entries : Entries) : Option Entries :=
  match entries.find? key with
  | none => some (entries.put key (.table .header []))
  | some (.table .implied below) => some (entries.put key (.table .header below))
  | some _ => none

/-- Adds a table to the array under a name. -/
def addTable? (key : String) (entries : Entries) : Option Entries :=
  match entries.find? key with
  | none => some (entries.put key (.tables [] []))
  | some (.tables last before) => some (entries.put key (.tables [] (last :: before)))
  | some _ => none

/-- Adds a value under a name that is new. -/
def addValue? (key : String) (v : Json) (entries : Entries) : Option Entries :=
  match entries.find? key with
  | none => some (entries ++ [(key, .value v)])
  | some _ => none

/-- Adds a value under a name with dots. The table that it goes into has to be given by such names
alone. -/
def addDotted? (key : String) (v : Json) : List String → Entries → Option Entries
  | [], entries => addValue? key v entries
  | [name], entries =>
    match entries.find? name with
    | none => (addValue? key v []).map fun e => entries.put name (.table .dotted e)
    | some (.table .dotted below) =>
      (addValue? key v below).map fun e => entries.put name (.table .dotted e)
    | some _ => none
  | name :: rest, entries =>
    match entries.find? name with
    | none => (addDotted? key v rest []).map fun e => entries.put name (.table .dotted e)
    | some (.table .header _) | some (.value _) => none
    | some (.table origin below) =>
      (addDotted? key v rest below).map fun e => entries.put name (.table origin e)
    | some (.tables last before) =>
      (addDotted? key v rest last).map fun e => entries.put name (.tables e before)

def isBareKeyChar (c : Char) : Bool := c.isAlphanum || c == '_' || c == '-'

/-- One name, bare or quoted. -/
def keyPart? : List Char → Option (String × List Char)
  | '"' :: rest => (quoted? (rest.length + 1) rest).map fun (cs, rest) => (String.ofList cs, rest)
  | '\'' :: rest => (literal? rest).map fun (cs, rest) => (String.ofList cs, rest)
  | cs =>
    let name := cs.takeWhile isBareKeyChar
    if name.isEmpty then none else some (String.ofList name, cs.dropWhile isBareKeyChar)

/-- The deepest that names and values may be nested. -/
def maxDepth : Nat := 79

/-- A name with its dots. -/
def key? : (fuel : Nat) → List Char → Option (List String × List Char)
  | 0, _ => none
  | fuel + 1, cs => do
    let (part, rest) ← keyPart? (skipBlanks cs)
    match skipBlanks rest with
    | '.' :: rest =>
      let (parts, rest) ← key? fuel rest
      some (part :: parts, rest)
    | rest => some ([part], rest)

/-- The names before the last, and the last. -/
def splitLast? (path : List String) : Option (List String × String) :=
  path.getLast?.map (path.dropLast, ·)

/-- What comes after a comment. -/
def afterComment? : List Char → Option (List Char)
  | [] => some []
  | '\n' :: rest => some ('\n' :: rest)
  | '\r' :: '\n' :: rest => some ('\r' :: '\n' :: rest)
  | c :: rest => if isPrintable c then afterComment? rest else none

/-- What comes after white space, line breaks and comments. -/
def afterGap? : (fuel : Nat) → List Char → Option (List Char)
  | 0, _ => none
  | fuel + 1, cs =>
    match skipBlanks cs with
    | '\n' :: rest => afterGap? fuel rest
    | '\r' :: '\n' :: rest => afterGap? fuel rest
    | '#' :: rest => (afterComment? rest).bind (afterGap? fuel)
    | rest => some rest

def gap? (cs : List Char) : Option (List Char) := afterGap? (cs.length + 1) cs

def isScalarChar (c : Char) : Bool := c.isAlphanum || ['_', '+', '-', '.', ':'].contains c

/-- The characters of a scalar without quotes; a blank may stand between a date and a time. -/
def scalarChars (cs : List Char) : List Char × List Char :=
  let front := cs.takeWhile isScalarChar
  match cs.dropWhile isScalarChar with
  | ' ' :: a :: b :: ':' :: rest =>
    if (date? front).any (·.2.isEmpty) ∧ a.isDigit ∧ b.isDigit then
      (front ++ ' ' :: a :: b :: ':' :: rest.takeWhile isScalarChar, rest.dropWhile isScalarChar)
    else (front, ' ' :: a :: b :: ':' :: rest)
  | rest => (front, rest)

mutual

/-- A value, with what comes after it. -/
def value? : (depth fuel : Nat) → List Char → Option (Json × List Char)
  | _, 0, _ => none
  | depth, fuel + 1, cs =>
    match cs with
    | '"' :: _ | '\'' :: _ => (text? cs).map fun (cs, rest) => (.str (String.ofList cs), rest)
    | '[' :: rest => if depth = 0 then none else do
      let (items, rest) ← items? (depth - 1) fuel rest
      some (.arr items, rest)
    | '{' :: rest => if depth = 0 then none else
      match skipBlanks rest with
      | '}' :: rest => some (.obj [], rest)
      | rest => do
        let (entries, rest) ← pairs? (depth - 1) fuel [] rest
        some (.obj (Node.membersToJson entries), rest)
    | cs =>
      let (front, rest) := scalarChars cs
      (bare? front).map (·, rest)

/-- The items of an array up to its end. -/
def items? : (depth fuel : Nat) → List Char → Option (List Json × List Char)
  | _, 0, _ => none
  | depth, fuel + 1, cs => do
    match ← gap? cs with
    | ']' :: rest => some ([], rest)
    | rest =>
      let (v, rest) ← value? depth fuel rest
      match ← gap? rest with
      | ',' :: rest =>
        let (vs, rest) ← items? depth fuel rest
        some (v :: vs, rest)
      | ']' :: rest => some ([v], rest)
      | _ => none

/-- The pairs of an inline table up to its end. -/
def pairs? : (depth fuel : Nat) → Entries → List Char → Option (Entries × List Char)
  | _, 0, _, _ => none
  | depth, fuel + 1, entries, cs => do
    let (path, rest) ← key? maxDepth cs
    let (path, key) ← splitLast? path
    match rest with
    | '=' :: rest =>
      let (v, rest) ← value? depth fuel (skipBlanks rest)
      let entries ← addDotted? key v path entries
      match skipBlanks rest with
      | ',' :: rest => pairs? depth fuel entries rest
      | '}' :: rest => some (entries, rest)
      | _ => none
    | _ => none

end

/-- What comes after the end of a line. -/
def lineEnd? (cs : List Char) : Option (List Char) := do
  let rest ← match skipBlanks cs with
    | '#' :: rest => afterComment? rest
    | rest => some rest
  match rest with
  | [] => some []
  | '\n' :: rest => some rest
  | '\r' :: '\n' :: rest => some rest
  | _ => none

/-- What has been read of a document: all of it, and the path of the table that is open. -/
structure Reading where
  root : Entries := []
  current : List String := []

/-- Reads one line; a value in it may go on over several lines. -/
def line? (r : Reading) (cs : List Char) : Option (Reading × List Char) :=
  match skipBlanks cs with
  | '[' :: '[' :: rest => do
    let (path, rest) ← key? maxDepth rest
    let (front, last) ← splitLast? path
    match rest with
    | ']' :: ']' :: rest => some (⟨← descend? (addTable? last) front r.root, path⟩, ← lineEnd? rest)
    | _ => none
  | '[' :: rest => do
    let (path, rest) ← key? maxDepth rest
    let (front, last) ← splitLast? path
    match rest with
    | ']' :: rest => some (⟨← descend? (openTable? last) front r.root, path⟩, ← lineEnd? rest)
    | _ => none
  | '\n' :: rest => some (r, rest)
  | '\r' :: '\n' :: rest => some (r, rest)
  | [] => some (r, [])
  | '#' :: rest => (lineEnd? ('#' :: rest)).map (r, ·)
  | cs => do
    let (path, rest) ← key? maxDepth cs
    let (front, last) ← splitLast? path
    match rest with
    | '=' :: rest =>
      let (v, rest) ← value? maxDepth (rest.length + 1) (skipBlanks rest)
      some (⟨← descend? (addDotted? last v front) r.current r.root, r.current⟩, ← lineEnd? rest)
    | _ => none

def lines? : (fuel : Nat) → Reading → List Char → Option Reading
  | _, r, [] => some r
  | 0, _, _ => none
  | fuel + 1, r, cs => do
    let (r, rest) ← line? r cs
    lines? fuel r rest

/-- The document in a text, with everything in the order in which it is declared. -/
def read? (text : String) : Option Json :=
  let cs := match text.toList with
    | '\ufeff' :: rest => rest
    | cs => cs
  (lines? (cs.length + 1) {} cs).map fun r => (Node.table .header r.root).toJson

mutual

/-- A value with its objects ordered by name. -/
def byName : Json → Json
  | .arr items => .arr (itemsByName items)
  | .obj members => .obj (Keyed.sorted (membersByName members))
  | v => v

def itemsByName : List Json → List Json
  | [] => []
  | v :: rest => byName v :: itemsByName rest

def membersByName : List (String × Json) → List (String × Json)
  | [] => []
  | (key, v) :: rest => (key, byName v) :: membersByName rest

end

/-- A document as it is held in tables, which have every name once and in order. -/
def tabled (document : Json) : Json := byName document.merged

/-- The value of a text. -/
def parse? (text : String) : Option Json := (read? text).map tabled

end BackOffice.Toml
