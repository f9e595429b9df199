import BackOffice.Pattern.Basic
import BackOffice.Pattern.Property

/-!
What stands behind a backslash in a pattern, and the flags that pattern texts are read under. There is
no reference back to a group; a text with a mistake in it is no pattern.
-/

namespace BackOffice

/-- How a pattern is read from a place on. -/
structure PatternFlags where
  ignoreCase : Bool := false
  multiLine : Bool := false
  dotAll : Bool := false
  /-- Whether carriage returns break lines, too. -/
  returns : Bool := false
  /-- Whether classes and words reach beyond ASCII. -/
  allScripts : Bool := true
  /-- Whether white space and comments are passed over. -/
  spaced : Bool := false

namespace PatternReader

/-! ## White space and comments -/

/-- Passes over white space and comments. -/
def skipSpaced : List Char → List Char
  | [] => []
  | '#' :: rest => skipSpaced.comment rest
  | c :: rest => if isBlank c then skipSpaced rest else c :: rest
where
  comment : List Char → List Char
    | [] => []
    | '\n' :: rest => skipSpaced rest
    | _ :: rest => comment rest

def gap (flags : PatternFlags) (cs : List Char) : List Char :=
  if flags.spaced then skipSpaced cs else cs

/-- The characters up to a closing brace, without what is passed over, and those behind the brace. -/
def braced? (flags : PatternFlags) (inComment : Bool) : List Char → Option (List Char × List Char)
  | [] => none
  | c :: rest =>
    if inComment then braced? flags (c != '\n') rest
    else if flags.spaced && c == '#' then braced? flags true rest
    else if flags.spaced && isBlank c then braced? flags false rest
    else if c = '}' then some ([], rest)
    else (braced? flags false rest).map fun (inner, rest) => (c :: inner, rest)

/-! ## Sets -/

/-- The set with the characters that differ in case only, where case is ignored. -/
def foldSet (flags : PatternFlags) (s : CharSet) : CharSet :=
  if !flags.ignoreCase then s
  else if flags.allScripts then s.ignoringCase
  else s.ignoringAsciiCase

/-- The other characters. Classes of ASCII have none, as these would match parts of characters. -/
def negate? (flags : PatternFlags) (negated : Bool) (s : CharSet) : Option CharSet :=
  if !negated then some s else if flags.allScripts then some s.complement else none

def asciiWord : CharSet := ⟨[(0x30, 0x39), (0x41, 0x5A), (0x5F, 0x5F), (0x61, 0x7A)]⟩

def asciiBlank : CharSet := ⟨[(0x09, 0x0D), (0x20, 0x20)]⟩

/-- White space of all scripts. -/
def blank : CharSet :=
  ⟨[(0x09, 0x0D), (0x20, 0x20), (0x85, 0x85), (0xA0, 0xA0), (0x1680, 0x1680), (0x2000, 0x200A),
    (0x2028, 0x2029), (0x202F, 0x202F), (0x205F, 0x205F), (0x3000, 0x3000)]⟩

/-- A class by its letter; a capital turns it around. -/
def letterClass? (flags : PatternFlags) (c : Char) : Option CharSet := do
  let s ← match c.toLower with
    | 'd' => some (if flags.allScripts then ⟨WordTable.digits⟩ else .range 0x30 0x39)
    | 's' => some (if flags.allScripts then blank else asciiBlank)
    | 'w' => some (if flags.allScripts then ⟨WordTable.letters⟩ else asciiWord)
    | _ => none
  negate? flags c.isUpper s

/-- A property in braces: a name, or a name and a value. That they were to differ is passed over. -/
def propertyIn? (inner : List Char) : Option CharSet :=
  match splitAt? ['!', '='] inner <|> splitAt? [':'] inner <|> splitAt? ['='] inner with
  | some (name, value) => CharProperty.getValue? name value
  | none => CharProperty.get? inner
where
  splitAt? (sign : List Char) : List Char → Option (List Char × List Char)
    | [] => none
    | c :: rest =>
      if sign.isPrefixOf (c :: rest) then some ([], (c :: rest).drop sign.length)
      else (splitAt? sign rest).map fun (front, back) => (c :: front, back)

/-- A property behind its mark: one letter, or a name in braces. -/
def property? (flags : PatternFlags) (negated : Bool) (cs : List Char) :
    Option (CharSet × List Char) := do
  if !flags.allScripts then none
  let (s, rest) ← match gap flags cs with
    | '{' :: rest => do
      let (inner, rest) ← braced? flags false rest
      pure (← propertyIn? inner, rest)
    | c :: rest => (CharProperty.get? [c]).map (·, rest)
    | [] => none
  pure (← negate? flags negated (foldSet flags s), rest)

/-! ## Escapes -/

/-- What stands behind a backslash. -/
inductive Escaped where
  | char (c : Char)
  | set (s : CharSet)
  | edge (e : PatternEdge)

/-- A number of hexadecimal digits. -/
def hexDigits? (flags : PatternFlags) : (count : Nat) → List Char → Option (List Char × List Char)
  | 0, cs => some ([], cs)
  | count + 1, cs =>
    match gap flags cs with
    | c :: rest => (hexDigits? flags count rest).map fun (digits, rest) => (c :: digits, rest)
    | [] => none

/-- A character by its number: so many digits, or any number of them in braces. Two digits stand for a
byte where patterns are about ASCII, and a byte beyond it is no character. -/
def hexEscape? (flags : PatternFlags) (count : Nat) (cs : List Char) : Option (Char × List Char) :=
  match gap flags cs with
  | '{' :: rest => do
    let (digits, rest) ← braced? flags false rest
    pure (← hexChar? digits, rest)
  | cs => do
    let (digits, rest) ← hexDigits? flags count cs
    let c ← hexChar? digits
    if count = 2 ∧ !flags.allScripts ∧ 0x80 ≤ c.toNat then none else some (c, rest)

/-- The kinds of word edge that a name in braces tells. -/
def namedEdge? (ascii : Bool) : String → Option PatternEdge
  | "start" => some (.wordStart ascii)
  | "end" => some (.wordEnd ascii)
  | "start-half" => some (.wordStartHalf ascii)
  | "end-half" => some (.wordEndHalf ascii)
  | _ => none

/-- The edge of a word, perhaps with a name in braces. Braces without a name are left to be read. -/
def wordEdge? (flags : PatternFlags) (cs : List Char) : Option (PatternEdge × List Char) :=
  let ascii := !flags.allScripts
  match cs with
  | '{' :: rest => do
    let (inner, after) ← braced? flags false rest
    if inner.head?.any fun c => c.isAlpha || c == '-' then
      pure (← namedEdge? ascii (String.ofList inner), after)
    else some (.word ascii, cs)
  | cs => some (.word ascii, cs)

/-- An escape, the backslash already read. Any ASCII character that is no letter or digit stands for
itself, but for the angle brackets. -/
def escape? (flags : PatternFlags) : List Char → Option (Escaped × List Char)
  | [] => none
  | c :: rest =>
    let ascii := !flags.allScripts
    match c with
    | 'x' => (hexEscape? flags 2 rest).map fun (c, rest) => (.char c, rest)
    | 'u' => (hexEscape? flags 4 rest).map fun (c, rest) => (.char c, rest)
    | 'U' => (hexEscape? flags 8 rest).map fun (c, rest) => (.char c, rest)
    | 'a' => some (.char '\x07', rest)
    | 'f' => some (.char '\x0c', rest)
    | 't' => some (.char '\t', rest)
    | 'n' => some (.char '\n', rest)
    | 'r' => some (.char '\r', rest)
    | 'v' => some (.char '\x0b', rest)
    | 'p' => (property? flags false rest).map fun (s, rest) => (.set s, rest)
    | 'P' => (property? flags true rest).map fun (s, rest) => (.set s, rest)
    | 'A' => some (.edge .textStart, rest)
    | 'z' => some (.edge .textEnd, rest)
    | 'b' => (wordEdge? flags rest).map fun (e, rest) => (.edge e, rest)
    | 'B' => some (.edge (.notWord ascii), rest)
    | '<' => some (.edge (.wordStart ascii), rest)
    | '>' => some (.edge (.wordEnd ascii), rest)
    | c =>
      match letterClass? flags c with
      | some s => some (.set s, rest)
      | none => if c.toNat < 128 ∧ !c.isAlphanum then some (.char c, rest) else none

end PatternReader

end BackOffice
