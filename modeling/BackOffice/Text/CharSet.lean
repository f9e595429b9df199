import BackOffice.Text.CaseTable
import BackOffice.Text.Hex

/-!
Sets of characters. A set is a list of ranges of code points in order that neither meet nor touch, so
that a set has one list only. The code points that are no characters count for nothing: the last
character before them touches the first one behind them.
-/

namespace BackOffice

/-- A set of characters, as ranges of code points, ends included. -/
structure CharSet where
  ranges : List (Nat × Nat)
deriving DecidableEq, Repr

namespace CharSet

/-- The code point of the character behind a given one. -/
def next (code : Nat) : Nat := if code = 0xD7FF then 0xE000 else code + 1

/-- The code point of the character before a given one. -/
def previous (code : Nat) : Nat := if code = 0xE000 then 0xD7FF else code - 1

/-- Joins ranges that meet or touch to the range before them; they come in the order of their first
ends. -/
def join (first last : Nat) : List (Nat × Nat) → List (Nat × Nat)
  | [] => [(first, last)]
  | (a, b) :: rest =>
    if a ≤ next last then join first (max last b) rest else (first, last) :: join a b rest

/-- The set of all characters in some ranges. -/
def ofRanges (ranges : List (Nat × Nat)) : CharSet :=
  match ranges.mergeSort fun r s => r.1 ≤ s.1 with
  | [] => ⟨[]⟩
  | (a, b) :: rest => ⟨join a b rest⟩

def empty : CharSet := ⟨[]⟩

def all : CharSet := ⟨[(0, 0x10FFFF)]⟩

def range (first last : Nat) : CharSet := ⟨[(first, last)]⟩

/-- The set of one character. -/
def one (c : Char) : CharSet := range c.toNat c.toNat

def ofList (cs : List Char) : CharSet := ofRanges (cs.map fun c => (c.toNat, c.toNat))

/-- Whether the character with a code point is in the ranges. -/
def hasCode (code : Nat) : List (Nat × Nat) → Bool
  | [] => false
  | (a, b) :: rest => a ≤ code && (code ≤ b || hasCode code rest)

def contains (s : CharSet) (c : Char) : Bool := hasCode c.toNat s.ranges

def union (s t : CharSet) : CharSet := ofRanges (s.ranges ++ t.ranges)

/-- The union of sets. -/
def unions (sets : List CharSet) : CharSet := ofRanges (sets.flatMap ranges)

/-- What lies between the ranges, from a code point on. -/
def gaps (start : Nat) : List (Nat × Nat) → List (Nat × Nat)
  | [] => if start ≤ 0x10FFFF then [(start, 0x10FFFF)] else []
  | (a, b) :: rest =>
    if start < a then (start, previous a) :: gaps (next b) rest else gaps (next b) rest

def complement (s : CharSet) : CharSet := ⟨gaps 0 s.ranges⟩

def inter (s t : CharSet) : CharSet := (s.complement.union t.complement).complement

def diff (s t : CharSet) : CharSet := s.inter t.complement

/-- The characters in one of two sets, but not in both. -/
def either (s t : CharSet) : CharSet := (s.diff t).union (t.diff s)

/-- Whether the set has ASCII characters only. -/
def isAscii (s : CharSet) : Bool := s.ranges.all (·.2 < 0x80)

/-- Characters that change when case is folded, with what they become. -/
def foldPairs : List (Nat × Nat) :=
  CaseTable.fold.flatMap fun s => s.codes.map fun code => (code, (code + s.offset).toNat)

/-- The set with all characters that differ from one of it in case only. -/
def ignoringCase (s : CharSet) : CharSet :=
  let folded := foldPairs.filter fun (c, f) => hasCode c s.ranges || hasCode f s.ranges
  let targets := ofRanges (folded.map fun (_, f) => (f, f))
  let sources := foldPairs.filter fun (_, f) => hasCode f targets.ranges
  ofRanges (s.ranges ++ targets.ranges ++ sources.map fun (c, _) => (c, c))

/-- The set with both cases of the letters from A to Z that are in it. -/
def ignoringAsciiCase (s : CharSet) : CharSet :=
  let found := (List.range 26).filter fun i =>
    hasCode (0x41 + i) s.ranges || hasCode (0x61 + i) s.ranges
  ofRanges (s.ranges ++ found.flatMap fun i => [(0x41 + i, 0x41 + i), (0x61 + i, 0x61 + i)])

/-- The ranges of one word of a table: a code point in hexadecimal digits, or two with a hyphen between
them; behind a slash stands the step from one code point to the next. -/
def rangesOfWord (word : String) : List (Nat × Nat) :=
  let (span, step) := match word.splitOn "/" with
    | [span, step] => (span, step.toNat?.getD 1)
    | _ => (word, 1)
  match (span.splitOn "-").map fun code => hexNumber? code.toList with
  | [some a] => [(a, a)]
  | [some a, some b] =>
    if step = 1 then [(a, b)]
    else (List.range ((b - a) / step + 1)).map fun i => (a + i * step, a + i * step)
  | _ => []

/-- The set that a table writes as lines of words with blanks between them. -/
def ofLines (lines : List String) : CharSet :=
  ofRanges (lines.flatMap fun line => (line.splitOn " ").flatMap rangesOfWord)

end CharSet

end BackOffice
