import BackOffice.Text.Blank
import BackOffice.Text.CharSet
import BackOffice.Text.WordTable

/-!
Patterns for text, and the search for a match. A pattern is tried at all places of a text at once: from
the places where it may begin it leads to those where a match may end.
-/

namespace BackOffice

/-- Letters, digits, marks, joiners and connecting punctuation. -/
def isWordChar : Char → Bool := inRanges WordTable.letters

/-- ASCII letters, digits and the underscore. -/
def isAsciiWordChar (c : Char) : Bool := c.isAlphanum || c == '_'

/-- A condition on the place between two characters. -/
inductive PatternEdge where
  | textStart
  | textEnd
  /-- Behind a line break; with `returns`, a carriage return is one too, but not within a pair. -/
  | lineStart (returns : Bool)
  | lineEnd (returns : Bool)
  /-- Between a word character and another one; `ascii` looks at ASCII words only. -/
  | word (ascii : Bool)
  | notWord (ascii : Bool)
  | wordStart (ascii : Bool)
  | wordEnd (ascii : Bool)
  | wordStartHalf (ascii : Bool)
  | wordEndHalf (ascii : Bool)
deriving DecidableEq, Repr

namespace PatternEdge

/-- Whether the condition holds between the characters before and after a place. -/
def holds (before after : Option Char) : PatternEdge → Bool
  | textStart => before.isNone
  | textEnd => after.isNone
  | lineStart returns =>
    before.all (· == '\n') || (returns && before == some '\r' && after != some '\n')
  | lineEnd returns =>
    after == none || (after == some '\n' && !(returns && before == some '\r'))
      || (returns && after == some '\r')
  | word ascii => inWord ascii before != inWord ascii after
  | notWord ascii => inWord ascii before == inWord ascii after
  | wordStart ascii => !inWord ascii before && inWord ascii after
  | wordEnd ascii => inWord ascii before && !inWord ascii after
  | wordStartHalf ascii => !inWord ascii before
  | wordEndHalf ascii => !inWord ascii after
where
  inWord (ascii : Bool) (c : Option Char) : Bool :=
    c.any (if ascii then isAsciiWordChar else isWordChar)

end PatternEdge

/-- A pattern for text. -/
inductive Pattern where
  | empty
  | literal (cs : List Char)
  | char (s : CharSet)
  | edge (e : PatternEdge)
  | seq (p q : Pattern)
  | alt (p q : Pattern)
  /-- At least `least` times, and at most `most` times if that is given. -/
  | repeat (p : Pattern) (least : Nat) (most : Option Nat)
  | group (name : Option String) (p : Pattern)
deriving DecidableEq, Repr

namespace Pattern

/-! ## Patterns in their simplest form -/

/-- The pattern for one character of a set. -/
def ofSet (s : CharSet) : Pattern :=
  match s.ranges with
  | [(a, b)] => if a = b then literal [Char.ofNat a] else char s
  | _ => char s

/-- The set that a pattern for one character stands for. -/
def set? : Pattern → Option CharSet
  | literal [c] => some (.one c)
  | char s => some s
  | _ => none

/-- The patterns that follow one another in a pattern. -/
def parts : Pattern → List Pattern
  | empty => []
  | seq p q => p :: parts q
  | p => [p]

/-- Puts a pattern in front of others; literals that meet become one. -/
def glue : Pattern → List Pattern → List Pattern
  | literal a, literal b :: rest => literal (a ++ b) :: rest
  | p, rest => p :: rest

def ofParts : List Pattern → Pattern
  | [] => empty
  | [p] => p
  | p :: rest => seq p (ofParts rest)

/-- Patterns one after another. -/
def sequence (ps : List Pattern) : Pattern := ofParts ((ps.flatMap parts).foldr glue [])

/-- The patterns of which one is to match. -/
def choices : Pattern → List Pattern
  | alt p q => p :: choices q
  | p => [p]

def ofChoices : List Pattern → Pattern
  | [] => char .empty
  | [p] => p
  | p :: rest => alt p (ofChoices rest)

/-- One of some patterns. Characters make a set; what else is to be done is left to `build`. -/
def chooseBy (build : List Pattern → Pattern) (ps : List Pattern) : Pattern :=
  match ps.flatMap choices with
  | [p] => p
  | ps => match ps.mapM set? with
    | some sets => ofSet (.unions sets)
    | none => build ps

/-- What two lists have in common at the front. -/
def commonFront : List Pattern → List Pattern → List Pattern
  | p :: ps, q :: qs => if p = q then p :: commonFront ps qs else []
  | _, _ => []

/-- One of some patterns, of which none is for a single part of the text. What all of them begin with
comes before the choice. -/
def liftFront (ps : List Pattern) : Pattern :=
  match ps.map parts with
  | [] => ofChoices []
  | first :: others =>
    let front := if (first :: others).all (2 ≤ ·.length) then others.foldl commonFront first else []
    if front.isEmpty then ofChoices ps
    else
      let ends := (first :: others).map fun l => sequence (l.drop front.length)
      sequence (front ++ [chooseBy ofChoices ends])

/-- One of some patterns. -/
def choice (ps : List Pattern) : Pattern := chooseBy liftFront ps

/-- Whether the pattern matches nothing but the empty text. -/
def isBare : Pattern → Bool
  | empty | edge _ => true
  | literal _ | char _ => false
  | seq p q | alt p q => isBare p && isBare q
  | .repeat p _ _ | group _ p => isBare p

/-- A pattern so many times. What matches the empty text only need not match it twice. -/
def times (p : Pattern) (least : Nat) (most : Option Nat) : Pattern :=
  let (least, most) :=
    if p.isBare then (min least 1, some (min (most.getD 1) 1)) else (least, most)
  if most = some 0 then empty
  else if least = 1 ∧ most = some 1 then p
  else .repeat p least most

/-- The names of its groups. -/
def names : Pattern → List String
  | seq p q | alt p q => names p ++ names q
  | .repeat p _ _ => names p
  | group name p => name.toList ++ names p
  | _ => []

/-! ## Matches

A list of truth values marks places of a text, from the one before the first character to the one behind
the last. -/

/-- The marked places, moved over one character each that passes a test. -/
def advance (test : Char → Bool) (text : List Char) (marks : List Bool) : List Bool :=
  false :: List.zipWith (fun mark c => mark && test c) marks text

/-- The marked places at which a condition holds. -/
def keepEdges (e : PatternEdge) (text : List Char) (marks : List Bool) : List Bool :=
  let chars := text.map some
  List.zipWith (fun mark (before, after) => mark && e.holds before after) marks
    ((none :: chars).zip (chars ++ [none]))

/-- The places that one of two lists marks. -/
def unite (a b : List Bool) : List Bool := List.zipWith (· || ·) a b

/-- Applies a step a number of times, as long as that changes anything. -/
def stepTimes (step : List Bool → List Bool) : Nat → List Bool → List Bool
  | 0, marks => marks
  | n + 1, marks =>
    let further := step marks
    if further = marks then marks else stepTimes step n further

/-- The places that at most a number of steps lead to, `latest` being those that are new. -/
def stepUpTo (step : List Bool → List Bool) : Nat → List Bool → List Bool → List Bool
  | 0, seen, _ => seen
  | n + 1, seen, latest =>
    let fresh := List.zipWith (fun now before => now && !before) (step latest) seen
    if fresh.any id then stepUpTo step n (unite seen fresh) fresh else seen

/-- The places at which a match from one of the marked places may end. -/
def ends (text : List Char) : Pattern → List Bool → List Bool
  | empty, marks => marks
  | literal cs, marks => cs.foldl (fun marks c => advance (· == c) text marks) marks
  | char s, marks => advance s.contains text marks
  | edge e, marks => keepEdges e text marks
  | seq p q, marks => ends text q (ends text p marks)
  | alt p q, marks => unite (ends text p marks) (ends text q marks)
  | .repeat p least most, marks =>
    let start := stepTimes (ends text p) least marks
    let further := match most with
      | some most => min (most - least) (text.length + 1)
      | none => text.length + 1
    stepUpTo (ends text p) further start start
  | group _ p, marks => ends text p marks

/-- Whether the pattern matches somewhere in the text. -/
def occursIn (p : Pattern) (text : String) : Bool :=
  let chars := text.toList
  (ends chars p (List.replicate (chars.length + 1) true)).any id

end Pattern

end BackOffice
