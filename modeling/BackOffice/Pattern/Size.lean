import BackOffice.Pattern.Basic
import Std.Data.HashMap

/-!
How large a pattern is. It is measured by the two machines that find its matches byte by byte, one from
the front of the text and one from the back: a state counts 32, a way out of it by a range of bytes 8,
and a branch 4. Repetitions are written out, and characters beyond ASCII take several bytes.
-/

namespace BackOffice

namespace CharSet

/-- Ranges for the bytes of a character, one after another. -/
abbrev ByteRanges := List (Nat × Nat)

/-- The largest ranges within `a` to `b` in which the last digits run through all their values; the
ranges are in order, and `unit` is the value of the lowest digit that is not looked at. -/
def pieces : (digits unit a b : Nat) → List (Nat × Nat)
  | 0, _, a, b => if a ≤ b then [(a, b)] else []
  | digits + 1, unit, a, b =>
    if b < a then []
    else if a / unit = b / unit then [(a, b)]
    else
      let first := if a % unit = 0 then a else (a / unit + 1) * unit
      let behind := if b % unit = unit - 1 then b + 1 else b / unit * unit
      (if a < first then [(a, first - 1)] else []) ++ pieces digits (64 * unit) first (behind - 1)
        ++ (if behind ≤ b then [(behind, b)] else [])

/-- The code points of each number of bytes, with the number of bytes behind the first one. -/
def blocks : List (Nat × Nat × Nat) :=
  [(0, 0x7F, 0), (0x80, 0x7FF, 1), (0x800, 0xD7FF, 2), (0xE000, 0xFFFF, 2), (0x10000, 0x10FFFF, 3)]

def bytes (code : Nat) : List Nat := (String.utf8EncodeChar (Char.ofNat code)).map UInt8.toNat

/-- The set as sequences of byte ranges, in order. -/
def byteRanges (s : CharSet) : List ByteRanges :=
  s.ranges.flatMap fun (a, b) => blocks.flatMap fun (low, high, digits) =>
    (pieces digits 64 (max a low) (min b high)).map fun (a, b) => (bytes a).zip (bytes b)

/-- States that were met, by the ways out of them, and what they count together. -/
structure Machine where
  states : Std.HashMap (List (Nat × Nat × Nat)) Nat := ∅
  size : Nat := 32

namespace Machine

/-- The state with some ways out, which is there once only. -/
def state (m : Machine) (ways : List (Nat × Nat × Nat)) : Nat × Machine :=
  match m.states[ways]? with
  | some id => (id, m)
  | none =>
    let id := m.states.size + 1
    (id, ⟨m.states.insert ways id, m.size + 32 + 8 * ways.length⟩)

/-- The state that reads one of some sequences up to a length; state zero has read all. -/
def reading : (length : Nat) → List ByteRanges → Machine → Nat × Machine
  | 0, _, m => (0, m)
  | length + 1, sequences, m =>
    if sequences.all List.isEmpty then (0, m)
    else
      let groups := sequences.splitBy fun s t => s.head? = t.head?
      let (ways, m) := groups.foldl (fun (ways, m) group =>
        let (id, m) := reading length (group.map List.tail) m
        (ways ++ (group.head?.bind List.head?).toList.map fun (a, b) => (a, b, id), m)) ([], m)
      m.state ways

end Machine

/-- The number of ranges that two sequences begin with in common. -/
def commonLength : ByteRanges → ByteRanges → Nat
  | r :: s, r' :: s' => if r = r' then commonLength s s' + 1 else 0
  | _, _ => 0

/-- The states and branches for sequences that are read from the back: what a sequence has in common
with the one before it is there already. -/
def backSize (previous : ByteRanges) : List ByteRanges → Nat
  | [] => 0
  | s :: rest => 32 * (s.length - commonLength previous s) + 4 + backSize s rest

/-- What one character of the set counts. -/
def size (back : Bool) (s : CharSet) : Nat :=
  if s.isAscii then 64 + 8 * s.ranges.length
  else if back then 64 + backSize [] s.byteRanges
  else (Machine.reading 4 s.byteRanges {}).2.size

end CharSet

namespace Pattern

/-- Whether every match has a character. -/
def advances : Pattern → Bool
  | empty | edge _ => false
  | literal _ => true
  | char s => !s.ranges.isEmpty
  | seq p q => advances p || advances q
  | alt p q => advances p && advances q
  | .repeat p least _ => 0 < least && advances p
  | group _ p => advances p

def isChoice : Pattern → Bool
  | alt _ _ => true
  | _ => false

/-- What `p` counts that is written out as a repetition, when it counts `n` once. -/
def repeatSize (p : Pattern) (n : Nat) : (least : Nat) → (most : Option Nat) → Nat
  | 0, none => n + if p.advances then 40 else 112
  | 0, some 1 => n + 72
  | least, none => least * n + 40
  | least, some most =>
    let front := if least = 0 then 32 else least * n
    if least = most then front else front + 32 + (most - least) * (n + 40)

/-- What the pattern counts, read from the back or from the front. Groups matter only from the front. -/
def size (back : Bool) : Pattern → Nat
  | empty | edge _ => 32
  | literal cs => 32 * (cs.map fun c => c.utf8Size).sum
  | char s => s.size back
  | seq p q => size back p + size back q
  | alt p q => size back p + size back q + if q.isChoice then 4 else 72
  | .repeat p least most => repeatSize p (size back p) least most
  | group _ p => size back p + if back then 0 else 64

/-- Whether every match begins at the start of the text. -/
def startsText : Pattern → Bool
  | edge .textStart => true
  | seq p q => startsText p || (p.isBare && startsText q)
  | alt p q => startsText p && startsText q
  | .repeat p least _ => 0 < least && startsText p
  | group _ p => startsText p
  | _ => false

/-- Whether every match ends at the end of the text. -/
def endsText : Pattern → Bool
  | edge .textEnd => true
  | seq p q => endsText q || (q.isBare && endsText p)
  | alt p q => endsText p && endsText q
  | .repeat p least _ => 0 < least && endsText p
  | group _ p => endsText p
  | _ => false

/-- The largest size of a machine. -/
def maxSize : Nat := 10 * Nat.pow 2 20

/-- Whether neither machine is too large. A search has to pass over the text before a match unless that
begins at the start, and from the front it marks where the match is. -/
def isFair (p : Pattern) : Bool :=
  p.size false + (if p.startsText then 32 else 112) + 96 ≤ maxSize
    && p.size true + (if p.endsText then 32 else 112) + 32 ≤ maxSize

end Pattern

end BackOffice
