import BackOffice.Json.Value
import BackOffice.Text.Hex

/-!
Reading JSON text. Containers may nest 127 deep; a text must hold one value and nothing but white space
around it. Reading keeps a member that is repeated, and `Json.parse` then merges: the last value wins,
at the place of the first.

A number with a fraction, with an exponent, or beyond the 64-bit words is a float, and minus zero is
one too. Such a numeral is read as its longest run of leading digits that fits an unsigned word, taken
times or divided by a power of ten, with the rounding of each of the two steps; a value beyond the
doubles is refused.
-/

namespace BackOffice

namespace JsonNumber

/-- The digits in front, as long as their value fits an unsigned word; with the number of digits used
and of digits left over. -/
def fittingDigits (start : Nat) : List Char → Nat × Nat × Nat
  | [] => (start, 0, 0)
  | c :: rest =>
    let next := 10 * start + (c.toNat - 48)
    if next < Nat.pow 2 64 then
      let (value, used, left) := fittingDigits next rest
      (value, used + 1, left)
    else (start, 0, rest.length + 1)

/-- Divides by powers of ten until the exponent is within the powers that doubles hold. -/
def scaleDown (x : Float) (exponent : Nat) : (fuel : Nat) → Float
  | 0 => 0
  | fuel + 1 =>
    if exponent ≤ 308 then x / Float.ofScientific 1 false exponent
    else if x == 0 then x
    else scaleDown (x / Float.ofScientific 1 false 308) (exponent - 308) fuel

/-- `digits · 10 ^ exponent` as a double; none if it is too large. -/
def scale (digits : Nat) (exponent : Int) : Option Float :=
  let x := Float.ofScientific digits false 0
  if exponent < 0 then some (scaleDown x exponent.natAbs 5)
  else if 308 < exponent then if x == 0 then some x else none
  else
    let y := x * Float.ofScientific 1 false exponent.toNat
    if y.isInf then none else some y

/-- The number with given digits before and after the point, and exponent. -/
def ofParts (minus : Bool) (front : List Char) (back : Option (List Char)) (exponent : Option Int) :
    Option JsonNumber :=
  let (n, _, left) := fittingDigits 0 front
  let float (digits : Nat) (e : Int) : Option JsonNumber :=
    (scale digits (e + exponent.getD 0)).map fun x => JsonNumber.float (if minus then -x else x)
  match back, exponent with
  | none, none =>
    if left ≠ 0 then float n left
    else if minus then if n = 0 ∨ Nat.pow 2 63 < n then float n 0 else some (whole (-n))
    else some (whole n)
  | some back, _ =>
    let (m, used, _) := fittingDigits n back
    float m ((left : Int) - used)
  | none, some _ => float n left

end JsonNumber

namespace Json

/-- White space between tokens is space, tab, line feed and carriage return. -/
def isGap (c : Char) : Bool := c == ' ' || c == '\t' || c == '\n' || c == '\r'

def skipGap (cs : List Char) : List Char := cs.dropWhile isGap

/-- A unit of four hexadecimal digits. -/
def hexUnit? (a b c d : Char) : Option Nat := do
  let a ← hexDigit? a
  let b ← hexDigit? b
  let c ← hexDigit? c
  let d ← hexDigit? d
  some (4096 * a + 256 * b + 16 * c + d)

/-- The character that a backslash and a letter stand for. -/
def simpleEscape? : Char → Option Char
  | '"' => some '"'
  | '\\' => some '\\'
  | '/' => some '/'
  | 'b' => some '\x08'
  | 'f' => some '\x0c'
  | 'n' => some '\n'
  | 'r' => some '\r'
  | 't' => some '\t'
  | _ => none

/-- A part of a quoted text: a character, or a unit that may be half of one. -/
inductive Piece where
  | char (c : Char)
  | unit (n : Nat)

/-- The pieces up to the closing quote, and what follows it; the opening quote has been read. Control
characters have to be escaped. -/
def pieces? : List Char → Option (List Piece × List Char)
  | [] => none
  | '"' :: rest => some ([], rest)
  | '\\' :: 'u' :: a :: b :: c :: d :: rest => do
    let n ← hexUnit? a b c d
    let (front, rest) ← pieces? rest
    some (.unit n :: front, rest)
  | '\\' :: c :: rest => do
    let c ← simpleEscape? c
    let (front, rest) ← pieces? rest
    some (.char c :: front, rest)
  | c :: rest =>
    if c.toNat < 0x20 ∨ c = '\\' then none
    else (pieces? rest).map fun (front, rest) => (.char c :: front, rest)

/-- A high surrogate needs a low one behind it, and a low one a high one before it. -/
def joined? : List Piece → Option (List Char)
  | [] => some []
  | .char c :: rest => (joined? rest).map (c :: ·)
  | .unit high :: .unit low :: rest =>
    if 0xD800 ≤ high ∧ high < 0xDC00 then
      if 0xDC00 ≤ low ∧ low < 0xE000 then
        (joined? rest).map (Char.ofNat (0x10000 + (high - 0xD800) * 0x400 + (low - 0xDC00)) :: ·)
      else none
    else if 0xDC00 ≤ high ∧ high < 0xE000 then none
    else (joined? (.unit low :: rest)).map (Char.ofNat high :: ·)
  | .unit n :: rest =>
    if 0xD800 ≤ n ∧ n < 0xE000 then none else (joined? rest).map (Char.ofNat n :: ·)

/-- A text after its opening quote. -/
def textRest? (cs : List Char) : Option (String × List Char) := do
  let (front, rest) ← pieces? cs
  let chars ← joined? front
  some (String.ofList chars, rest)

/-- Digits from the front, at least one. -/
def digits? (cs : List Char) : Option (List Char × List Char) :=
  match cs.takeWhile Char.isDigit with
  | [] => none
  | front => some (front, cs.dropWhile Char.isDigit)

/-- The digits of a whole number, without a superfluous zero in front. -/
def wholeDigits? (cs : List Char) : Option (List Char × List Char) := do
  let (front, rest) ← digits? cs
  if front.head? = some '0' ∧ front.length ≠ 1 then none else some (front, rest)

/-- The value of an exponent, `e` already read. An exponent of eleven digits stands for all beyond. -/
def exponentRest? (cs : List Char) : Option (Int × List Char) := do
  let (minus, cs) := match cs with
    | '-' :: rest => (true, rest)
    | '+' :: rest => (false, rest)
    | cs => (false, cs)
  let (front, rest) ← digits? cs
  let value : Nat := ((front.dropWhile (· = '0')).take 11).foldl (fun n c => 10 * n + (c.toNat - 48)) 0
  some (if minus then -(value : Int) else value, rest)

/-- The digits behind the point, if there is a point. -/
def fraction? : List Char → Option (Option (List Char) × List Char)
  | '.' :: rest => (digits? rest).map fun (back, rest) => (some back, rest)
  | rest => some (none, rest)

/-- The exponent, if there is one. -/
def exponent? : List Char → Option (Option Int × List Char)
  | 'e' :: rest => (exponentRest? rest).map fun (e, rest) => (some e, rest)
  | 'E' :: rest => (exponentRest? rest).map fun (e, rest) => (some e, rest)
  | rest => some (none, rest)

/-- A number. -/
def number? (cs : List Char) : Option (JsonNumber × List Char) := do
  let (minus, cs) := match cs with
    | '-' :: rest => (true, rest)
    | cs => (false, cs)
  let (front, rest) ← wholeDigits? cs
  let (back, rest) ← fraction? rest
  let (exponent, rest) ← exponent? rest
  let n ← JsonNumber.ofParts minus front back exponent
  some (n, rest)

/-- A value that is no container, after its gap. -/
def scalar? : List Char → Option (Json × List Char)
  | 'n' :: 'u' :: 'l' :: 'l' :: rest => some (null, rest)
  | 't' :: 'r' :: 'u' :: 'e' :: rest => some (bool true, rest)
  | 'f' :: 'a' :: 'l' :: 's' :: 'e' :: rest => some (bool false, rest)
  | '"' :: rest => (textRest? rest).map fun (s, rest) => (str s, rest)
  | cs => (number? cs).map fun (n, rest) => (num n, rest)

/-- One or more items with commas between them, up to the closing bracket. -/
def separated? {α : Type} (item : List Char → Option (α × List Char)) (close : Char) : Nat → List Char → Option (List α × List Char)
  | 0, _ => none
  | fuel + 1, cs => do
    let (first, rest) ← item cs
    match skipGap rest with
    | ',' :: rest => (separated? item close fuel rest).map fun (more, rest) => (first :: more, rest)
    | c :: rest => if c = close then some ([first], rest) else none
    | [] => none

/-- The content of a container after its opening bracket. -/
def content? {α : Type} (item : List Char → Option (α × List Char)) (close : Char) (cs : List Char) : Option (List α × List Char) :=
  match skipGap cs with
  | c :: rest => if c = close then some ([], rest) else separated? item close cs.length (c :: rest)
  | [] => none

/-- A member: a name in quotes, a colon, a value. -/
def memberFrom? (value : List Char → Option (Json × List Char)) (cs : List Char) : Option ((String × Json) × List Char) :=
  match skipGap cs with
  | '"' :: rest => do
    let (key, rest) ← textRest? rest
    match skipGap rest with
    | ':' :: rest => (value rest).map fun (v, rest) => ((key, v), rest)
    | _ => none
  | _ => none

/-- A value in which containers nest at most `depth` deep, after a gap. -/
def value? : (depth : Nat) → List Char → Option (Json × List Char)
  | 0, cs => scalar? (skipGap cs)
  | depth + 1, cs =>
    match skipGap cs with
    | '[' :: rest => (content? (value? depth) ']' rest).map fun (items, rest) => (arr items, rest)
    | '{' :: rest =>
      (content? (memberFrom? (value? depth)) '}' rest).map fun (members, rest) => (obj members, rest)
    | cs => scalar? cs

/-- How deep containers may nest. -/
def maxDepth : Nat := 127

/-- The value of a text, with repeated members kept. -/
def read? (text : String) : Option Json := do
  let (v, rest) ← value? maxDepth text.toList
  if skipGap rest = [] then some v else none

mutual

/-- Every name once in every object: the last value, at the first place. -/
def merged : Json → Json
  | arr items => arr (mergedItems items)
  | obj members => obj (mergedMembers [] members)
  | v => v

def mergedItems : List Json → List Json
  | [] => []
  | v :: rest => merged v :: mergedItems rest

def mergedMembers (done : Keyed Json) : List (String × Json) → Keyed Json
  | [] => done
  | (key, v) :: rest => mergedMembers (done.put key (merged v)) rest

end

/-- The value of a text. -/
def parse (text : String) : Option Json := (read? text).map merged

theorem length_of_pieces? {cs rest : List Char} {ps : List Piece} (h : pieces? cs = some (ps, rest)) :
    ps.length + rest.length < cs.length := by
  fun_induction pieces? cs generalizing ps rest with
  | case1 => simp at h
  | case2 rest' => simp only [Option.some.injEq, Prod.mk.injEq] at h; obtain ⟨rfl, rfl⟩ := h; simp
  | case3 a b c d rest' ih =>
    simp only [Option.bind_eq_bind, Option.bind_eq_some_iff, Option.some.injEq, Prod.mk.injEq] at h
    obtain ⟨n, _, ⟨front, rest''⟩, hp, rfl, rfl⟩ := h
    have := ih hp
    simp only [List.length_cons] at this ⊢
    omega
  | case4 c rest' _ ih =>
    simp only [Option.bind_eq_bind, Option.bind_eq_some_iff, Option.some.injEq, Prod.mk.injEq] at h
    obtain ⟨d, _, ⟨front, rest''⟩, hp, rfl, rfl⟩ := h
    have := ih hp
    simp only [List.length_cons] at this ⊢
    omega
  | case5 => simp at h
  | case6 c rest' _ _ _ _ ih =>
    obtain ⟨⟨front, rest''⟩, hp, he⟩ := Option.map_eq_some_iff.1 h
    obtain ⟨rfl, rfl⟩ := Prod.mk.injEq .. ▸ he
    have := ih hp
    simp only [List.length_cons] at this ⊢
    omega

theorem length_of_joined? {ps : List Piece} {cs : List Char} (h : joined? ps = some cs) :
    cs.length ≤ ps.length := by
  fun_induction joined? ps generalizing cs <;> grind [Option.map_eq_some_iff]

theorem merged_eq_str {v : Json} {s : String} (h : merged v = str s) : v = str s := by
  cases v <;> simp_all [merged]

theorem length_of_scalar? {cs rest : List Char} {s : String} (h : scalar? cs = some (str s, rest)) :
    s.length < cs.length := by
  unfold scalar? at h
  split at h
  · simp at h
  · simp at h
  · simp at h
  · simp only [textRest?, Option.bind_eq_bind, Option.map_eq_some_iff, Option.bind_eq_some_iff,
      Option.some.injEq, Prod.mk.injEq] at h
    obtain ⟨⟨s', rest'⟩, ⟨⟨ps, rest''⟩, hp, chars, hj, he⟩, hs, _⟩ := h
    obtain ⟨rfl, rfl⟩ := he
    have hs : String.ofList chars = s := by simpa using hs
    have := length_of_pieces? hp
    have : chars.length ≤ ps.length := length_of_joined? hj
    rw [← hs, String.length_ofList, List.length_cons]
    omega
  · simp at h

/-- A text inside a text is shorter than the one that it was read from. -/
theorem length_of_parse {text s : String} (h : parse text = some (str s)) :
    s.length < text.length := by
  obtain ⟨v, hv, he⟩ := Option.map_eq_some_iff.1 h
  obtain rfl := merged_eq_str he
  simp only [read?, Option.bind_eq_bind, Option.bind_eq_some_iff] at hv
  obtain ⟨⟨v, rest⟩, hv, hr⟩ := hv
  have hv : value? maxDepth text.toList = some (str s, rest) := by
    split at hr <;> simp_all
  have hgap : (skipGap text.toList).length ≤ text.toList.length :=
    (List.dropWhile_suffix _).length_le
  have hs : s.length < (skipGap text.toList).length := by
    rw [maxDepth, value?] at hv
    split at hv
    · simp at hv
    · simp at hv
    · exact length_of_scalar? hv
  have := String.length_toList (s := text)
  omega

end Json

end BackOffice
