import BackOffice.Text.CaseTable

/-!
Lower case for all scripts. A capital sigma becomes the final form at the end of a word, and a capital
I with a dot becomes two characters; every other character goes to one.
-/

namespace BackOffice

namespace LowerCase

/-- Whether the first character that is not passed over has case. -/
def meetsCased (cs : List Char) : Bool :=
  match cs.dropWhile (inRanges CaseTable.ignorable) with
  | c :: _ => inRanges CaseTable.cased c
  | [] => false

/-- The lower-case form of a character between the text before it, nearest first, and the text after
it. -/
def ofChar (before : List Char) (c : Char) (after : List Char) : List Char :=
  if c = 'İ' then ['i', '\u0307']
  else if c = 'Σ' then [if meetsCased before && !meetsCased after then 'ς' else 'σ']
  else [Shift.apply CaseTable.lower c]

def ofChars (before : List Char) : List Char → List Char
  | [] => []
  | c :: after => ofChar before c after ++ ofChars (c :: before) after

end LowerCase

/-- The text in lower case. -/
def lowerCase (text : String) : String := String.ofList (LowerCase.ofChars [] text.toList)

/-- The text with the letters A to Z in lower case. -/
def lowerAscii (text : String) : String := String.ofList (text.toList.map Char.toLower)

/-- Whether one run of characters occurs in another. -/
def hasPart (part : List Char) : List Char → Bool
  | [] => part.isEmpty
  | c :: rest => part.isPrefixOf (c :: rest) || hasPart part rest

/-- The characters before the first occurrence of a character and those after it. -/
def splitAtFirst (sep : Char) : List Char → Option (List Char × List Char)
  | [] => none
  | c :: rest =>
    if c = sep then some ([], rest)
    else (splitAtFirst sep rest).map fun (front, back) => (c :: front, back)

/-- Replaces the occurrences of a non-empty run of characters, from the left. -/
def replaceAll (part by_ : List Char) (cs : List Char) : List Char :=
  go cs.length cs
where
  go : Nat → List Char → List Char
    | 0, cs => cs
    | _ + 1, [] => []
    | fuel + 1, c :: rest =>
      if part ≠ [] ∧ part.isPrefixOf (c :: rest) then by_ ++ go fuel ((c :: rest).drop part.length)
      else c :: go fuel rest

end BackOffice
