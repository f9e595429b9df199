import BackOffice.Json.Printer

/-!
The text of a JSON value over several lines: each item and each member on a line of its own, indented by
two blanks more than what it is part of. Empty arrays and objects stay on one line.
-/

namespace BackOffice.Json

/-- A new line at a depth. -/
def freshLine (depth : Nat) : List Char := '\n' :: List.replicate (2 * depth) ' '

mutual

/-- The characters of a value at a depth. -/
def indented (depth : Nat) : Json → List Char
  | arr (v :: rest) => '[' :: indentedItems (depth + 1) (v :: rest) ++ freshLine depth ++ [']']
  | obj (m :: rest) => '{' :: indentedMembers (depth + 1) (m :: rest) ++ freshLine depth ++ ['}']
  | v => v.chars

def indentedItems (depth : Nat) : List Json → List Char
  | [] => []
  | [v] => freshLine depth ++ indented depth v
  | v :: rest => freshLine depth ++ indented depth v ++ ',' :: indentedItems depth rest

def indentedMembers (depth : Nat) : List (String × Json) → List Char
  | [] => []
  | [(key, v)] => freshLine depth ++ quoted key ++ ':' :: ' ' :: indented depth v
  | (key, v) :: rest =>
    freshLine depth ++ quoted key ++ ':' :: ' ' :: indented depth v ++ ',' :: indentedMembers depth rest

end

/-- The text of a value over several lines. -/
def indentedText (v : Json) : String := String.ofList (v.indented 0)

end BackOffice.Json
