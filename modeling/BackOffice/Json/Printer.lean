import BackOffice.Json.Value
import BackOffice.Decimal.Shortest

/-!
The text of a JSON value, without spaces. Characters beyond ASCII stay as they are, and members come
in the order of the object.
-/

namespace BackOffice

namespace JsonNumber

/-- The text of a number. -/
def chars : JsonNumber → List Char
  | whole n => (if n < 0 then ['-'] else []) ++ Decimal.digitsOf n.natAbs
  | float x => FloatLayout.json.write x

end JsonNumber

namespace Json

/-- A control character as four hexadecimal digits. -/
def controlEscape (c : Char) : List Char :=
  ['\\', 'u', '0', '0', Nat.digitChar (c.toNat / 16), Nat.digitChar (c.toNat % 16)]

/-- A character as it stands between the quotes of a text. -/
def escape (c : Char) : List Char :=
  match c with
  | '"' => ['\\', '"']
  | '\\' => ['\\', '\\']
  | '\x08' => ['\\', 'b']
  | '\t' => ['\\', 't']
  | '\n' => ['\\', 'n']
  | '\x0c' => ['\\', 'f']
  | '\r' => ['\\', 'r']
  | c => if c.toNat < 0x20 then controlEscape c else [c]

/-- A text in quotes. -/
def quoted (s : String) : List Char := '"' :: s.toList.flatMap escape ++ ['"']

mutual

/-- The characters of a value's text. -/
def chars : Json → List Char
  | null => ['n', 'u', 'l', 'l']
  | bool true => ['t', 'r', 'u', 'e']
  | bool false => ['f', 'a', 'l', 's', 'e']
  | num n => n.chars
  | str s => quoted s
  | arr items => '[' :: itemChars items ++ [']']
  | obj members => '{' :: memberChars members ++ ['}']

def itemChars : List Json → List Char
  | [] => []
  | [v] => chars v
  | v :: rest => chars v ++ ',' :: itemChars rest

def memberChars : List (String × Json) → List Char
  | [] => []
  | [(key, v)] => quoted key ++ ':' :: chars v
  | (key, v) :: rest => quoted key ++ ':' :: chars v ++ ',' :: memberChars rest

end

/-- The text of a value. -/
def text (v : Json) : String := String.ofList v.chars

end Json

end BackOffice
