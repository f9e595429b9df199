/-!
Texts in base 64: four characters stand for three bytes, and equals signs fill up the last four. White
space counts for nothing. Each list of bytes has one written form.
-/

namespace BackOffice.Base64

/-- The value of a character: six bits. -/
def digit? (c : Char) : Option Nat :=
  if 'A' ≤ c ∧ c ≤ 'Z' then some (c.toNat - 65)
  else if 'a' ≤ c ∧ c ≤ 'z' then some (c.toNat - 71)
  else if c.isDigit then some (c.toNat + 4)
  else if c = '+' then some 62
  else if c = '/' then some 63
  else none

/-- The bytes of characters in groups of four; no bits may be left over. -/
def bytes? : List Char → Option (List UInt8)
  | [] => some []
  | [a, b, '=', '='] => do
    let n := 64 * (← digit? a) + (← digit? b)
    if n % 16 = 0 then some [.ofNat (n / 16)] else none
  | [a, b, c, '='] => do
    let n := 64 * (64 * (← digit? a) + (← digit? b)) + (← digit? c)
    if n % 4 = 0 then some [.ofNat (n / 1024), .ofNat (n / 4)] else none
  | a :: b :: c :: d :: rest => do
    let n := 64 * (64 * (64 * (← digit? a) + (← digit? b)) + (← digit? c)) + (← digit? d)
    some (.ofNat (n / 65536) :: .ofNat (n / 256) :: .ofNat n :: (← bytes? rest))
  | _ => none

/-- The text whose bytes are written in base 64. -/
def text? (written : String) : Option String :=
  (bytes? (written.toList.filter (!·.isWhitespace))).bind fun bytes =>
    String.fromUTF8? ⟨bytes.toArray⟩

example : text? "aGVsbG8=" = some "hello" := by decide +kernel
example : text? "QR==" = none := by decide +kernel

end BackOffice.Base64
