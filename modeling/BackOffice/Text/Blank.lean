import BackOffice.Text.CharRanges

/-!
White space of all scripts. The no-break space and the ideographic space belong to it; the zero-width
space and the byte order mark do not.
-/

namespace BackOffice

/-- White space. -/
def isBlank : Char → Bool :=
  inRanges [(0x09, 0x0D), (0x20, 0x20), (0x85, 0x85), (0xA0, 0xA0), (0x1680, 0x1680),
    (0x2000, 0x200A), (0x2028, 0x2029), (0x202F, 0x202F), (0x205F, 0x205F), (0x3000, 0x3000)]

/-- The characters without the white space in front. -/
def trimFront (cs : List Char) : List Char := cs.dropWhile isBlank

/-- The characters without the white space behind. -/
def trimBack (cs : List Char) : List Char := (cs.reverse.dropWhile isBlank).reverse

/-- The text without the white space around it. -/
def trim (text : String) : String := String.ofList (trimBack (trimFront text.toList))

/-- Whether nothing but white space is in the text. -/
def isBlankText (text : String) : Bool := text.toList.all isBlank

theorem isBlank_of_isWhitespace {c : Char} (h : c.isWhitespace = true) : isBlank c = true := by
  simp only [Char.isWhitespace, Bool.or_eq_true, decide_eq_true_eq] at h
  rcases h with ((h | h) | h) | h <;> subst h <;> rfl

end BackOffice
