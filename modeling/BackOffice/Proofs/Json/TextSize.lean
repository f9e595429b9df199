import BackOffice.Json.Parser
import BackOffice.Text.Blank

/-!
How many bytes a text takes in UTF-8 and in quotes. Whatever escapes are used, a character takes no more bytes by itself
than it takes between the quotes: an escaped one has a backslash and at least one character more, and four bytes
are enough for every character that is given by its number. So a text in quotes is longer by the quotes at least.
-/

namespace BackOffice

namespace Json

/-- The bytes of some characters in UTF-8. -/
def byteSize (cs : List Char) : Nat := (String.ofList cs).utf8ByteSize

theorem byteSize_append (front back : List Char) : byteSize (front ++ back) = byteSize front + byteSize back := by
  rw [byteSize, String.ofList_append, String.utf8ByteSize_append, byteSize, byteSize]

@[simp] theorem byteSize_cons (c : Char) (cs : List Char) : byteSize (c :: cs) = c.utf8Size + byteSize cs := by
  have hone : byteSize [c] = c.utf8Size := String.utf8ByteSize_singleton
  rw [← List.singleton_append, byteSize_append, hone]

theorem byteSize_toList (text : String) : byteSize text.toList = text.utf8ByteSize := by
  rw [byteSize, String.ofList_toList]

theorem byteSize_le_of_sublist {some all : List Char} (h : some.Sublist all) : byteSize some ≤ byteSize all := by
  induction h with
  | slnil => exact Nat.le_refl _
  | cons c _ ih =>
    rw [byteSize_cons]
    omega
  | cons_cons c _ ih =>
    rw [byteSize_cons, byteSize_cons]
    omega

theorem utf8ByteSize_trim_le (text : String) : (trim text).utf8ByteSize ≤ text.utf8ByteSize := by
  have hfront : (trimFront text.toList).Sublist text.toList := List.dropWhile_sublist _
  have hback : (trimBack (trimFront text.toList)).Sublist (trimFront text.toList) := by
    have hreverse := (List.dropWhile_sublist (l := (trimFront text.toList).reverse) isBlank).reverse
    rwa [List.reverse_reverse] at hreverse
  rw [← byteSize_toList text]
  exact byteSize_le_of_sublist (hback.trans hfront)

/-- The bytes that a piece of a text takes at the most. -/
def Piece.size : Piece → Nat
  | .char c => c.utf8Size
  | .unit _ => 4

def sizeOfPieces : List Piece → Nat
  | [] => 0
  | p :: ps => p.size + sizeOfPieces ps

theorem utf8Size_of_simpleEscape? {c d : Char} (h : simpleEscape? c = some d) : d.utf8Size = 1 := by
  unfold simpleEscape? at h
  split at h <;> cases h <;> rfl

/-- The pieces take fewer bytes than what is read for them, the closing quote included. -/
theorem sizeOfPieces_of_pieces? {cs rest : List Char} {ps : List Piece} (h : pieces? cs = some (ps, rest)) :
    sizeOfPieces ps + byteSize rest < byteSize cs := by
  fun_induction pieces? cs generalizing ps rest with
  | case1 => simp at h
  | case2 rest' =>
    simp only [Option.some.injEq, Prod.mk.injEq] at h
    obtain ⟨rfl, rfl⟩ := h
    have := Char.utf8Size_pos '"'
    simp only [sizeOfPieces, byteSize_cons]
    omega
  | case3 a b c d rest' ih =>
    simp only [Option.bind_eq_bind, Option.bind_eq_some_iff, Option.some.injEq, Prod.mk.injEq] at h
    obtain ⟨n, _, ⟨front, rest''⟩, hp, rfl, rfl⟩ := h
    have := ih hp
    -- the four digits alone take as many bytes as the character that they stand for may take
    have := Char.utf8Size_pos a
    have := Char.utf8Size_pos b
    have := Char.utf8Size_pos c
    have := Char.utf8Size_pos d
    simp only [sizeOfPieces, Piece.size, byteSize_cons]
    omega
  | case4 c rest' _ ih =>
    simp only [Option.bind_eq_bind, Option.bind_eq_some_iff, Option.some.injEq, Prod.mk.injEq] at h
    obtain ⟨d, hd, ⟨front, rest''⟩, hp, rfl, rfl⟩ := h
    have := ih hp
    have := utf8Size_of_simpleEscape? hd
    have := Char.utf8Size_pos c
    simp only [sizeOfPieces, Piece.size, byteSize_cons]
    omega
  | case5 => simp at h
  | case6 c rest' _ _ _ _ ih =>
    obtain ⟨⟨front, rest''⟩, hp, he⟩ := Option.map_eq_some_iff.1 h
    obtain ⟨rfl, rfl⟩ := Prod.mk.injEq .. ▸ he
    have := ih hp
    simp only [sizeOfPieces, Piece.size, byteSize_cons]
    omega

theorem byteSize_of_map_cons {more? : Option (List Char)} {cs : List Char} {c : Char} {size bound : Nat}
    (h : more?.map (c :: ·) = some cs) (hc : c.utf8Size ≤ size)
    (hmore : ∀ {more}, more? = some more → byteSize more ≤ bound) : byteSize cs ≤ size + bound := by
  obtain ⟨more, hsome, rfl⟩ := Option.map_eq_some_iff.1 h
  rw [byteSize_cons]
  exact Nat.add_le_add hc (hmore hsome)

/-- Two halves of a pair make one character, which takes no more bytes than one of them may. -/
theorem byteSize_of_joined? {ps : List Piece} {cs : List Char} (h : joined? ps = some cs) :
    byteSize cs ≤ sizeOfPieces ps := by
  fun_induction joined? ps generalizing cs with
  | case1 =>
    obtain rfl := Option.some.inj h
    exact Nat.zero_le _
  | case2 c rest ih => exact byteSize_of_map_cons h (Nat.le_refl c.utf8Size) ih
  | case3 high low rest _ _ ih =>
    have hpair := byteSize_of_map_cons h (Char.utf8Size_le_four _) ih
    simp only [sizeOfPieces, Piece.size]
    omega
  | case4 => cases h
  | case5 => cases h
  | case6 high low rest _ _ ih => exact byteSize_of_map_cons h (Char.utf8Size_le_four _) ih
  | case7 => cases h
  | case8 n rest _ _ ih => exact byteSize_of_map_cons h (Char.utf8Size_le_four _) ih

/-- What is read for a text in quotes takes more bytes than the text. -/
theorem byteSize_of_textRest? {cs rest : List Char} {s : String} (h : textRest? cs = some (s, rest)) :
    s.utf8ByteSize + byteSize rest < byteSize cs := by
  simp only [textRest?, Option.bind_eq_bind, Option.bind_eq_some_iff, Option.some.injEq, Prod.mk.injEq] at h
  obtain ⟨⟨ps, rest'⟩, hp, chars, hj, rfl, rfl⟩ := h
  have hpieces := sizeOfPieces_of_pieces? hp
  have hjoined : (String.ofList chars).utf8ByteSize ≤ sizeOfPieces ps := byteSize_of_joined? hj
  dsimp only
  omega

/-- A text that holds another one holds it between quotes. -/
theorem exists_textRest?_of_parse {text s : String} (h : parse text = some (str s)) :
    ∃ body rest, skipGap text.toList = '"' :: body ∧ textRest? body = some (s, rest) := by
  obtain ⟨v, hv, hmerged⟩ := Option.map_eq_some_iff.1 h
  obtain rfl := merged_eq_str hmerged
  simp only [read?, Option.bind_eq_bind, Option.bind_eq_some_iff] at hv
  obtain ⟨⟨v, rest⟩, hv, hend⟩ := hv
  obtain ⟨-, rfl⟩ : skipGap rest = [] ∧ v = str s := by simpa using hend
  have hscalar : scalar? (skipGap text.toList) = some (str s, rest) := by
    rw [maxDepth, value?] at hv
    split at hv
    · simp at hv
    · simp at hv
    · exact hv
  unfold scalar? at hscalar
  split at hscalar
  next => cases hscalar
  next => cases hscalar
  next => cases hscalar
  next body hbody =>
    obtain ⟨⟨s', rest'⟩, hs, he⟩ := Option.map_eq_some_iff.1 hscalar
    obtain ⟨hs', rfl⟩ := Prod.mk.inj he
    obtain rfl := Json.str.inj hs'
    exact ⟨body, rest', hbody, hs⟩
  next => simp at hscalar

/-- A text that holds another one takes more bytes, at least by its quotes. -/
theorem utf8ByteSize_of_parse {text s : String} (h : parse text = some (str s)) :
    s.utf8ByteSize + 2 ≤ text.utf8ByteSize := by
  obtain ⟨body, rest, hbody, hrest⟩ := exists_textRest?_of_parse h
  have hgap : byteSize (skipGap text.toList) ≤ byteSize text.toList :=
    byteSize_le_of_sublist (List.dropWhile_sublist _)
  have hinner := byteSize_of_textRest? hrest
  have hquote := Char.utf8Size_pos '"'
  rw [hbody, byteSize_cons, byteSize_toList] at hgap
  omega

end Json

end BackOffice
