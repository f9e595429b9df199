import BackOffice.Json.Parser
import BackOffice.Json.Printer

/-!
Text in quotes reads back, whatever its characters: each of them stands between the quotes as one
piece, and only control characters come back as units, which are never halves of a pair.
-/

namespace BackOffice

namespace Json

theorem hexUnit?_control {n : Nat} (h : n < 0x20) :
    hexUnit? '0' '0' (Nat.digitChar (n / 16)) (Nat.digitChar (n % 16)) = some n := by
  revert n
  decide

/-- A unit below the surrogates stands for itself, whatever follows. -/
theorem joined?_unit {n : Nat} (h : n < 0xD800) (ps : List Piece) :
    joined? (.unit n :: ps) = (joined? ps).map (Char.ofNat n :: ·) := by
  rw [joined?.eq_def]
  split <;> grind

/-- A character between the quotes is one piece, which stands for that character. -/
theorem piece_of_escape (c : Char) : ∃ p,
    (∀ rest ps r, pieces? rest = some (ps, r) → pieces? (escape c ++ rest) = some (p :: ps, r)) ∧
    ∀ ps, joined? (p :: ps) = (joined? ps).map (c :: ·) := by
  fun_cases escape c with
  | case8 c _ _ _ _ _ _ _ hc =>
    refine ⟨.unit c.toNat, fun rest ps r h => ?_, fun ps => ?_⟩
    · simp [controlEscape, pieces?, hexUnit?_control hc, h]
    · rw [joined?_unit (by omega), Char.ofNat_toNat]
  | case9 c hquote hslash _ _ _ _ _ hc =>
    refine ⟨.char c, fun rest ps r h => ?_, fun ps => rfl⟩
    rw [List.singleton_append, pieces?, if_neg (not_or.2 ⟨hc, hslash⟩), h]
    · rfl
    · exact hquote
    · intro _ _ _ _ _ hu
      exact absurd hu hslash
    · intro _ _ hu
      exact absurd hu hslash
  | _ =>
    refine ⟨.char _, fun rest ps r h => ?_, fun ps => rfl⟩
    simp [pieces?, simpleEscape?, h]

/-- The text between the quotes, read from the opening quote on. -/
theorem textRest?_quoted (s : String) (rest : List Char) :
    textRest? (s.toList.flatMap escape ++ '"' :: rest) = some (s, rest) := by
  have hread (cs : List Char) : ∃ ps,
      pieces? (cs.flatMap escape ++ '"' :: rest) = some (ps, rest) ∧ joined? ps = some cs := by
    induction cs with
    | nil => exact ⟨[], by simp [pieces?], rfl⟩
    | cons c cs ih =>
      obtain ⟨ps, hps, hcs⟩ := ih
      obtain ⟨p, hp, hj⟩ := piece_of_escape c
      refine ⟨p :: ps, ?_, ?_⟩
      · simpa using hp _ _ _ hps
      · rw [hj, hcs]
        rfl
  obtain ⟨ps, hps, hs⟩ := hread s.toList
  simp [textRest?, hps, hs]

end Json

end BackOffice
