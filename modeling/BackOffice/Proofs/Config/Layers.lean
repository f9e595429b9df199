import BackOffice.Proofs.Config.Encodings
import BackOffice.Proofs.Json.TextSize

/-!
The texts that a configuration is resolved through. A text may hold another one in quotes, which is then resolved in
its place, and so on. Each of them takes fewer bytes than the one around it, so there is an innermost one, which holds
no text in quotes, and all of them resolve to the same.
-/

namespace BackOffice

namespace Config

/-- Whether a text holds another one in quotes. -/
def Wraps (outer inner : String) : Prop := Json.parse (trim outer) = some (.str inner)

variable {shape : ConfigShape} {text outer inner : String}

theorem wraps_iff : Wraps outer inner ↔ (Json.parse (trim outer)).bind Json.text? = some inner := by
  rw [Wraps, Option.bind_eq_some_iff]
  constructor
  · exact fun h => ⟨_, h, rfl⟩
  · rintro ⟨v, hv, htext⟩
    cases v with
    | str s => rw [hv, Option.some.inj htext]
    | _ => cases htext

instance : Decidable (Wraps outer inner) := decidable_of_iff' _ wraps_iff

theorem Wraps.utf8ByteSize_lt (h : Wraps outer inner) : inner.utf8ByteSize < outer.utf8ByteSize := by
  have hinner := Json.utf8ByteSize_of_parse h
  have htrim := Json.utf8ByteSize_trim_le outer
  omega

/-- The texts that a text is resolved through, from itself to the innermost one. -/
def layers (text : String) : List String :=
  match h : Json.parse (trim text) with
  | some (.str inner) =>
    have : inner.utf8ByteSize < text.utf8ByteSize := Wraps.utf8ByteSize_lt h
    text :: layers inner
  | _ => [text]
termination_by text.utf8ByteSize

/-- What a text that holds no other one resolves to. -/
def ofInnermost (shape : ConfigShape) (text : String) : Config :=
  if trim text = "" ∨ trim text = "null" then empty shape
  else match Json.parse (trim text) with
    | none => rejected shape .malformed
    | some v => ofDecoded shape v

theorem layers_of_wraps (h : Wraps outer inner) : layers outer = outer :: layers inner := by
  rw [layers]
  split
  next other hother =>
    obtain rfl := Json.str.inj (Option.some.inj (h.symm.trans hother))
    rfl
  next hnone => exact absurd h (hnone inner)

theorem layers_of_innermost (h : ∀ inner, ¬Wraps text inner) : layers text = [text] := by
  rw [layers]
  split
  next inner hinner => exact absurd hinner (h inner)
  next => rfl

/-- What holds of every innermost text, and goes over from a text to the one around it, holds of all. -/
theorem layers_induction {P : String → Prop} (innermost : ∀ text, (∀ inner, ¬Wraps text inner) → P text)
    (wraps : ∀ outer inner, Wraps outer inner → P inner → P outer) (text : String) : P text := by
  induction text using layers.induct with
  | case1 text inner hinner _ ih => exact wraps text inner hinner ih
  | case2 text hnone => exact innermost text hnone

theorem ofText_of_wraps (h : Wraps outer inner) (shape : ConfigShape) :
    ofText shape outer = ofJson shape (.str inner) := by
  have hempty : trim outer ≠ "" := fun hempty => by
    rw [Wraps, hempty] at h
    cases h
  have hnull : trim outer ≠ "null" := fun hnull => by
    rw [Wraps, hnull] at h
    have hread : Json.parse "null" = some .null := Json.parse_text .null nofun
    cases hread.symm.trans h
  exact ofText_of_parse (not_or.2 ⟨hempty, hnull⟩) h

theorem ofText_of_innermost (h : ∀ inner, ¬Wraps text inner) (shape : ConfigShape) :
    ofText shape text = ofInnermost shape text := by
  rw [ofText, ofInnermost]
  split
  next => rfl
  next =>
    split
    next hnone => rw [hnone]
    next inner hinner => exact absurd hinner (h inner)
    next v _ hv => rw [hv]

theorem head?_layers (text : String) : (layers text).head? = some text := by
  rw [layers]
  split <;> rfl

theorem isChain_layers (text : String) : (layers text).IsChain Wraps := by
  induction text using layers_induction with
  | innermost text h =>
    rw [layers_of_innermost h]
    exact .singleton text
  | wraps outer inner h ih =>
    obtain ⟨more, hmore⟩ := List.head?_eq_some_iff.1 (head?_layers inner)
    rw [hmore] at ih
    rw [layers_of_wraps h, hmore, List.isChain_cons_cons]
    exact ⟨h, ih⟩

theorem length_layers_le (text : String) : 2 * (layers text).length ≤ text.utf8ByteSize + 2 := by
  induction text using layers_induction with
  | innermost text h =>
    rw [layers_of_innermost h, List.length_singleton]
    omega
  | wraps outer inner h ih =>
    have hinner := Json.utf8ByteSize_of_parse h
    have htrim := Json.utf8ByteSize_trim_le outer
    rw [layers_of_wraps h, List.length_cons]
    omega

/-- The innermost text tells what all of them resolve to. -/
theorem exists_innermost (text : String) :
    ∃ last, (layers text).getLast? = some last ∧ (∀ inner, ¬Wraps last inner) ∧
      ∀ shape, ofText shape text = ofInnermost shape last := by
  induction text using layers_induction with
  | innermost text h => exact ⟨text, by rw [layers_of_innermost h]; rfl, h, ofText_of_innermost h⟩
  | wraps outer inner h ih =>
    obtain ⟨last, hlast, hends, hresolves⟩ := ih
    refine ⟨last, ?_, hends, fun shape => (ofText_of_wraps h shape).trans (hresolves shape)⟩
    rw [layers_of_wraps h, List.getLast?_cons, hlast, Option.getD_some]

/-- A text that is held by another one in quotes takes fewer bytes, at least by the two quotes, whatever the escapes.
So every text is resolved through finitely many texts, each held by the one before it: no more than half of its bytes
and one. They all resolve to the same, which is what the last one, which holds no text, resolves to at once. -/
theorem resolving_ends :
    (∀ outer inner, Wraps outer inner →
      inner.utf8ByteSize + 2 ≤ (trim outer).utf8ByteSize ∧ (trim outer).utf8ByteSize ≤ outer.utf8ByteSize ∧
        ∀ shape, ofText shape outer = ofJson shape (.str inner) ∧ ofJson shape (.str inner) = ofText shape inner) ∧
      ∀ text, (layers text).head? = some text ∧ (layers text).IsChain Wraps ∧
        2 * (layers text).length ≤ text.utf8ByteSize + 2 ∧
        ∃ last, (layers text).getLast? = some last ∧ (∀ inner, ¬Wraps last inner) ∧
          ∀ shape, ofText shape text = ofInnermost shape last :=
  ⟨fun outer _ h => ⟨Json.utf8ByteSize_of_parse h, Json.utf8ByteSize_trim_le outer,
      fun shape => ⟨ofText_of_wraps h shape, rfl⟩⟩,
    fun text => ⟨head?_layers text, isChain_layers text, length_layers_le text, exists_innermost text⟩⟩

/-- A list in quotes, its brackets and a character beyond the basic plane written as escapes. -/
def escapedList : String := "\"\\u005b\\\"\\ud83d\\ude00\\\"\\u005d\""

theorem escapedList_shrinks :
    Wraps escapedList "[\"😀\"]" ∧ escapedList.utf8ByteSize = 30 ∧ "[\"😀\"]".utf8ByteSize = 8 ∧
      "[\"😀\"]".utf8ByteSize + 2 ≤ escapedList.utf8ByteSize ∧
      ofText .array escapedList = ofText .array "[\"😀\"]" := by
  have hwraps : Wraps escapedList "[\"😀\"]" := by decide +kernel
  obtain ⟨hinner, htrim, hresolves⟩ := resolving_ends.1 _ _ hwraps
  exact ⟨hwraps, by decide, by decide, Nat.le_trans hinner htrim, (hresolves .array).1⟩

end Config

end BackOffice
