import BackOffice.Config.Lazy
import BackOffice.Proofs.Json.RoundTrip

/-!
A configuration resolves the same however it arrives: as a value, as the text of the value, as the text of such a text
and so on, or held back as text until it is asked for. What it resolves to is a value of the declared shape, and
resolves to itself.
-/

namespace BackOffice

/-! ### Text without white space around it -/

theorem isBlank_of_isNumeral {c : Char} (h : isNumeral c = true) : isBlank c = false := by
  simp only [isNumeral, Bool.or_eq_true, beq_iff_eq] at h
  obtain ((((h | rfl) | rfl) | rfl) | rfl) | rfl := h
  case inl =>
    have hdigit : 48 ≤ c.toNat ∧ c.toNat ≤ 57 := Char.isDigit_iff_toNat.1 h
    simp only [isBlank, inRanges, List.any_cons, List.any_nil, Bool.or_false, Bool.or_eq_false_iff,
      Bool.and_eq_false_iff, decide_eq_false_iff_not]
    omega
  all_goals rfl

theorem trim_eq_self {s : String} {c d : Char} {back front : List Char} (hfront : s.toList = c :: back)
    (hback : s.toList = front ++ [d]) (hc : isBlank c = false) (hd : isBlank d = false) : trim s = s := by
  have htrimFront : trimFront s.toList = s.toList := by
    rw [hfront, trimFront, List.dropWhile_cons_of_neg (by simp [hc])]
  have htrimBack : trimBack s.toList = s.toList := by
    rw [hback, trimBack, List.reverse_append, List.reverse_singleton, List.singleton_append,
      List.dropWhile_cons_of_neg (by simp [hd]), List.reverse_cons, List.reverse_reverse]
  rw [trim, htrimFront, htrimBack, String.ofList_toList]

namespace Json

theorem isBlank_of_opens {c : Char} (h : opens c = true) : isBlank c = false := by
  simp only [opens, Bool.or_eq_true, beq_iff_eq] at h
  obtain (((((rfl | rfl) | rfl) | rfl) | rfl) | rfl) | h := h
  case inr => exact isBlank_of_isNumeral h
  all_goals rfl

/-- The text of a value ends with a character that is not white space. -/
theorem chars_eq_concat {depth : Nat} {v : Json} (hv : Proper depth v) (hf : v.FloatsReadBack) :
    ∃ front d, v.chars = front ++ [d] ∧ isBlank d = false := by
  cases v with
  | null => exact ⟨['n', 'u', 'l'], 'l', rfl, rfl⟩
  | bool b =>
    cases b
    · exact ⟨['f', 'a', 'l', 's'], 'e', rfl, rfl⟩
    · exact ⟨['t', 'r', 'u'], 'e', rfl, rfl⟩
  | str s => exact ⟨'"' :: s.toList.flatMap escape, '"', by simp [chars, quoted], rfl⟩
  | arr items => exact ⟨'[' :: itemChars items, ']', by simp [chars], rfl⟩
  | obj members => exact ⟨'{' :: memberChars members, '}', by simp [chars], rfl⟩
  | num n =>
    have hread := hv.readsBack hf
    have hlast := List.dropLast_concat_getLast hread.ne_nil
    exact ⟨_, _, hlast.symm, isBlank_of_isNumeral (hread.isNumeral _ (List.getLast_mem hread.ne_nil))⟩

/-- Nothing is trimmed from the text of a value. -/
theorem trim_text {depth : Nat} {v : Json} (hv : Proper depth v) (hf : v.FloatsReadBack) : trim v.text = v.text := by
  obtain ⟨c, back, hfront, hc⟩ := chars_eq_cons hv hf
  obtain ⟨front, d, hback, hd⟩ := chars_eq_concat hv hf
  have htext : v.text.toList = v.chars := String.toList_ofList
  exact trim_eq_self (htext.trans hfront) (htext.trans hback) (isBlank_of_opens hc) hd

/-- The text of a value, encoded `n` more times as a text of JSON. -/
def encoded (v : Json) : (n : Nat) → String
  | 0 => v.text
  | n + 1 => (str (encoded v n)).text

end Json

namespace Config

open Json

variable {shape : ConfigShape}

theorem ofText_of_blank {text : String} (h : trim text = "" ∨ trim text = "null") : ofText shape text = empty shape := by
  rw [ofText, if_pos h]

theorem ofText_of_malformed {text : String} (h : ¬(trim text = "" ∨ trim text = "null"))
    (hparse : Json.parse (trim text) = none) : ofText shape text = rejected shape .malformed := by
  rw [ofText, if_neg h]
  split <;> simp_all

/-- A text that holds a value resolves to what the value resolves to. -/
theorem ofText_of_parse {text : String} {v : Json} (h : ¬(trim text = "" ∨ trim text = "null"))
    (hparse : Json.parse (trim text) = some v) : ofText shape text = ofJson shape v := by
  rw [ofText, if_neg h]
  split
  next hnone => cases hparse.symm.trans hnone
  next inner hinner =>
    obtain rfl := Option.some.inj (hparse.symm.trans hinner)
    rfl
  next w hstr hw =>
    obtain rfl := Option.some.inj (hparse.symm.trans hw)
    cases v with
    | str s => exact absurd rfl (hstr s)
    | _ => rfl

/-- The text of a value resolves to what the value itself resolves to. -/
theorem ofText_text {v : Json} (hv : Proper maxDepth v) (hf : v.FloatsReadBack) (shape : ConfigShape) :
    ofText shape v.text = ofJson shape v := by
  have hparse := parse_text hv hf
  have htrim := trim_text hv hf
  by_cases hnull : v.text = "null"
  · -- only null has this text, and is the empty configuration as well
    have hsame : v.text = null.text := hnull
    have hread : parse v.text = some null := hsame ▸ parse_text .null nofun
    obtain rfl : v = null := Option.some.inj (hparse.symm.trans hread)
    exact ofText_of_blank (.inr (htrim.trans hnull))
  · have hempty : v.text ≠ "" := fun hempty => by
      rw [hempty] at hparse
      cases hparse
    rw [← htrim] at hnull hempty hparse
    exact ofText_of_parse (not_or.2 ⟨hempty, hnull⟩) hparse

theorem ofText_encoded {v : Json} (hv : Proper maxDepth v) (hf : v.FloatsReadBack) (shape : ConfigShape) (n : Nat) :
    ofText shape (v.encoded n) = ofJson shape v := by
  induction n with
  | zero => exact ofText_text hv hf shape
  | succ n ih => exact (ofText_text (.str _) nofun shape).trans ih

theorem resolved_withShape {v : Json} (hv : Proper maxDepth v) (hf : v.FloatsReadBack) (shape : ConfigShape) :
    ((LazyConfig.ofJson v).withShape shape).resolved = ofJson shape v := by
  cases v with
  | null => rfl
  | str s => rfl
  | _ => exact ofText_text hv hf shape

/-- What a configuration of a shape comes to: nothing, a fault, or a value that was read. -/
inductive Settled (shape : ConfigShape) : Config → Prop
  | empty : Settled shape (empty shape)
  | rejected (fault : ConfigFault) : Settled shape (rejected shape fault)
  | given {v : Json} (hv : Proper maxDepth v) (haccepts : shape.accepts v = true) : Settled shape ⟨v, none⟩

theorem settled_ofDecoded {v : Json} (hv : Proper maxDepth v) : Settled shape (ofDecoded shape v) := by
  unfold ofDecoded
  split
  · exact .empty
  · split
    next haccepts => exact .given hv haccepts
    next => exact .rejected _

theorem settled_ofText (text : String) : Settled shape (ofText shape text) := by
  induction text using ofText.induct with
  | case1 text hblank =>
    rw [ofText_of_blank hblank]
    exact .empty
  | case2 text hblank hparse =>
    rw [ofText_of_malformed hblank hparse]
    exact .rejected _
  | case3 text hblank inner hparse hlt ih =>
    rw [ofText_of_parse hblank hparse]
    exact ih
  | case4 text hblank v hstr hparse =>
    rw [ofText_of_parse hblank hparse]
    have hdecoded : ofJson shape v = ofDecoded shape v := by
      cases v with
      | str s => exact absurd rfl (hstr s)
      | _ => rfl
    rw [hdecoded]
    exact settled_ofDecoded (proper_of_parse hparse)

theorem settled_ofText? (raw : Option String) : Settled shape (ofText? shape raw) := by
  cases raw with
  | none => exact .empty
  | some text => exact settled_ofText text

theorem Settled.accepts {c : Config} (h : Settled shape c) : shape.accepts c.value = true := by
  cases h with
  | empty => cases shape <;> rfl
  | rejected fault => cases shape <;> rfl
  | given hv haccepts => exact haccepts

theorem Settled.value_of_fault {c : Config} (h : Settled shape c) (hfault : c.fault.isSome = true) :
    c.value = shape.empty := by
  cases h with
  | empty => rfl
  | rejected fault => rfl
  | given hv haccepts => cases hfault

theorem Settled.proper {c : Config} (h : Settled shape c) : Proper maxDepth c.value := by
  have hempty : Proper maxDepth shape.empty := by
    cases shape
    · exact .obj List.nodup_nil nofun
    · exact .arr nofun
  cases h with
  | empty => exact hempty
  | rejected fault => exact hempty
  | given hv haccepts => exact hv

theorem ofJson_of_accepts {v : Json} (h : shape.accepts v = true) : ofJson shape v = ⟨v, none⟩ := by
  cases shape with
  | object =>
    cases v with
    | obj members => rfl
    | _ => cases h
  | array =>
    cases v with
    | arr items => rfl
    | _ => cases h

theorem Settled.ofText_value {c : Config} (h : Settled shape c) (hf : c.value.FloatsReadBack) :
    ofText shape c.value.text = ⟨c.value, none⟩ := by
  rw [ofText_text h.proper hf, ofJson_of_accepts h.accepts]

/-- However a configuration arrives, it resolves the same; and whatever arrives, it resolves to a value of the declared
shape, which is the empty one if there is something wrong, and which its own text resolves to. -/
theorem resolves_however_encoded :
    (∀ (v : Json) (shape : ConfigShape), Proper 127 v → v.FloatsReadBack →
      (∀ n, ofText shape (v.encoded n) = ofJson shape v) ∧
        ((LazyConfig.ofJson v).withShape shape).resolved = ofJson shape v) ∧
      ∀ (raw : Option String) (shape : ConfigShape),
        shape.accepts (ofText? shape raw).value = true ∧
          ((ofText? shape raw).fault.isSome = true → (ofText? shape raw).value = shape.empty) ∧
          ((ofText? shape raw).value.FloatsReadBack →
            ofText shape (ofText? shape raw).value.text = ⟨(ofText? shape raw).value, none⟩) := by
  refine ⟨fun v shape hv hf => ⟨ofText_encoded hv hf shape, resolved_withShape hv hf shape⟩, fun raw shape => ?_⟩
  have hsettled : Settled shape (ofText? shape raw) := settled_ofText? raw
  exact ⟨hsettled.accepts, hsettled.value_of_fault, hsettled.ofText_value⟩

theorem fraction_resolves_however_encoded :
    Proper 127 (.arr [.num (.float 1.5)]) ∧ FloatsReadBack (.arr [.num (.float 1.5)]) ∧
      ofText .array (encoded (.arr [.num (.float 1.5)]) 2) = ⟨.arr [.num (.float 1.5)], none⟩ ∧
      ofText .array (ofText? .array (some (encoded (.arr [.num (.float 1.5)]) 2))).value.text =
        ⟨.arr [.num (.float 1.5)], none⟩ := by
  have hproper : Proper 127 (.arr [.num (.float 1.5)]) := .arr (List.forall_mem_singleton.2 (.float 1.5))
  have hfloats : FloatsReadBack (.arr [.num (.float 1.5)]) := List.forall_mem_singleton.2 (by decide +kernel)
  have hencoded : ofText? .array (some (encoded (.arr [.num (.float 1.5)]) 2)) = ⟨.arr [.num (.float 1.5)], none⟩ :=
    (resolves_however_encoded.1 _ .array hproper hfloats).1 2
  have hback := (resolves_however_encoded.2 (some (encoded (.arr [.num (.float 1.5)]) 2)) .array).2.2
  rw [hencoded] at hback
  exact ⟨hproper, hfloats, hencoded, hencoded ▸ hback hfloats⟩

end Config

end BackOffice
