import BackOffice.Proofs.Context.Reads
import BackOffice.Proofs.Record.Keyed
import BackOffice.Table.Page

/-!
Pages as they are written and read again. Keys of either style are read, those in camel case before the others. So a
page that is put among values comes back as it was only because nothing is left there under the keys of the other
style, whatever stood under them before.
-/

namespace BackOffice

namespace PageStyle

/-- The keys that a page is written under. -/
def keys (style : PageStyle) : List String := [style.indexKey, style.sizeKey]

theorem sizeKey_ne_indexKey (style : PageStyle) : style.sizeKey ≠ style.indexKey := by
  cases style <;> decide

/-- No key is of both styles. -/
theorem notMem_other_keys (style : PageStyle) : ∀ key ∈ style.keys, key ∉ style.other.keys := by
  cases style <;> decide

theorem indexKey_notMem_other (style : PageStyle) : style.indexKey ∉ style.other.keys :=
  style.notMem_other_keys _ List.mem_cons_self

theorem sizeKey_notMem_other (style : PageStyle) : style.sizeKey ∉ style.other.keys :=
  style.notMem_other_keys _ (List.mem_cons_of_mem _ List.mem_cons_self)

end PageStyle

namespace Context

theorem member?_toJson (c : Context) (key : String) : c.toJson.member? key = c.values.find? key :=
  Keyed.find?_sorted c.values key

end Context

namespace Page

variable {p : Page} {style : PageStyle} {v : Json}

theorem of_index_size (p : Page) : of p.index p.size = p := by
  simp [of, Nat.max_eq_left p.index_pos, Nat.max_eq_left p.size_pos]

/-- A count is read from the number it is written as. -/
theorem lenientCount?_ofNat (n : Nat) : lenientCount? (.ofNat n) = some n := by
  simp [lenientCount?, Json.ofNat, Json.whole, Json.nat?]

/-- Whether a value has a page under the keys of a style and nothing under those of the other. -/
structure StandsIn (p : Page) (style : PageStyle) (v : Json) : Prop where
  index : v.member? style.indexKey = some (.ofNat p.index)
  size : v.member? style.sizeKey = some (.ofNat p.size)
  alone : ∀ key ∈ style.other.keys, v.member? key = none

/-- A member that stands under the key of one style alone is read there. -/
theorem member?_of_alone {key : PageStyle → String} {n : Nat} (hkey : v.member? (key style) = some (.ofNat n))
    (hother : v.member? (key style.other) = none) : member? v key = some n := by
  cases style with
  | camel => rw [member?, hkey, Option.bind_some, lenientCount?_ofNat, Option.some_or]
  | snake =>
    rw [PageStyle.other] at hother
    rw [member?, hother, hkey, Option.bind_none, Option.none_or, Option.bind_some, lenientCount?_ofNat]

/-- A page that stands alone in a value is the page that the value asks for. -/
theorem StandsIn.ofJson_eq (h : p.StandsIn style v) (defaultSize : Nat) : ofJson v defaultSize = p := by
  have hindex : member? v PageStyle.indexKey = some p.index :=
    member?_of_alone h.index (h.alone _ (by simp [PageStyle.keys]))
  have hsize : member? v PageStyle.sizeKey = some p.size :=
    member?_of_alone h.size (h.alone _ (by simp [PageStyle.keys]))
  rw [ofJson, hindex, hsize, Option.getD_some, Option.getD_some, of_index_size]

theorem standsIn_toJson (p : Page) (style : PageStyle) : p.StandsIn style (p.toJson style) where
  index := by simp [toJson, Json.member?, Json.members?, Keyed.find?]
  size := by
    have hbeq : (style.sizeKey == style.indexKey) = false := by simpa using style.sizeKey_ne_indexKey
    simp [toJson, Json.member?, Json.members?, Keyed.find?, List.lookup_cons, hbeq]
  alone key hkey := by
    have hindex : key ≠ style.indexKey := ne_of_mem_of_not_mem hkey style.indexKey_notMem_other
    have hsize : key ≠ style.sizeKey := ne_of_mem_of_not_mem hkey style.sizeKey_notMem_other
    simp [toJson, Json.member?, Json.members?, Keyed.find?, hindex, hsize]

/-! ### In a context -/

/-- What stands under each key once a page is put into a context. -/
theorem find?_writeInto (p : Page) (style : PageStyle) (c : Context) (key : String) :
    (p.writeInto style c).values.find? key =
      if key ∈ style.other.keys then none
      else if key = style.sizeKey then some (.ofNat p.size)
      else if key = style.indexKey then some (.ofNat p.index)
      else c.values.find? key := by
  simp only [writeInto, Context.set, Context.remove, Keyed.find?_erase, Keyed.find?_put, PageStyle.keys,
    List.mem_cons, List.not_mem_nil, or_false]
  by_cases hsize : key = style.other.sizeKey
  · simp [hsize]
  · simp [hsize]

theorem standsIn_writeInto (p : Page) (style : PageStyle) (c : Context) :
    p.StandsIn style (p.writeInto style c).toJson where
  index := by
    rw [Context.member?_toJson, find?_writeInto, if_neg style.indexKey_notMem_other,
      if_neg style.sizeKey_ne_indexKey.symm, if_pos rfl]
  size := by rw [Context.member?_toJson, find?_writeInto, if_neg style.sizeKey_notMem_other, if_pos rfl]
  alone key hkey := by rw [Context.member?_toJson, find?_writeInto, if_pos hkey]

/-- A page that is put into a context, whatever is there before, is the page that the values of the context then ask
for; nothing stands there under the other style's keys, and under every key that is of neither style there is what
was there. The page written by itself is read back too. -/
theorem page_survives_context (p : Page) (style : PageStyle) (c : Context) (defaultSize : Nat) :
    ofJson (p.writeInto style c).toJson defaultSize = p ∧
      (∀ key ∈ style.other.keys, key ∉ (p.writeInto style c).values.keys) ∧
      (∀ key, key ∉ style.keys → key ∉ style.other.keys →
        (p.writeInto style c).values.find? key = c.values.find? key) ∧
      ofJson (p.toJson style) defaultSize = p := by
  refine ⟨(p.standsIn_writeInto style c).ofJson_eq defaultSize, fun key hkey => ?_, fun key hown hother => ?_,
    (p.standsIn_toJson style).ofJson_eq defaultSize⟩
  · have hnone : (p.writeInto style c).values.find? key = none := by rw [find?_writeInto, if_pos hkey]
    exact Keyed.find?_eq_none_iff.1 hnone
  · simp only [PageStyle.keys, List.mem_cons, List.not_mem_nil, or_false, not_or] at hown
    rw [find?_writeInto, if_neg hother, if_neg hown.2, if_neg hown.1]

/-- Values with what was left of pages in both styles, some of it no count at all. -/
def leftovers : Context where
  values := [("page_index", .ofNat 9), ("pageSize", .str "all"), ("seed", .ofNat 1), ("page_size", .ofNat 4)]

theorem page_among_leftovers :
    "page_index" ∈ leftovers.values.keys ∧
      "page_index" ∉ ((of 2 25).writeInto .camel leftovers).values.keys ∧
      ((of 2 25).writeInto .camel leftovers).values.find? "seed" = some (.ofNat 1) ∧
      ofJson ((of 2 25).writeInto .camel leftovers).toJson 10 = of 2 25 := by
  obtain ⟨hread, hgone, hkept, -⟩ := page_survives_context (of 2 25) .camel leftovers 10
  exact ⟨by decide, hgone _ (by decide), hkept "seed" (by decide) (by decide), hread⟩

end Page

end BackOffice
