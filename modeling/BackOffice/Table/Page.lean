import BackOffice.Run.Context
import BackOffice.Table.Rows

/-!
Pages of a table. A page may be asked for under keys of either of two styles; it is written under those
of one style, and what was there under the other's is removed.
-/

namespace BackOffice

/-- How the keys of a page are spelled. -/
inductive PageStyle where
  | camel
  | snake
deriving DecidableEq, Repr, Inhabited

/-- A page by its index, from one on, and the number of rows on it. -/
structure Page where
  index : Nat
  size : Nat
  index_pos : 1 ≤ index := by omega
  size_pos : 1 ≤ size := by omega
deriving DecidableEq, Repr

namespace PageStyle

def indexKey : PageStyle → String
  | camel => "pageIndex"
  | snake => "page_index"

def sizeKey : PageStyle → String
  | camel => "pageSize"
  | snake => "page_size"

def other : PageStyle → PageStyle
  | camel => snake
  | snake => camel

def ofJson? : Json → Option PageStyle := Record.unit? [("camel", camel), ("snake", snake)]

def name : PageStyle → String
  | camel => "camel"
  | snake => "snake"

end PageStyle

namespace Page

/-- The page with an index and a size; zero stands for one. -/
def of (index size : Nat) : Page :=
  ⟨max index 1, max size 1, Nat.le_max_right .., Nat.le_max_right ..⟩

theorem index_of {index : Nat} (h : index ≠ 0) (size : Nat) : (of index size).index = index :=
  Nat.max_eq_left (Nat.pos_of_ne_zero h)

theorem size_of (index : Nat) {size : Nat} (h : size ≠ 0) : (of index size).size = size :=
  Nat.max_eq_left (Nat.pos_of_ne_zero h)

/-- The first page of a size. -/
def first (size : Nat) : Page := of 1 size

/-- A member of a page under either style, the one in camel case before the other. -/
def member? (v : Json) (key : PageStyle → String) : Option Nat :=
  ((v.member? (key .camel)).bind lenientCount?).or ((v.member? (key .snake)).bind lenientCount?)

/-- The page that a value asks for; what is missing or unreadable is the first page and the given
size. -/
def ofJson (v : Json) (defaultSize : Nat) : Page :=
  of ((member? v PageStyle.indexKey).getD 1) ((member? v PageStyle.sizeKey).getD defaultSize)

/-- The largest number of rows that can be passed over. -/
def maxOffset : Nat := Nat.pow 2 64 - 1

/-- The number of rows on the pages before. -/
def offset (p : Page) : Nat := min ((p.index - 1) * p.size) maxOffset

/-- The page under the keys of a style. -/
def toJson (p : Page) (style : PageStyle) : Json :=
  .obj [(style.indexKey, .ofNat p.index), (style.sizeKey, .ofNat p.size)]

/-- Puts the page into a context under the keys of a style, and those of the other style away. -/
def writeInto (p : Page) (style : PageStyle) (c : Context) : Context :=
  (((c.set style.indexKey (.ofNat p.index)).set style.sizeKey (.ofNat p.size)).remove
    style.other.indexKey).remove style.other.sizeKey

/-- The rows of the page. -/
def slice {α : Type} (p : Page) (rows : List α) : List α := (rows.drop p.offset).take p.size

end Page

end BackOffice
