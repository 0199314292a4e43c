import Companions.Viewport.Index
import Companions.Viewport.Length

/-! Which part of a long list has to be drawn. All items have one size, so the part follows from the
scroll offset by arithmetic. Inputs out of range are clamped and never refused. -/
namespace Companions

open Length

variable {α : Type} [Length α]

/-- The part of a list to draw at one scroll position; both indices belong to it. An empty list has
the indices 0 and an empty range. -/
structure Viewport (α : Type) where
  scroll : α
  first : UInt64
  last : UInt64
  total : α
  paint : α
  count : UInt64

namespace Viewport

def empty : Viewport α := ⟨zero, 0, 0, zero, zero, 0⟩

def isEmpty (v : Viewport α) : Bool := v.count == 0

/-- The index to start from and the one to stop before. -/
def range (v : Viewport α) : UInt64 × UInt64 := if v.isEmpty then (0, 0) else (v.first, v.last + 1)

def size (v : Viewport α) : UInt64 := Index.sub v.range.2 v.range.1

/-- The items that belong to the range. -/
def slice {β : Type} (v : Viewport α) (items : List β) : List β :=
  (items.drop v.range.1.toNat).take v.size.toNat

def maxScroll (count : UInt64) (extent container : α) : α :=
  Length.max (ofIndex count * soundExtent extent - soundOffset container) zero

/-- From the item at the scroll offset to the one at the far edge, and `overscan` more each way. -/
def compute (count : UInt64) (extent container : α) (overscan : UInt64) (scroll : α) : Viewport α :=
  if count = 0 then empty
  else
    let size := soundExtent extent
    let visible := soundOffset container
    let total := ofIndex count * size
    let offset := Length.min (soundOffset scroll) (Length.max (total - visible) zero)
    let bound := count - 1
    let first := Index.min (Index.sub (floorIndex (offset / size)) overscan) bound
    let last := Index.min (Index.add (floorIndex ((offset + visible) / size)) overscan) bound
    ⟨offset, first, last, total, ofIndex first * size, count⟩

end Viewport

/-- What stays the same while a list scrolls. -/
structure Geometry (α : Type) where
  extent : α
  container : α
  overscan : UInt64

namespace Geometry

def compute (g : Geometry α) (count : UInt64) (scroll : α) : Viewport α :=
  Viewport.compute count g.extent g.container g.overscan scroll

def maxScroll (g : Geometry α) (count : UInt64) : α :=
  Viewport.maxScroll count g.extent g.container

/-- The smallest change of the offset that shows the item whole. -/
def intoView (g : Geometry α) (index : UInt64) (scroll : α) : α :=
  let size := soundExtent g.extent
  let visible := soundOffset g.container
  let offset := soundOffset scroll
  let top := ofIndex index * size
  let bottom := top + size
  if lt top offset then top
  else if lt (offset + visible) bottom then Length.max (bottom - visible) zero
  else offset

end Geometry

/-- How wide a grid and its cards are. -/
structure Grid (α : Type) where
  width : α
  card : α
  gap : α

namespace Grid

/-- The cards that fit side by side, and at least one. -/
def perRow (g : Grid α) : UInt64 :=
  let width := soundOffset g.width
  let gap := soundOffset g.gap
  Index.max (floorIndex ((width + gap) / (soundExtent g.card + gap))) 1

/-- The rows to draw, as the range of their items; `overscan` counts rows. -/
def compute (g : Grid α) (count : UInt64) (extent container : α) (overscan : UInt64) (scroll : α) :
    Viewport α :=
  if count = 0 then .empty
  else
    let perRow := g.perRow
    let rows := Viewport.compute (Index.divUp count perRow) extent container overscan scroll
    let bound := count - 1
    { rows with
      first := Index.min (rows.first * perRow) bound
      last := Index.min ((rows.last + 1) * perRow - 1) bound
      count := count }

end Grid
end Companions
