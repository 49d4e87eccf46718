import BoxPuzzle.Grid.Shape
import BoxPuzzle.Layout.Length
import BoxPuzzle.Layout.Style

/-!
# Hosts

A host renders the grid and measures it: the container, and under the rules of a style a cell and
a row.

* `Host`: the three measurements;
* `Host.fixed`: a host that always answers the same;
* `BoxModel`, `BoxModel.host`: a host that computes what a page with bordered cells would show.
-/

namespace BoxPuzzle

variable {α : Type}

/-- The measurements of a rendered grid. -/
structure Host (α : Type) where
  container : α
  cellWidth : Style α → α
  rowWidth : Style α → Checked α

/-- A host that does not look at the style. -/
def Host.fixed (container cell row : α) : Host α where
  container := container
  cellWidth _ := cell
  rowWidth _ := .ok row

/-- A page on which every cell has a thin border on each side, and the last cell of a box has a
wide one on its right. -/
structure BoxModel (α : Type) where
  container : α
  cellBorder : α
  boxBorder : α
deriving Repr

namespace BoxModel

variable [Length α]

/-- Cell borders of one pixel and box borders of five. -/
def standard (container : α) : BoxModel α := ⟨container, Length.ofCount 1, Length.ofCount 5⟩

/-- The width of a cell: that of the rule in effect. -/
def cellWidth (_ : BoxModel α) (s : Style α) : α :=
  Length.nonNegative ((s.length? .cells "width").getD (Length.ofCount 0))

/-- The width of a row of as many cells as a box has, with `down` boxes in it. -/
def rowWidth (m : BoxModel α) (s : Style α) : Checked α := do
  let (across, down) := s.periods?.getD (1, 1)
  let cells ← wordProduct across down
  let outer := m.cellWidth s + Length.ofCount 2 * m.cellBorder
  return Length.ofCount cells * outer + Length.ofCount down * (m.boxBorder - m.cellBorder)

/-- The measurements on such a page. -/
def host (m : BoxModel α) : Host α where
  container := m.container
  cellWidth := m.cellWidth
  rowWidth := m.rowWidth

end BoxModel

end BoxPuzzle
