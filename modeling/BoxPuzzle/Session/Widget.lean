import BoxPuzzle.Grid.Givens

/-!
# The grid widget

The widget holds what the user sees and edits: the side of the grid, the givens and, once there is
one, the solution.
-/

namespace BoxPuzzle

/-- The state of the grid on the screen. -/
structure Widget where
  side : UInt32 := 0
  givens : Givens := .empty
  solution : Option Givens := none
deriving DecidableEq, Repr, Inhabited

namespace Widget

/-- Changes the side of the grid and leaves the givens as they are. -/
def resize (w : Widget) (n : UInt32) : Widget := { w with side := n }

/-- Fills a cell. -/
def setGiven (w : Widget) (c : Cell) (d : UInt32) : Widget :=
  { w with givens := w.givens.insert c d }

/-- Empties a cell. -/
def clearGiven (w : Widget) (c : Cell) : Widget := { w with givens := w.givens.erase c }

/-- Shows a solution, or none. -/
def display (w : Widget) (solution : Option Givens) : Widget := { w with solution }

end Widget

end BoxPuzzle
