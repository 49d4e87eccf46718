import BoxPuzzle.Layout.Host

/-!
# Laying out a grid

Layout runs in three passes over a style. The first draws the box borders and sizes the cells from
the width of the container; the second sets the type size from the cell that the host then shows;
the third sets the width of a row, which is the measured row times the number of cells. That
product usually exceeds the container, which is reported and not corrected.

* `cellWidthFor`: the size of a cell;
* `frameRules`, `typeRules`, `rowRule`: the rules of the passes;
* `Anomaly`, `Report`: what came out;
* `Style.layOut`: the passes on top of the rules that are there;
* `Style.relayOut`: the passes on a cleared style.
-/

namespace BoxPuzzle

variable {α : Type} [Length α]

/-- The width of a cell: the container without its gutter, divided into boxes, each without its
gutter, divided into cells, each without its borders. -/
def cellWidthFor (container : α) (shape : BoxShape) : α :=
  Length.floor ((((container - Length.ofCount 5) / Length.ofCount shape.width) -
    Length.ofCount 4) / Length.ofCount shape.height - Length.ofCount 2)

/-- The line around a box. -/
def boxLine : Value α := .border 5 "black"

/-- The rules of the first pass: box borders and square cells of size `cell`. -/
def frameRules (shape : BoxShape) (cell : α) : List (Rule α) :=
  [⟨.columnEdge shape.width, "border-right", boxLine⟩,
    ⟨.rowEdge shape.height, "border-bottom", boxLine⟩,
    ⟨.cells, "width", .length cell⟩,
    ⟨.cells, "height", .length cell⟩]

/-- The size of the type in a cell of this width. -/
def fontSize (measured : α) : α := measured * (0.9 : α)

/-- The rules of the second pass: the size of the type in cells of width `measured`. -/
def typeRules (measured : α) : List (Rule α) :=
  [⟨.cells, "font-size", .length (fontSize measured)⟩,
    ⟨.cells, "line-height", .length measured⟩]

/-- The rule of the third pass. -/
def rowRule (row : α) : Rule α := ⟨.rows, "width", .length row⟩

/-- Something odd about a layout. -/
inductive Anomaly (α : Type) where
  /-- The container is too narrow for the grid. -/
  | nonPositiveCell (cell : α)
  /-- The rows are wider than the container. -/
  | rowExceedsContainer (row container : α)
deriving Repr

/-- The lengths of a layout and what is odd about them. -/
structure Report (α : Type) where
  container : α
  cell : α
  measured : α
  font : α
  line : α
  row : α
  anomalies : List (Anomaly α)
deriving Repr

/-- What is odd about a layout with these lengths. -/
def anomalies (container cell row : α) : List (Anomaly α) :=
  (if cell ≤ Length.ofCount 0 then [.nonPositiveCell cell] else []) ++
    (if container < row then [.rowExceedsContainer row container] else [])

namespace Style

/-- The style after the first pass. -/
def framed (s : Style α) (container : α) (shape : BoxShape) : Style α :=
  s.addAll (frameRules shape (cellWidthFor container shape))

/-- The style after the second pass. -/
def typed (s : Style α) (host : Host α) (container : α) (shape : BoxShape) : Style α :=
  (s.framed container shape).addAll (typeRules (host.cellWidth (s.framed container shape)))

/-- The row width of the third pass, measured after the second. -/
def scaledRow (host : Host α) (typed : Style α) (shape : BoxShape) : Checked α := do
  let row ← host.rowWidth typed
  let side ← shape.side
  return row * Length.ofCount side

/-- Runs the three passes. The rules of the first two stay when the third overflows. -/
def layOut (s : Style α) (host : Host α) (container : α) (shape : BoxShape) :
    Style α × Checked (Report α) :=
  let cell := cellWidthFor container shape
  let measured := host.cellWidth (s.framed container shape)
  let typed := s.typed host container shape
  match scaledRow host typed shape with
  | .error e => (typed, .error e)
  | .ok row =>
    (typed.add (rowRule row),
      .ok { container, cell, measured, font := fontSize measured, line := measured, row,
            anomalies := anomalies container cell row })

/-- Clears the style and lays the grid out in the host's container. -/
def relayOut (s : Style α) (host : Host α) (shape : BoxShape) : Style α × Checked (Report α) :=
  s.cleared.layOut host host.container shape

end Style

end BoxPuzzle
