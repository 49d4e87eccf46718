import BoxPuzzle.Text.Numeral

/-!
# Cells

A cell is a place of the grid, counted from zero, and is written `row,column`. Reading allows
blanks around either number.

* `Cell`, `Cell.before`: places and their row-by-row order;
* `Cell.within`: the cell lies in a grid of a given side;
* `Cell.text`, `Cell.ofText?`: the written form;
* `Placement`: a cell with the digit in it.
-/

namespace BoxPuzzle

/-- A place of the grid. -/
structure Cell where
  row : UInt32
  column : UInt32
deriving DecidableEq, Repr, Inhabited

namespace Cell

/-- The cell lies in a grid of side `n`. -/
def within (c : Cell) (n : UInt32) : Bool := c.row < n && c.column < n

/-- The order row by row, and within a row from the left; a cell comes before itself. -/
def before (a b : Cell) : Bool := a.row < b.row || (a.row == b.row && a.column ≤ b.column)

/-- The written form, as characters. -/
def chars (c : Cell) : List Char := numeral c.row.toNat ++ ',' :: numeral c.column.toNat

/-- The written form: the two numbers with a comma between them. -/
def text (c : Cell) : String := String.ofList c.chars

/-- Reads a cell from characters: a number on either side of the first comma. -/
def ofChars? (cs : List Char) : Option Cell :=
  match cs.dropWhile (· != ',') with
  | [] => none
  | _ :: right => do
    let row ← readWord? (cs.takeWhile (· != ','))
    let column ← readWord? right
    return ⟨row, column⟩

/-- Reads a cell. -/
def ofText? (s : String) : Option Cell := ofChars? s.toList

/-- The cells in row-by-row order. -/
def sort (cells : List Cell) : List Cell := cells.mergeSort before

end Cell

/-- A digit in a cell, as solving services exchange it. -/
structure Placement where
  row : UInt32
  column : UInt32
  digit : UInt32
deriving DecidableEq, Repr, Inhabited

/-- The cell of a placement. -/
def Placement.cell (p : Placement) : Cell := ⟨p.row, p.column⟩

end BoxPuzzle
