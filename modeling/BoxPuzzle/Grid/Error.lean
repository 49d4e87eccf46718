import BoxPuzzle.Grid.Cell
import BoxPuzzle.Grid.Shape

/-!
# What can be wrong with a grid

* `GridError`: a cell text that cannot be read, a cell or a digit that the grid has no room for, a
  number of rows that no boxes of the wanted shape can tile;
* `GridError.message`: the fault in words;
* `Cell.parse`: reading a cell with its fault.
-/

namespace BoxPuzzle

/-- A fault of grid data. -/
inductive GridError where
  /-- The text names no cell. -/
  | malformedCell (text : String)
  /-- The cell lies outside a grid of this side. -/
  | cellOutOfRange (cell : Cell) (side : UInt32)
  /-- So many rows cannot be tiled by boxes of this shape. -/
  | untileable (rows : Nat) (shape : BoxShape)
  /-- The digit is not among the digits of a grid of this side. -/
  | digitOutOfRange (cell : Cell) (digit side : UInt32)
deriving DecidableEq, Repr

/-- The decimal text of a word. -/
def wordText (w : UInt32) : String := decimalText w.toNat

/-- The fault in words. -/
def GridError.message : GridError → String
  | malformedCell text => "Malformed cell key '" ++ text ++ "' (expected \"row,column\")"
  | cellOutOfRange cell side =>
    "Cell (" ++ wordText cell.row ++ ", " ++ wordText cell.column ++ ") lies outside a " ++
      wordText side ++ "x" ++ wordText side ++ " grid"
  | untileable rows shape =>
    "A " ++ decimalText rows ++ "-row puzzle cannot tile into " ++ wordText shape.width ++ "x" ++
      wordText shape.height ++ " boxes"
  | digitOutOfRange cell digit side =>
    "Digit " ++ wordText digit ++ " at (" ++ wordText cell.row ++ ", " ++ wordText cell.column ++
      ") is outside 1..=" ++ wordText side

/-- Reads a cell; a text that names none is returned in the fault. -/
def Cell.parse (s : String) : Except GridError Cell :=
  match ofText? s with
  | some c => .ok c
  | none => .error (.malformedCell s)

end BoxPuzzle
