import BoxPuzzle.Grid.Givens

/-!
# The text board

A board shows a grid as lines of equal length. Every cell is as wide as the largest digit and is
followed by one joint: a bar after the last cell of a box, a blank after the others. A ruled line
stands between two rows of boxes, and a dashed edge above and below.

* `Board.padded`, `Board.cellText`: one cell;
* `Board.line`: cells with their joints between two bars;
* `Board.rowLine`, `Board.ruleLine`, `Board.edge`: the three kinds of lines;
* `Board.lines`, `Board.render`: the board of givens in a grid of a given box shape.
-/

namespace BoxPuzzle

namespace Board

/-- The characters at the right end of a field of width `w`. -/
def padded (w : Nat) (cs : List Char) : List Char := List.replicate (w - cs.length) ' ' ++ cs

/-- A cell in a field of width `w`; an empty cell shows a middle dot. -/
def cellText (w : Nat) : Option UInt32 → List Char
  | some d => padded w (numeral d.toNat)
  | none => padded w ['·']

/-- The cells, each with its joint after it: `bar` after every `width`-th cell, else `gap`. -/
def joined (width : Nat) (gap bar : Char) (cells : List (List Char)) : List Char :=
  cells.zipIdx.flatMap fun p => p.1 ++ [if (p.2 + 1) % width = 0 then bar else gap]

/-- A line of cells between two bars. -/
def line (width : Nat) (gap bar : Char) (cells : List (List Char)) : List Char :=
  '|' :: (joined width gap bar cells).dropLast ++ ['|']

/-- A row of cells. -/
def rowLine (width w : Nat) (digits : List (Option UInt32)) : List Char :=
  line width ' ' '|' (digits.map (cellText w))

/-- The rule between two rows of boxes in a grid of side `n`. -/
def ruleLine (width w n : Nat) : List Char :=
  line width '-' '+' (List.replicate n (List.replicate w '-'))

/-- The edge above and below a grid of side `n`. -/
def edge (w n : Nat) : List Char := List.replicate ((w + 1) * n + 1) '-'

/-- The lines of the rows, with a rule after each full row of boxes but the last. -/
def rowLines (shape : BoxShape) (w n : Nat) (rows : List (List (Option UInt32))) :
    List (List Char) :=
  rows.zipIdx.flatMap fun p =>
    rowLine shape.width.toNat w p.1 ::
      if (p.2 + 1) % shape.height.toNat = 0 ∧ p.2 + 1 ≠ n then
        [ruleLine shape.width.toNat w n]
      else []

/-- All lines of a board of side `n`. -/
def lines (shape : BoxShape) (n : Nat) (rows : List (List (Option UInt32))) : List (List Char) :=
  let w := (numeral n).length
  edge w n :: rowLines shape w n rows ++ [edge w n]

/-- The lines as one text. -/
def text (ls : List (List Char)) : String := String.ofList (List.intercalate ['\n'] ls)

end Board

/-- The board of the givens, unless one of them has no room in the grid. -/
def Givens.board (g : Givens) (shape : BoxShape) : Checked (Except GridError String) := do
  let n ← shape.side
  return do
    let rows ← g.toMatrix n
    return Board.text (Board.lines shape n.toNat rows)

end BoxPuzzle
