import BoxPuzzle.Grid.Givens
import BoxPuzzle.Grid.Root

/-!
# Puzzle documents

A document holds the rows of a puzzle and, where its author gave them, the two box counts. A count
of zero asks for square boxes.

* `Document`, `Document.givens`;
* `Document.squareSide`, `Document.wanted`: the shape of the boxes that is tried;
* `Document.tiled`, `Document.shape`: that shape, provided that its boxes tile the rows.
-/

namespace BoxPuzzle

/-- A puzzle as its author writes it down. -/
structure Document where
  rows : List (List (Option UInt32))
  boxes : BoxShape := ⟨0, 0⟩
deriving DecidableEq, Repr

namespace Document

/-- The digits of the puzzle, row by row. -/
def givens (d : Document) : Givens := .ofMatrix d.rows

/-- The side of square boxes: the root of the number of rows, or zero if that is no word. -/
def squareSide (d : Document) : Checked UInt32 :=
  if d.rows.length ≤ maxWord then wordRoot (UInt32.ofNat d.rows.length) else .ok 0

/-- The shape that the document asks for: as given, or square when a count is zero. -/
def wanted (d : Document) : Checked BoxShape :=
  if d.boxes.width = 0 ∨ d.boxes.height = 0 then d.squareSide.map fun r => ⟨r, r⟩ else .ok d.boxes

/-- A shape, provided that the side of its grid is the number of rows. -/
def tiled (d : Document) (s : BoxShape) : Except GridError BoxShape :=
  match s.side? with
  | some n =>
    if 0 < n ∧ n.toNat = d.rows.length then .ok s else .error (.untileable d.rows.length s)
  | none => .error (.untileable d.rows.length s)

/-- The shape of the boxes. -/
def shape (d : Document) : Checked (Except GridError BoxShape) := d.wanted.map d.tiled

end Document

end BoxPuzzle
