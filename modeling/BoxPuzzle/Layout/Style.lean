import BoxPuzzle.Json.Fields

/-!
# Style rules

A style is the list of rules that give the grid its geometry. Every rule sets one property on one
kind of element; a later rule overrides an earlier one.

* `Selectors`: how the page names the grid and its cells;
* `Target`, `Value`, `Rule`, `Style`;
* `Style.add`, `Style.addAll`, `Style.cleared`;
* `Style.length?`: the length in effect for a property;
* `Style.periods?`: the box shape that the edge rules draw.
-/

namespace BoxPuzzle

/-- The id of the grid's container and the class of its cells. -/
structure Selectors where
  container : String := "sudoku"
  cell : String := "cell"
deriving DecidableEq, Repr, Inhabited

instance : Wire Selectors where
  toJson s := .ofMembers [("container_id", .ofText s.container), ("cell_class", .ofText s.cell)]
  ofJson? j := do
    let [container, cell] ← j.fields? ["container_id", "cell_class"] | none
    return { container := ← container.bind Json.string?, cell := ← cell.bind Json.string? }

/-- What a rule applies to. -/
inductive Target where
  /-- Every cell. -/
  | cells
  /-- Every `every`-th cell of a row, the last of its box. -/
  | columnEdge (every : UInt32)
  /-- The cells of every `every`-th row, the last of its boxes. -/
  | rowEdge (every : UInt32)
  /-- Every row. -/
  | rows
deriving DecidableEq, Repr

/-- What a rule sets. -/
inductive Value (α : Type) where
  | length (x : α)
  /-- A solid line. -/
  | border (width : UInt32) (color : String)
deriving Repr

/-- A rule of a style. -/
structure Rule (α : Type) where
  target : Target
  property : String
  value : Value α
deriving Repr

/-- The rules of a grid, oldest first. -/
structure Style (α : Type) where
  selectors : Selectors := {}
  rules : List (Rule α) := []
deriving Repr, Inhabited

variable {α : Type}

/-- The length, if the value is one. -/
def Value.length? : Value α → Option α
  | length x => some x
  | border _ _ => none

/-- The period of a rule on the last cells of boxes. -/
def Target.columnPeriod? : Target → Option UInt32
  | columnEdge every => some every
  | _ => none

/-- The period of a rule on the last rows of boxes. -/
def Target.rowPeriod? : Target → Option UInt32
  | rowEdge every => some every
  | _ => none

/-- The rule sets a length for this property of this target. -/
def Rule.lengthFor? (t : Target) (property : String) (r : Rule α) : Option α :=
  if r.target = t ∧ r.property = property then r.value.length? else none

namespace Style

/-- The number of rules. -/
def size (s : Style α) : Nat := s.rules.length

/-- Adds a rule at the end. -/
def add (s : Style α) (r : Rule α) : Style α := { s with rules := s.rules ++ [r] }

/-- Adds rules at the end. -/
def addAll (s : Style α) (rs : List (Rule α)) : Style α := { s with rules := s.rules ++ rs }

/-- The style without its rules. -/
def cleared (s : Style α) : Style α := { s with rules := [] }

/-- The length in effect: that of the last rule that sets one. -/
def length? (s : Style α) (t : Target) (property : String) : Option α :=
  s.rules.reverse.findSome? (Rule.lengthFor? t property)

/-- The periods of the first edge rules, across and down. -/
def periods? (s : Style α) : Option (UInt32 × UInt32) := do
  let across ← s.rules.findSome? (·.target.columnPeriod?)
  let down ← s.rules.findSome? (·.target.rowPeriod?)
  return (across, down)

end Style

end BoxPuzzle
