import BoxPuzzle.Grid.Shape

/-!
# The configured box shape

The shape is set from two typed texts. Both numbers change together or not at all, and nothing
changes once the configuration is frozen.

* `Configuration`, `Configuration.freeze`;
* `typedCount?`, `typedShape?`: what the two texts ask for;
* `Change`, `Configuration.set`.
-/

namespace BoxPuzzle

/-- The current shape and whether it may still change. -/
structure Configuration where
  shape : BoxShape := .standard
  frozen : Bool := false
deriving DecidableEq, Repr, Inhabited

/-- The outcome of setting the shape. -/
inductive Change where
  | applied (shape : BoxShape)
  /-- The texts do not name a shape. -/
  | ignored
  /-- The configuration is frozen. -/
  | frozen
deriving DecidableEq, Repr

/-- A typed positive count. -/
def typedCount? (text : Option String) : Option UInt32 := do
  let s ← text
  let n ← readWord? s.toList
  if 0 < n then some n else none

/-- The shape that two texts name, if its side fits in a word. -/
def typedShape? (width height : Option String) : Option BoxShape := do
  let shape : BoxShape := ⟨← typedCount? width, ← typedCount? height⟩
  if shape.side?.isSome then some shape else none

namespace Configuration

/-- Sets the shape from two typed texts. -/
def set (c : Configuration) (width height : Option String) : Configuration × Change :=
  if c.frozen then (c, .frozen)
  else match typedShape? width height with
    | some shape => ({ c with shape }, .applied shape)
    | none => (c, .ignored)

/-- Keeps the shape from now on. -/
def freeze (c : Configuration) : Configuration := { c with frozen := true }

end Configuration

end BoxPuzzle
