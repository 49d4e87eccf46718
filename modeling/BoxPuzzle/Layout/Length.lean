/-!
# Lengths

Layout computes with lengths in pixels. It runs on floating-point numbers and is written for any
type with the operations that it uses, so that it can also be read as exact arithmetic on
rational numbers.

* `Length`: the operations;
* the instances for `Float` and `Rat`;
* `Length.nonNegative`: a length with what is not positive cut off.
-/

namespace BoxPuzzle

/-- The operations that layout uses. -/
class Length (α : Type) extends Add α, Sub α, Mul α, Div α, LT α, LE α, OfScientific α where
  /-- A count as a number. -/
  ofCount : UInt32 → α
  /-- Rounding down to a whole number. -/
  floor : α → α
  decLt : DecidableLT α
  decLe : DecidableLE α

attribute [reducible, instance] Length.decLt Length.decLe

instance : Length Float where
  ofCount n := n.toFloat
  floor := Float.floor
  decLt := inferInstance
  decLe := inferInstance

instance : Length Rat where
  ofCount n := (n.toNat : Rat)
  floor x := (x.floor : Rat)
  decLt := inferInstance
  decLe := inferInstance

namespace Length

variable {α : Type} [Length α]

/-- The length if it is positive, else zero. -/
def nonNegative (x : α) : α := if ofCount 0 < x then x else ofCount 0

end Length

end BoxPuzzle
