import BoxPuzzle.Decimal.Double

/-!
# Shortest decimals

Of all decimals that round to a given double, the one with the fewest digits names it; among
several of that length the one nearest to the double, and at a tie the larger. Such a decimal is
one of the two neighbours of the double on a grid of powers of ten, so it is enough to look at
these, from the coarsest grid to the finest.

* `Span`: a double and the ends of the interval that rounds to it, over one common unit;
* `Span.covers`, `Span.neighbour?`, `Span.coarsest`;
* `shortestDigits`: digits and power of ten.
-/

namespace BoxPuzzle

/-- A positive double with the ends of its rounding interval, as multiples of `10 ^ unit`. -/
structure Span where
  low : Nat
  value : Nat
  high : Nat
  /-- The ends belong to the interval. -/
  closed : Bool
  unit : Int
deriving DecidableEq, Repr

namespace Span

/-- The rounding interval of `mantissa · 2 ^ exponent`. The ends lie halfway to the neighbouring
doubles, and the one below a power of two is half as far away. A power of two below one is a
power of five over a power of ten, so that all three numbers are decimals. -/
def ofBinary (mantissa : Nat) (exponent : Int) : Span :=
  let e := exponent - 2
  let scale := Nat.pow 2 e.toNat * Nat.pow 5 (-e).toNat
  let narrow := mantissa = fractionCount ∧ exponent ≠ -1074
  { low := (4 * mantissa - if narrow then 1 else 2) * scale
    value := 4 * mantissa * scale
    high := (4 * mantissa + 2) * scale
    closed := mantissa % 2 = 0
    unit := min e 0 }

/-- The decimal rounds to the double. -/
def covers (s : Span) (n : Nat) : Bool :=
  (s.low < n && n < s.high) || (s.closed && (s.low == n || n == s.high))

/-- The better of the two multiples of `step` around the value, divided by `step`, if one of them
rounds to the double. -/
def neighbour? (s : Span) (step : Nat) : Option Nat :=
  let below := s.value / step
  if s.covers (below * step) then
    if s.covers ((below + 1) * step) ∧ (below + 1) * step - s.value ≤ s.value - below * step then
      some (below + 1)
    else some below
  else if s.covers ((below + 1) * step) then some (below + 1)
  else none

/-- The first hit on the grids `10 ^ k`, `10 ^ (k - 1)`, …, with its power of ten. -/
def coarsest (s : Span) : Nat → Nat × Nat
  | 0 => (s.value, 0)
  | k + 1 =>
    match s.neighbour? (Nat.pow 10 (k + 1)) with
    | some n => (n, k + 1)
    | none => s.coarsest k

end Span

/-- The shortest digits of `mantissa · 2 ^ exponent`, with the power of ten that they count. -/
def shortestDigits (mantissa : Nat) (exponent : Int) : Nat × Int :=
  let s := Span.ofBinary mantissa exponent
  let r := s.coarsest (Nat.toDigits 10 s.value).length
  (r.1, Int.ofNat r.2 + s.unit)

end BoxPuzzle
