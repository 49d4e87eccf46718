import BoxPuzzle.Decimal.Double
import BoxPuzzle.Json.Value
import BoxPuzzle.Text.Numeral

/-!
# Settled values

A reader that does not know what it is reading has to settle every part of a value: nesting is
limited, every string names a text, every number is within the range of doubles, and of members
with one name the last counts.

* `absorb`, `Number.inRange`: numbers are gathered in 64 bits before they are scaled;
* `Json.settles`: the value can be settled;
* `lastMembers`, `Json.merged`: repeated names;
* `Json.settle?`: the settled value.
-/

namespace BoxPuzzle

/-! ## The range of numbers -/

/-- The largest significand that is gathered. -/
def maxSignificand : Nat := 18446744073709551615

/-- Appends digits to a significand while it fits; the result has the number of digits taken. -/
def absorb (n : Nat) : List Nat → Nat × Nat
  | [] => (n, 0)
  | d :: ds =>
    if 10 * n + d ≤ maxSignificand then
      let r := absorb (10 * n + d) ds
      (r.1, r.2 + 1)
    else (n, 0)

namespace Number

/-- The gathered significand and its power of ten. Whole digits that do not fit raise the power,
fraction digits that fit lower it. -/
def gathered (n : Number) : Nat × Int :=
  let ds := (numeral n.whole).map digitValue
  let whole := absorb 0 ds
  let all := absorb whole.1 (n.fraction.map Fin.val)
  (all.1, Int.ofNat ds.length - Int.ofNat whole.2 - Int.ofNat all.2 + n.exponent.getD 0)

/-- The number is within the range of doubles, as every significand of 64 bits is. -/
def inRange (n : Number) : Bool :=
  let (significand, power) := n.gathered
  if significand = 0 ∨ power ≤ 0 then true
  else if 308 < power then false
  else !(nearestFloat false significand 1 * nearestFloat false (Nat.pow 10 power.toNat) 1).isInf

end Number

/-! ## Settling -/

mutual

/-- The value can be settled, with `room` more levels of nesting. -/
def Json.settles (room : Nat) : Json → Bool
  | .null => true
  | .bool _ => true
  | .number n => n.inRange
  | .text s => s.isSome
  | .array items => 0 < room && Json.itemsSettle (room - 1) items
  | .object members => 0 < room && Json.membersSettle (room - 1) members

/-- Every item can be settled. -/
def Json.itemsSettle (room : Nat) : List Json → Bool
  | [] => true
  | j :: js => j.settles room && Json.itemsSettle room js

/-- Every member can be settled. -/
def Json.membersSettle (room : Nat) : List (Option String × Json) → Bool
  | [] => true
  | (name, j) :: ms => name.isSome && j.settles room && Json.membersSettle room ms

end

/-- The members without those that are repeated later. -/
def lastMembers : List (Option String × Json) → List (Option String × Json)
  | [] => []
  | m :: ms => if ms.any (·.1 == m.1) then lastMembers ms else m :: lastMembers ms

mutual

/-- The value with repeated members settled at every level. -/
def Json.merged : Json → Json
  | .array items => .array (Json.mergedItems items)
  | .object members => .object (lastMembers (Json.mergedMembers members))
  | j => j

/-- Every item with repeated members settled. -/
def Json.mergedItems : List Json → List Json
  | [] => []
  | j :: js => j.merged :: Json.mergedItems js

/-- Every member's value with repeated members settled. -/
def Json.mergedMembers : List (Option String × Json) → List (Option String × Json)
  | [] => []
  | (name, j) :: ms => (name, j.merged) :: Json.mergedMembers ms

end

/-- The number of levels that are settled. -/
def nestingLimit : Nat := 127

/-- The settled value. -/
def Json.settle? (j : Json) : Option Json :=
  if j.settles nestingLimit then some j.merged else none

end BoxPuzzle
