import BoxPuzzle.Text.Numeral

/-!
# The shape of a box

A grid is tiled by boxes of `width × height` cells and has as many rows, columns and digits as a
box has cells. That number, the side of the grid, is a 32-bit word.

* `Overflow`, `Checked`: a product that does not fit in a word stops the computation;
* `wordProduct?`, `wordProduct`, `wordProduct_eq_ok_iff`: the product of two counts;
* `BoxShape`, `BoxShape.side?`, `BoxShape.side`;
* `BoxShape.Proper`: the shapes that have a grid.
-/

namespace BoxPuzzle

/-! ## Products of counts -/

/-- A product of two counts does not fit in a 32-bit word. -/
inductive Overflow where
  | product
deriving DecidableEq, Repr

/-- The fault in words. -/
def Overflow.message : Overflow → String
  | product => "attempt to multiply with overflow"

/-- A result, unless a product overflowed on the way. -/
abbrev Checked (α : Type) := Except Overflow α

/-- The product of two counts, if it fits in a word. -/
def wordProduct? (a b : UInt32) : Option UInt32 :=
  if a.toNat * b.toNat ≤ maxWord then some (a * b) else none

/-- The product of two counts, or the fault. -/
def wordProduct (a b : UInt32) : Checked UInt32 :=
  match wordProduct? a b with
  | some p => .ok p
  | none => .error .product

theorem toNat_mul_of_le {a b : UInt32} (h : a.toNat * b.toNat ≤ maxWord) :
    (a * b).toNat = a.toNat * b.toNat := by
  rw [UInt32.toNat_mul]
  exact Nat.mod_eq_of_lt (by unfold maxWord at h; omega)

theorem wordProduct_of_le {a b : UInt32} (h : a.toNat * b.toNat ≤ maxWord) :
    wordProduct a b = .ok (a * b) := by
  rw [wordProduct, wordProduct?, if_pos h]

theorem wordProduct_of_lt {a b : UInt32} (h : maxWord < a.toNat * b.toNat) :
    wordProduct a b = .error .product := by
  rw [wordProduct, wordProduct?, if_neg (Nat.not_le_of_lt h)]

/-- A product that fits is the product of natural numbers. -/
theorem wordProduct_eq_ok_iff {a b p : UInt32} :
    wordProduct a b = .ok p ↔ p.toNat = a.toNat * b.toNat := by
  by_cases h : a.toNat * b.toNat ≤ maxWord
  · rw [wordProduct_of_le h, Except.ok.injEq, ← UInt32.toNat_inj, toNat_mul_of_le h, eq_comm]
  · have hp : p.toNat ≤ maxWord := Nat.le_of_lt_succ p.toNat_lt
    rw [wordProduct_of_lt (Nat.lt_of_not_le h)]
    constructor
    · intro hok
      cases hok
    · intro heq
      exact absurd (heq ▸ hp) h

/-! ## Shapes -/

/-- The number of cells of a box in a row and in a column. -/
structure BoxShape where
  width : UInt32
  height : UInt32
deriving DecidableEq, Repr

namespace BoxShape

/-- Boxes of three by three cells. -/
def standard : BoxShape := ⟨3, 3⟩

instance : Inhabited BoxShape := ⟨standard⟩

/-- The side of the grid, if it fits in a word. -/
def side? (s : BoxShape) : Option UInt32 := wordProduct? s.width s.height

/-- The side of the grid. -/
def side (s : BoxShape) : Checked UInt32 := wordProduct s.width s.height

/-- The side of the standard grid. -/
def standardSide : UInt32 := 9

theorem side_standard : standard.side = .ok standardSide := rfl

/-- Both counts are positive and the side fits in a word. -/
def Proper (s : BoxShape) : Prop :=
  0 < s.width.toNat ∧ 0 < s.height.toNat ∧ s.width.toNat * s.height.toNat ≤ maxWord

instance (s : BoxShape) : Decidable s.Proper := by unfold Proper; infer_instance

theorem side_eq_ok_iff {s : BoxShape} {n : UInt32} :
    s.side = .ok n ↔ n.toNat = s.width.toNat * s.height.toNat :=
  wordProduct_eq_ok_iff

theorem Proper.side_eq {s : BoxShape} (h : s.Proper) : s.side = .ok (s.width * s.height) :=
  wordProduct_of_le h.2.2

theorem Proper.isSome_side? {s : BoxShape} (h : s.Proper) : s.side?.isSome = true := by
  simp [side?, wordProduct?, h.2.2]

end BoxShape

end BoxPuzzle
