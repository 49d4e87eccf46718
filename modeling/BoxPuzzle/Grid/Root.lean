import BoxPuzzle.Grid.Shape

/-!
# Roots of counts

The square root of a count, rounded down, is searched for from an estimate: downwards as long as the
square is too large, and then upwards as long as the next square is not. Squares are products of counts,
so the search stops at one that does not fit in a word, even where the root itself does.

* `Root`: a count with a square of at most `n`;
* `lowerRoot`, `raiseRoot`: the two directions of the search;
* `wordRootFrom`: the search from any estimate;
* `floorRoot`, `wordRoot`: the estimate, and the search from it.
-/

namespace BoxPuzzle

/-- A count whose square is at most `n`. -/
structure Root (n : UInt32) where
  val : UInt32
  square_le : val.toNat * val.toNat ≤ n.toNat

/-- The numbers of sixteen bits are those whose squares have 32. -/
theorem square_le_maxWord_iff {a : Nat} : a * a ≤ maxWord ↔ a ≤ 65535 := by
  unfold maxWord
  constructor
  · intro h
    refine Nat.le_of_not_lt fun hlt => ?_
    have hsquare : 65536 * 65536 ≤ a * a := Nat.mul_le_mul hlt hlt
    omega
  · intro h
    have hsquare : a * a ≤ 65535 * 65535 := Nat.mul_le_mul h h
    omega

namespace Root

variable {n : UInt32}

theorem val_le (r : Root n) : r.val.toNat ≤ 65535 :=
  square_le_maxWord_iff.1 (Nat.le_trans r.square_le (Nat.le_of_lt_succ n.toNat_lt))

/-- The next number is a word too. -/
theorem toNat_succ (r : Root n) : (r.val + 1).toNat = r.val.toNat + 1 := by
  have hle := r.val_le
  rw [UInt32.toNat_add]
  exact Nat.mod_eq_of_lt (by simp only [UInt32.reduceToNat]; omega)

end Root

theorem toNat_pred_of_pos {r : UInt32} (h : 0 < r.toNat) : (r - 1).toNat = r.toNat - 1 :=
  UInt32.toNat_sub_of_le r 1 (UInt32.le_iff_toNat_le.2 h)

/-- A square that is too large is not that of zero. -/
theorem pos_of_lt_square {n r square : UInt32} (h : wordProduct r r = .ok square) (hlt : n < square) :
    0 < r.toNat := by
  have hpos : 0 < square.toNat := Nat.zero_lt_of_lt (UInt32.lt_iff_toNat_lt.1 hlt)
  rw [wordProduct_eq_ok_iff.1 h] at hpos
  exact Nat.pos_of_mul_pos_left hpos

/-- The first of `r`, `r - 1`, … whose square is at most `n`. -/
def lowerRoot (n r : UInt32) : Checked (Root n) :=
  match h : wordProduct r r with
  | .error e => .error e
  | .ok square =>
    if hlt : n < square then lowerRoot n (r - 1)
    else .ok ⟨r, by
      rw [← wordProduct_eq_ok_iff.1 h, ← UInt32.le_iff_toNat_le]
      exact UInt32.not_lt.1 hlt⟩
termination_by r.toNat
decreasing_by
  have hpos := pos_of_lt_square h hlt
  rw [toNat_pred_of_pos hpos]
  omega

/-- The last of `r`, `r + 1`, … whose square is at most `n`. -/
def raiseRoot {n : UInt32} (r : Root n) : Checked (Root n) :=
  match h : wordProduct (r.val + 1) (r.val + 1) with
  | .error e => .error e
  | .ok square =>
    if hle : square ≤ n then
      raiseRoot ⟨r.val + 1, by
        rw [← wordProduct_eq_ok_iff.1 h, ← UInt32.le_iff_toNat_le]
        exact hle⟩
    else .ok r
termination_by n.toNat - r.val.toNat
decreasing_by
  have hsquare := UInt32.le_iff_toNat_le.1 hle
  rw [wordProduct_eq_ok_iff.1 h, r.toNat_succ] at hsquare
  have hself := Nat.le_mul_self (r.val.toNat + 1)
  rw [r.toNat_succ]
  omega

/-- The root of `n`, searched for from an estimate. -/
def wordRootFrom (n estimate : UInt32) : Checked UInt32 := do
  let r ← raiseRoot (← lowerRoot n estimate)
  return r.val

/-- The largest number whose square is at most `n`. -/
def floorRoot : Nat → Nat
  | 0 => 0
  | n + 1 =>
    let r := floorRoot n
    if (r + 1) * (r + 1) ≤ n + 1 then r + 1 else r

theorem floorRoot_mul_self_le (n : Nat) : floorRoot n * floorRoot n ≤ n := by
  induction n with
  | zero => simp [floorRoot]
  | succ n ih =>
    simp only [floorRoot]
    split
    · assumption
    · omega

/-- The root of `n`. The estimate is the root in double precision without its fraction: its 53 bits are
enough to make it the root rounded down. -/
def wordRoot (n : UInt32) : Checked UInt32 := wordRootFrom n (UInt32.ofNat (floorRoot n.toNat))

end BoxPuzzle
