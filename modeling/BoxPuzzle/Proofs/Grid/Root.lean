import BoxPuzzle.Grid.Root
import Mathlib.Data.Nat.Sqrt

/-!
# When a root is found

The search for a root looks at one square more than it needs. Below the largest square of a word, that of
`65535`, this square fits and the search ends at the root rounded down; from there on it is `65536 * 65536`
and does not fit. The estimate that the search starts from makes no difference.

* `exists_lowerRoot`: going down ends at a root;
* `exists_raiseRoot`, `raiseRoot_of_le`: going up ends at the largest one, or overflows;
* `wordRootFrom_of_lt`, `wordRootFrom_of_le`: the search from any estimate of sixteen bits;
* `toNat_estimate_le`, **`wordRoot_of_lt`**, **`wordRoot_of_le`**.
-/

namespace BoxPuzzle

/-! ## Down -/

theorem exists_lowerRoot (n : UInt32) {r : UInt32} (hr : r.toNat ≤ 65535) :
    ∃ s, lowerRoot n r = .ok s := by
  fun_induction lowerRoot n r with
  | case1 r e h =>
    rw [wordProduct_of_le (square_le_maxWord_iff.2 hr)] at h
    cases h
  | case2 r square h hlt ih =>
    apply ih
    rw [toNat_pred_of_pos (pos_of_lt_square h hlt)]
    omega
  | case3 r square h hlt => exact ⟨_, rfl⟩

/-! ## Up -/

section Up

variable {n : UInt32}

/-- Below the largest square of a word the next square can be looked at. -/
theorem Root.val_lt (r : Root n) (hn : n.toNat < 65535 * 65535) : r.val.toNat < 65535 := by
  have hle := r.val_le
  refine Nat.lt_of_le_of_ne hle fun heq => ?_
  have hsquare := r.square_le
  rw [heq] at hsquare
  omega

theorem exists_raiseRoot (hn : n.toNat < 65535 * 65535) (r : Root n) :
    ∃ s, raiseRoot r = .ok s ∧ n.toNat < (s.val.toNat + 1) * (s.val.toNat + 1) := by
  fun_induction raiseRoot r with
  | case1 r e h =>
    -- `r` is below `65535`, so the square of the next number is the one of a number of sixteen bits
    have hlt := r.val_lt hn
    have hfits : (r.val + 1).toNat * (r.val + 1).toNat ≤ maxWord := by
      rw [r.toNat_succ]
      exact square_le_maxWord_iff.2 hlt
    rw [wordProduct_of_le hfits] at h
    cases h
  | case2 r square h hle ih => exact ih
  | case3 r square h hle =>
    refine ⟨r, rfl, ?_⟩
    rw [UInt32.le_iff_toNat_le, wordProduct_eq_ok_iff.1 h, r.toNat_succ] at hle
    exact Nat.lt_of_not_le hle

/-- From the largest square of a word on, going up does not end before the square of `65536`. -/
theorem raiseRoot_of_le (hn : 65535 * 65535 ≤ n.toNat) (r : Root n) :
    raiseRoot r = .error .product := by
  fun_induction raiseRoot r with
  | case1 r e h => rfl
  | case2 r square h hle ih => exact ih
  | case3 r square h hle =>
    -- a square that fits is one of a number of sixteen bits, so it is not too large
    have hsquare := wordProduct_eq_ok_iff.1 h
    have hfits : (r.val + 1).toNat ≤ 65535 :=
      square_le_maxWord_iff.1 (hsquare ▸ Nat.le_of_lt_succ square.toNat_lt)
    refine absurd (UInt32.le_iff_toNat_le.2 ?_) hle
    rw [hsquare]
    exact Nat.le_trans (Nat.mul_le_mul hfits hfits) hn

end Up

/-! ## The whole search -/

section Search

variable {n estimate : UInt32} (he : estimate.toNat ≤ 65535)

include he

theorem wordRootFrom_of_lt (hn : n.toNat < 65535 * 65535) :
    ∃ s, wordRootFrom n estimate = .ok s ∧ s.toNat = Nat.sqrt n.toNat := by
  obtain ⟨r, hlower⟩ := exists_lowerRoot n he
  obtain ⟨s, hraise, hlt⟩ := exists_raiseRoot hn r
  refine ⟨s.val, ?_, Nat.eq_sqrt.2 ⟨s.square_le, hlt⟩⟩
  rw [wordRootFrom, hlower]
  show (raiseRoot r >>= _) = _
  rw [hraise]
  rfl

theorem wordRootFrom_of_le (hn : 65535 * 65535 ≤ n.toNat) :
    wordRootFrom n estimate = .error .product := by
  obtain ⟨r, hlower⟩ := exists_lowerRoot n he
  rw [wordRootFrom, hlower]
  show (raiseRoot r >>= _) = _
  rw [raiseRoot_of_le hn]
  rfl

end Search

theorem toNat_estimate_le (n : UInt32) : (UInt32.ofNat (floorRoot n.toNat)).toNat ≤ 65535 := by
  have hroot : floorRoot n.toNat ≤ 65535 :=
    square_le_maxWord_iff.1 (Nat.le_trans (floorRoot_mul_self_le _) (Nat.le_of_lt_succ n.toNat_lt))
  rw [UInt32.toNat_ofNat_of_lt' (Nat.lt_of_le_of_lt hroot (by decide))]
  exact hroot

/-- **Below the largest square of a word the root is found.** -/
theorem wordRoot_of_lt {n : UInt32} (hn : n.toNat < 65535 * 65535) :
    ∃ s, wordRoot n = .ok s ∧ s.toNat = Nat.sqrt n.toNat :=
  wordRootFrom_of_lt (toNat_estimate_le n) hn

/-- **From there on the search overflows**, although the root, `65535`, is a word. -/
theorem wordRoot_of_le {n : UInt32} (hn : 65535 * 65535 ≤ n.toNat) : wordRoot n = .error .product :=
  wordRootFrom_of_le (toNat_estimate_le n) hn

end BoxPuzzle
