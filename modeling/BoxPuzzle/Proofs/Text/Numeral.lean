import BoxPuzzle.Text.Numeral
import Mathlib.Data.List.Basic

/-!
# Written numerals

A numeral is written as a list of digits that is not empty and, but for zero, does not begin with `0`.

* `isDigit_of_mem_numeral`, `numeral_ne_nil`, `head?_numeral`: what it looks like;
* `ofDigitChars_numeral`, `digitsValue_numeral`: what it is worth;
* **`readNat?_numeral`**: it reads back.
-/

namespace BoxPuzzle

/-! ## Digits -/

theorem digit_bounds {c : Char} (h : c.isDigit = true) : 48 ≤ c.toNat ∧ c.toNat ≤ 57 :=
  Char.isDigit_iff_toNat.1 h

theorem digitChar_digitValue {c : Char} (h : c.isDigit = true) : Nat.digitChar (digitValue c) = c := by
  have hc := digit_bounds h
  have hv : digitValue c = c.toNat - 48 := rfl
  refine Char.toNat_inj.1 ?_
  rw [Nat.toNat_digitChar_of_lt_ten (by omega)]
  omega

theorem digitValue_lt {c : Char} (h : c.isDigit = true) : digitValue c < 10 := by
  have hc := digit_bounds h
  have hv : digitValue c = c.toNat - 48 := rfl
  omega

theorem digitValue_digitChar {n : Nat} (h : n < 10) : digitValue (Nat.digitChar n) = n := by
  rw [digitValue, Nat.toNat_digitChar_of_lt_ten h]
  exact Nat.add_sub_cancel_left 48 n

theorem isBlank_of_isDigit {c : Char} (h : c.isDigit = true) : isBlank c = false := by
  have hc := digit_bounds h
  simp only [isBlank, blankRanges, List.any_cons, List.any_nil, Bool.or_false, Bool.or_eq_false_iff,
    Bool.and_eq_false_iff, decide_eq_false_iff_not]
  omega

/-! ## What a numeral looks like -/

theorem isDigit_of_mem_numeral {n : Nat} {c : Char} (h : c ∈ numeral n) : c.isDigit = true :=
  Nat.isDigit_of_mem_toDigits (by decide) (by decide) h

theorem numeral_ne_nil (n : Nat) : numeral n ≠ [] := Nat.toDigits_ne_nil

theorem exists_numeral_eq_cons (n : Nat) : ∃ c cs, numeral n = c :: cs ∧ c.isDigit = true := by
  obtain ⟨c, cs, h⟩ := List.exists_cons_of_ne_nil (numeral_ne_nil n)
  exact ⟨c, cs, h, isDigit_of_mem_numeral (h ▸ List.mem_cons_self)⟩

/-- Only zero begins with the digit zero. -/
theorem head?_numeral {n : Nat} (h : 0 < n) : (numeral n).head? ≠ some '0' := by
  induction n using Nat.strongRecOn with
  | ind n ih =>
    by_cases hn : n < 10
    · rw [numeral, Nat.toDigits_of_lt_base hn, List.head?_cons]
      intro h0
      have hv := congrArg digitValue (Option.some.inj h0)
      rw [digitValue_digitChar hn] at hv
      exact absurd hv (Nat.ne_of_gt h)
    · -- the first digit is that of the number without its last
      have hsplit : numeral n = numeral (n / 10) ++ [Nat.digitChar (n % 10)] :=
        Nat.toDigits_of_base_le (by decide) (Nat.le_of_not_lt hn)
      rw [hsplit, List.head?_append_of_ne_nil _ (numeral_ne_nil (n / 10))]
      exact ih (n / 10) (by omega) (by omega)

theorem ofDigitChars_numeral (n : Nat) : Nat.ofDigitChars 10 (numeral n) 0 = n :=
  Nat.ofDigitChars_toDigits (by decide) (by decide)

theorem digitsValue_numeral (n : Nat) : digitsValue (numeral n) = n := ofDigitChars_numeral n

/-! ## Reading -/

theorem readNat?_numeral (n : Nat) : readNat? (numeral n) = some n := by
  have h : numeral n ≠ [] ∧ (numeral n).all Char.isDigit = true :=
    ⟨numeral_ne_nil n, List.all_eq_true.2 fun c => isDigit_of_mem_numeral⟩
  rw [readNat?, if_pos h, digitsValue_numeral]

theorem le_ofDigitChars (acc : Nat) (cs : List Char) : acc ≤ Nat.ofDigitChars 10 cs acc := by
  rw [Nat.ofDigitChars_eq_ofDigitChars_zero]
  calc acc ≤ 10 ^ cs.length * acc := Nat.le_mul_of_pos_left acc (Nat.pow_pos (by decide))
    _ ≤ _ := Nat.le_add_right _ _

end BoxPuzzle
