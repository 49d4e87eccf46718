import BoxPuzzle.Proofs.Text.Numeral
import Mathlib.Data.List.Induction
import Mathlib.Data.List.TakeWhile

/-!
# How numbers may be spelled

A number may be typed with blanks around it, with a plus sign and with zeros in front. The readers
accept these spellings and no others, and of all spellings of a number one is without any of this.

* `whiteSpace`, `Blanks`, `isBlank_iff`: the blank characters, one by one;
* `IsNumeral`, `readNumeral_eq_ok_iff`: numerals within a limit;
* `SpellsNumber`, **`readWord?_eq_some_iff`**: words, with blanks around them;
* `IsCanonical`, **`isCanonical_iff`**: the spelling that is written.
-/

namespace BoxPuzzle

/-! ## Blanks -/

/-- The code points with the property `White_Space`. -/
def whiteSpace : List Nat :=
  [0x0009, 0x000A, 0x000B, 0x000C, 0x000D, 0x0020, 0x0085, 0x00A0, 0x1680, 0x2000, 0x2001, 0x2002,
    0x2003, 0x2004, 0x2005, 0x2006, 0x2007, 0x2008, 0x2009, 0x200A, 0x2028, 0x2029, 0x202F, 0x205F,
    0x3000]

/-- A run of blanks, which may be empty. -/
def Blanks (cs : List Char) : Prop := ∀ c ∈ cs, c.toNat ∈ whiteSpace

theorem isBlank_iff {c : Char} : isBlank c = true ↔ c.toNat ∈ whiteSpace := by
  have hranges : whiteSpace = blankRanges.flatMap fun r => List.range' r.1 (r.2 + 1 - r.1) := by decide
  rw [isBlank, hranges, List.any_eq_true, List.mem_flatMap]
  refine exists_congr fun r => and_congr_right fun _ => ?_
  rw [Bool.and_eq_true, decide_eq_true_eq, decide_eq_true_eq, List.mem_range'_1]
  omega

theorem dropWhile_isBlank {w : List Char} (hw : Blanks w) {c : Char} (hc : isBlank c = false)
    (cs : List Char) : (w ++ c :: cs).dropWhile isBlank = c :: cs := by
  rw [List.dropWhile_append_of_pos fun a ha => isBlank_iff.2 (hw a ha)]
  simp [hc]

theorem Blanks.reverse {w : List Char} (h : Blanks w) : Blanks w.reverse :=
  fun c hc => h c (List.mem_reverse.1 hc)

/-- Blanks around a text without blanks are stripped. -/
theorem strip_append {w w' cs : List Char} (hw : Blanks w) (hw' : Blanks w') (hne : cs ≠ [])
    (h : ∀ c ∈ cs, isBlank c = false) : strip (w ++ cs ++ w') = cs := by
  have hdrop : ∀ {v ds : List Char}, Blanks v → ds ≠ [] → (∀ c ∈ ds, isBlank c = false) →
      ∀ v', (v ++ (ds ++ v')).dropWhile isBlank = ds ++ v' := by
    intro v ds hv hds hd v'
    obtain ⟨d, ds, rfl⟩ := List.exists_cons_of_ne_nil hds
    exact dropWhile_isBlank hv (hd d List.mem_cons_self) (ds ++ v')
  have hend := hdrop hw'.reverse (by simpa using hne) (fun c hc => h c (List.mem_reverse.1 hc)) []
  rw [List.append_nil] at hend
  rw [strip, stripEnd, List.append_assoc, hdrop hw hne h, List.reverse_append, hend,
    List.reverse_reverse]

theorem exists_strip (cs : List Char) :
    ∃ w w', cs = w ++ strip cs ++ w' ∧ Blanks w ∧ Blanks w' := by
  have hblanks : ∀ ds : List Char, Blanks (ds.takeWhile isBlank) :=
    fun ds c hc => isBlank_iff.1 (List.mem_takeWhile_imp hc)
  refine ⟨cs.takeWhile isBlank, ((cs.dropWhile isBlank).reverse.takeWhile isBlank).reverse, ?_,
    hblanks cs, (hblanks _).reverse⟩
  rw [strip, stripEnd, List.append_assoc, ← List.reverse_append, List.takeWhile_append_dropWhile,
    List.reverse_reverse, List.takeWhile_append_dropWhile]

/-! ## Numerals -/

/-- An optional plus sign and one or more digits, whose value is `n`. -/
def IsNumeral (cs : List Char) (n : Nat) : Prop :=
  ∃ ds, (cs = ds ∨ cs = '+' :: ds) ∧ ds ≠ [] ∧ (∀ c ∈ ds, c.isDigit = true) ∧
    Nat.ofDigitChars 10 ds 0 = n

theorem readDigits_eq_ok_iff {limit acc n : Nat} {cs : List Char} (hacc : acc ≤ limit) :
    readDigits limit acc cs = .ok n ↔
      (∀ c ∈ cs, c.isDigit = true) ∧ Nat.ofDigitChars 10 cs acc = n ∧ n ≤ limit := by
  induction cs generalizing acc with
  | nil =>
    simp only [readDigits, Except.ok.injEq, List.not_mem_nil, false_implies, implies_true, true_and,
      Nat.ofDigitChars_nil]
    omega
  | cons c cs ih =>
    have hcons : Nat.ofDigitChars 10 (c :: cs) acc = Nat.ofDigitChars 10 cs (10 * acc + digitValue c) :=
      Nat.ofDigitChars_cons
    rw [readDigits, List.forall_mem_cons, hcons]
    by_cases hc : c.isDigit = true
    · by_cases hl : 10 * acc + digitValue c ≤ limit
      · rw [if_pos hc, if_pos hl, ih hl]
        simp [hc]
      · have := le_ofDigitChars (10 * acc + digitValue c) cs
        rw [if_pos hc, if_neg hl]
        simp only [reduceCtorEq, false_iff]
        omega
    · simp [hc]

theorem ne_plus_of_isDigit {c : Char} (h : c.isDigit = true) : c ≠ '+' := by
  rintro rfl
  cases h

theorem readNumeral_of_ne_plus {limit : Nat} {c : Char} (hc : c ≠ '+') (cs : List Char) :
    readNumeral limit (c :: cs) = readDigits limit 0 (c :: cs) := by
  unfold readNumeral
  split <;> simp_all

theorem readNumeral_plus (limit : Nat) {ds : List Char} (hne : ds ≠ []) :
    readNumeral limit ('+' :: ds) = readDigits limit 0 ds := by
  obtain ⟨c, cs, rfl⟩ := List.exists_cons_of_ne_nil hne
  rfl

/-- **A reader with a limit accepts the numerals within it.** -/
theorem readNumeral_eq_ok_iff {limit n : Nat} {cs : List Char} :
    readNumeral limit cs = .ok n ↔ IsNumeral cs n ∧ n ≤ limit := by
  have hdigits : ∀ {ds : List Char}, ds ≠ [] → (readDigits limit 0 ds = .ok n ↔
      (ds ≠ [] ∧ (∀ c ∈ ds, c.isDigit = true) ∧ Nat.ofDigitChars 10 ds 0 = n) ∧ n ≤ limit) := by
    intro ds hne
    rw [readDigits_eq_ok_iff (Nat.zero_le limit)]
    tauto
  constructor
  · intro h
    cases cs with
    | nil => cases h
    | cons c cs =>
      by_cases hc : c = '+'
      · subst hc
        have hne : cs ≠ [] := by
          rintro rfl
          cases h
        rw [readNumeral_plus limit hne, hdigits hne] at h
        exact ⟨⟨cs, .inr rfl, h.1⟩, h.2⟩
      · rw [readNumeral_of_ne_plus hc, hdigits (List.cons_ne_nil c cs)] at h
        exact ⟨⟨c :: cs, .inl rfl, h.1⟩, h.2⟩
  · rintro ⟨⟨ds, hcs, hds⟩, hn⟩
    have hread := (hdigits hds.1).2 ⟨hds, hn⟩
    rcases hcs with rfl | rfl
    · obtain ⟨c, cs, rfl⟩ := List.exists_cons_of_ne_nil hds.1
      rw [readNumeral_of_ne_plus (ne_plus_of_isDigit (hds.2.1 c List.mem_cons_self)), hread]
    · rw [readNumeral_plus limit hds.1, hread]

theorem IsNumeral.ne_nil {cs : List Char} {n : Nat} (h : IsNumeral cs n) : cs ≠ [] := by
  obtain ⟨ds, rfl | rfl, hne, -⟩ := h
  · exact hne
  · exact List.cons_ne_nil _ _

theorem IsNumeral.mem {cs : List Char} {n : Nat} (h : IsNumeral cs n) {c : Char} (hc : c ∈ cs) :
    c = '+' ∨ c.isDigit = true := by
  obtain ⟨ds, rfl | rfl, -, hd, -⟩ := h
  · exact .inr (hd c hc)
  · exact (List.mem_cons.1 hc).imp_right (hd c)

/-- A numeral has one value. -/
theorem IsNumeral.unique {cs : List Char} {n m : Nat} (h : IsNumeral cs n) (h' : IsNumeral cs m) :
    n = m := by
  have hn := readNumeral_eq_ok_iff.2 ⟨h, Nat.le_max_left n m⟩
  have hm := readNumeral_eq_ok_iff.2 ⟨h', Nat.le_max_right n m⟩
  exact Except.ok.inj (hn.symm.trans hm)

/-! ## Words with blanks around them -/

/-- A numeral of value `n` with blanks around it. -/
def SpellsNumber (cs : List Char) (n : Nat) : Prop :=
  ∃ w number w', cs = w ++ number ++ w' ∧ Blanks w ∧ IsNumeral number n ∧ Blanks w'

theorem spellsNumber_iff {cs : List Char} {n : Nat} : SpellsNumber cs n ↔ IsNumeral (strip cs) n := by
  constructor
  · rintro ⟨w, number, w', rfl, hw, hnumber, hw'⟩
    have hblank : ∀ c ∈ number, isBlank c = false := by
      intro c hc
      rcases hnumber.mem hc with rfl | hd
      · rfl
      · exact isBlank_of_isDigit hd
    rwa [strip_append hw hw' hnumber.ne_nil hblank]
  · intro h
    obtain ⟨w, w', hcs, hw, hw'⟩ := exists_strip cs
    exact ⟨w, strip cs, w', hcs, hw, h, hw'⟩

theorem SpellsNumber.unique {cs : List Char} {n m : Nat} (h : SpellsNumber cs n)
    (h' : SpellsNumber cs m) : n = m :=
  (spellsNumber_iff.1 h).unique (spellsNumber_iff.1 h')

theorem SpellsNumber.mem {cs : List Char} {n : Nat} (h : SpellsNumber cs n) {c : Char} (hc : c ∈ cs) :
    c.toNat ∈ whiteSpace ∨ c = '+' ∨ c.isDigit = true := by
  obtain ⟨w, number, w', rfl, hw, hnumber, hw'⟩ := h
  simp only [List.mem_append] at hc
  rcases hc with (hc | hc) | hc
  · exact .inl (hw c hc)
  · exact .inr (hnumber.mem hc)
  · exact .inl (hw' c hc)

/-- Blanks alone spell no number. -/
theorem SpellsNumber.not_blanks {cs : List Char} {n : Nat} (h : SpellsNumber cs n) : ¬ Blanks cs := by
  intro hb
  have hstrip : strip cs = [] := by
    rw [strip, List.dropWhile_eq_nil_iff.2 fun c hc => isBlank_iff.2 (hb c hc)]
    rfl
  exact (spellsNumber_iff.1 h).ne_nil hstrip

/-- **A word is read from its spellings and from nothing else.** -/
theorem readWord?_eq_some_iff {cs : List Char} {w : UInt32} :
    readWord? cs = some w ↔ SpellsNumber cs w.toNat := by
  have hsome : readWord? cs = some w ↔
      ∃ n, readNumeral maxWord (strip cs) = .ok n ∧ UInt32.ofNat n = w := by
    unfold readWord?
    cases readNumeral maxWord (strip cs) <;> simp [Except.toOption]
  rw [hsome, spellsNumber_iff]
  constructor
  · rintro ⟨n, hn, rfl⟩
    obtain ⟨hnumeral, hle⟩ := readNumeral_eq_ok_iff.1 hn
    rwa [UInt32.toNat_ofNat_of_lt' (Nat.lt_succ_of_le hle)]
  · intro h
    exact ⟨w.toNat, readNumeral_eq_ok_iff.2 ⟨h, Nat.le_of_lt_succ w.toNat_lt⟩, UInt32.ofNat_toNat⟩

/-! ## The spelling that is written -/

/-- Digits alone, without zeros in front, whose value is `n`. -/
def IsCanonical (cs : List Char) (n : Nat) : Prop :=
  cs ≠ [] ∧ (∀ c ∈ cs, c.isDigit = true) ∧ (cs.head? = some '0' → cs = ['0']) ∧
    Nat.ofDigitChars 10 cs 0 = n

theorem isCanonical_numeral (n : Nat) : IsCanonical (numeral n) n := by
  refine ⟨numeral_ne_nil n, fun c => isDigit_of_mem_numeral, fun hzero => ?_, ofDigitChars_numeral n⟩
  by_cases hn : n = 0
  · subst hn
    rfl
  · exact absurd hzero (head?_numeral (Nat.pos_of_ne_zero hn))

theorem IsCanonical.eq_numeral {cs : List Char} {n : Nat} (h : IsCanonical cs n) : cs = numeral n := by
  induction cs using List.reverseRecOn generalizing n with
  | nil => exact absurd rfl h.1
  | append_singleton ds d ih =>
    obtain ⟨-, hdigits, hzero, hvalue⟩ := h
    have hd : d.isDigit = true := hdigits d (by simp)
    have hlast : [d] = numeral (digitValue d) := by
      rw [numeral, Nat.toDigits_of_lt_base (digitValue_lt hd), digitChar_digitValue hd]
    rw [Nat.ofDigitChars_append] at hvalue
    have hn : n = 10 * Nat.ofDigitChars 10 ds 0 + digitValue d := hvalue.symm
    by_cases hds : ds = []
    · subst hds
      rw [hn]
      exact hlast.trans (congrArg numeral (Nat.zero_add _).symm)
    · -- the digits before the last do not begin with zero
      have hhead : ds.head? ≠ some '0' := by
        intro h0
        have := congrArg List.length (hzero (by rw [List.head?_append_of_ne_nil _ hds, h0]))
        simp [hds] at this
      have hrest : ds = numeral (Nat.ofDigitChars 10 ds 0) :=
        ih ⟨hds, fun c hc => hdigits c (by simp [hc]), fun h0 => absurd h0 hhead, rfl⟩
      have hpos : 0 < Nat.ofDigitChars 10 ds 0 := by
        by_contra h0
        rw [Nat.eq_zero_of_not_pos h0] at hrest
        exact hhead (by rw [hrest]; rfl)
      rw [hn, numeral, ← Nat.toDigits_append_toDigits (by decide) hpos (digitValue_lt hd)]
      exact congrArg₂ (· ++ ·) hrest hlast

/-- **A number has one spelling without signs, blanks and zeros in front**, the one that is written. -/
theorem isCanonical_iff {cs : List Char} {n : Nat} : IsCanonical cs n ↔ cs = numeral n :=
  ⟨IsCanonical.eq_numeral, fun h => h ▸ isCanonical_numeral n⟩

theorem IsCanonical.spellsNumber {cs : List Char} {n : Nat} (h : IsCanonical cs n) :
    SpellsNumber cs n :=
  ⟨[], cs, [], by simp, by simp [Blanks], ⟨cs, .inl rfl, h.1, h.2.1, h.2.2.2⟩, by simp [Blanks]⟩

/-- **A word reads back.** -/
theorem readWord?_numeral (w : UInt32) : readWord? (numeral w.toNat) = some w :=
  readWord?_eq_some_iff.2 (isCanonical_numeral w.toNat).spellsNumber

end BoxPuzzle
