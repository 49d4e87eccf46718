import BoxPuzzle.Grid.Error
import BoxPuzzle.Proofs.Text.Spelling

/-!
# How cells may be spelled

A cell is read from any spelling of its row, a comma and any spelling of its column. All other texts are
returned in the fault, and of the many spellings of a cell its written form is the canonical one.

* `Cell.Spells`, `Cell.spells_append_iff`, `Cell.ofChars?_eq_some_iff`: what is read as a cell;
* `Cell.Spells.unique`, `Cell.Spells.count_comma`, `Cell.Spells.mem`: what spellings are like;
* `Cell.SpellsCanonically`, `Cell.spellsCanonically_iff`: what is written for it;
* `Cell.ofText?_text`, `Cell.text_injective`: the written form reads back;
* **`Cell.parse_accepts_spellings`**.
-/

namespace BoxPuzzle

namespace Cell

/-! ## What is read -/

/-- Two numbers with a comma between them, each with blanks around it. -/
def Spells (cs : List Char) (row column : Nat) : Prop :=
  ∃ left right, cs = left ++ ',' :: right ∧ SpellsNumber left row ∧ SpellsNumber right column

theorem comma_notMem {cs : List Char} {n : Nat} (h : SpellsNumber cs n) : ',' ∉ cs :=
  fun hc => absurd (h.mem hc) (by decide)

/-- Neither number has a comma, so a text is cut at the only one. -/
theorem spells_append_iff {left right : List Char} {row column : Nat} :
    Spells (left ++ ',' :: right) row column ↔ SpellsNumber left row ∧ SpellsNumber right column := by
  constructor
  · rintro ⟨left', right', heq, hrow, hcolumn⟩
    obtain ⟨rfl, -, rfl⟩ :=
      (List.append_cons_inj_of_notMem (comma_notMem hrow) (comma_notMem hcolumn)).1 heq.symm
    exact ⟨hrow, hcolumn⟩
  · intro h
    exact ⟨left, right, rfl, h⟩

theorem ofChars?_append {left : List Char} (hleft : ',' ∉ left) (right : List Char) :
    ofChars? (left ++ ',' :: right) =
      (readWord? left).bind fun row => (readWord? right).map fun column => ⟨row, column⟩ := by
  have hcomma : ∀ c ∈ left, (c != ',') = true := by
    intro c hc
    rw [bne_iff_ne]
    rintro rfl
    exact hleft hc
  have hdrop : (left ++ ',' :: right).dropWhile (· != ',') = ',' :: right := by
    rw [List.dropWhile_append_of_pos hcomma]
    rfl
  have htake : (left ++ ',' :: right).takeWhile (· != ',') = left := by
    rw [List.takeWhile_append_of_pos hcomma]
    exact List.append_nil left
  rw [ofChars?, hdrop, htake]
  simp only [Option.map_eq_bind]
  rfl

theorem ofChars?_of_notMem {cs : List Char} (h : ',' ∉ cs) : ofChars? cs = none := by
  have hdrop : cs.dropWhile (· != ',') = [] := by
    rw [List.dropWhile_eq_nil_iff]
    intro c hc
    rw [bne_iff_ne]
    rintro rfl
    exact h hc
  rw [ofChars?, hdrop]

/-- **A cell is read from its spellings and from nothing else.** -/
theorem ofChars?_eq_some_iff {cs : List Char} {cell : Cell} :
    ofChars? cs = some cell ↔ Spells cs cell.row.toNat cell.column.toNat := by
  by_cases hcomma : ',' ∈ cs
  · obtain ⟨left, right, rfl, hleft⟩ := List.eq_append_cons_of_mem hcomma
    obtain ⟨row, column⟩ := cell
    rw [ofChars?_append hleft, spells_append_iff, ← readWord?_eq_some_iff, ← readWord?_eq_some_iff]
    cases readWord? left <;> cases readWord? right <;> simp
  · rw [ofChars?_of_notMem hcomma]
    refine iff_of_false nofun ?_
    rintro ⟨left, right, rfl, -⟩
    simp at hcomma

theorem parse_eq_ok_iff {s : String} {cell : Cell} :
    parse s = .ok cell ↔ Spells s.toList cell.row.toNat cell.column.toNat := by
  rw [← ofChars?_eq_some_iff, parse, ofText?]
  cases ofChars? s.toList <;> simp

theorem parse_eq_error_iff {s : String} :
    parse s = .error (.malformedCell s) ↔
      ∀ cell : Cell, ¬ Spells s.toList cell.row.toNat cell.column.toNat := by
  simp only [← ofChars?_eq_some_iff, parse, ofText?]
  cases ofChars? s.toList <;> simp

/-! ## What spellings are like -/

/-- A text spells at most one row and one column. -/
theorem Spells.unique {cs : List Char} {row column row' column' : Nat} (h : Spells cs row column)
    (h' : Spells cs row' column') : row = row' ∧ column = column' := by
  obtain ⟨left, right, rfl, hrow, hcolumn⟩ := h
  obtain ⟨hrow', hcolumn'⟩ := spells_append_iff.1 h'
  exact ⟨hrow.unique hrow', hcolumn.unique hcolumn'⟩

theorem Spells.count_comma {cs : List Char} {row column : Nat} (h : Spells cs row column) :
    cs.count ',' = 1 := by
  obtain ⟨left, right, rfl, hrow, hcolumn⟩ := h
  simp [List.count_eq_zero.2 (comma_notMem hrow), List.count_eq_zero.2 (comma_notMem hcolumn)]

theorem Spells.mem {cs : List Char} {row column : Nat} (h : Spells cs row column) {c : Char}
    (hc : c ∈ cs) : c = ',' ∨ c.toNat ∈ whiteSpace ∨ c = '+' ∨ c.isDigit = true := by
  obtain ⟨left, right, rfl, hrow, hcolumn⟩ := h
  simp only [List.mem_append, List.mem_cons] at hc
  rcases hc with hc | hc | hc
  · exact .inr (hrow.mem hc)
  · exact .inl hc
  · exact .inr (hcolumn.mem hc)

/-! ## What is written -/

/-- Two canonical numbers with nothing but a comma between them. -/
def SpellsCanonically (cs : List Char) (row column : Nat) : Prop :=
  ∃ left right, cs = left ++ ',' :: right ∧ IsCanonical left row ∧ IsCanonical right column

theorem spellsCanonically_iff {cs : List Char} {cell : Cell} :
    SpellsCanonically cs cell.row.toNat cell.column.toNat ↔ cs = cell.chars := by
  simp only [SpellsCanonically, isCanonical_iff, chars]
  constructor
  · rintro ⟨left, right, rfl, rfl, rfl⟩
    rfl
  · rintro rfl
    exact ⟨_, _, rfl, rfl, rfl⟩

theorem spells_chars (cell : Cell) : Spells cell.chars cell.row.toNat cell.column.toNat :=
  ⟨_, _, rfl, (isCanonical_numeral _).spellsNumber, (isCanonical_numeral _).spellsNumber⟩

/-- **The written form of a cell reads back.** -/
theorem ofText?_text (cell : Cell) : ofText? cell.text = some cell := by
  rw [ofText?, text, String.toList_ofList, ofChars?_eq_some_iff]
  exact cell.spells_chars

theorem text_injective : Function.Injective text := by
  intro a b h
  have hread := congrArg ofText? h
  rwa [ofText?_text, ofText?_text, Option.some.injEq] at hread

/-- **Reading a cell accepts exactly its spellings.** Any other text is returned in the fault: one with
a second comma or a minus sign, with nothing on one side of the comma, or with a number that is too
large. The written form of a cell is read as that cell and is its only canonical spelling. -/
theorem parse_accepts_spellings (s : String) :
    (∀ cell : Cell, parse s = .ok cell ↔ Spells s.toList cell.row.toNat cell.column.toNat) ∧
    ((∀ cell : Cell, ¬ Spells s.toList cell.row.toNat cell.column.toNat) →
      parse s = .error (.malformedCell s)) ∧
    (1 < s.toList.count ',' ∨ '-' ∈ s.toList ∨
      (∃ left right, s.toList = left ++ ',' :: right ∧ (Blanks left ∨ Blanks right)) ∨
      (∃ row column, Spells s.toList row column ∧ (4294967295 < row ∨ 4294967295 < column)) →
        parse s = .error (.malformedCell s)) ∧
    (∀ cell : Cell, parse cell.text = .ok cell) ∧
    ∀ cell : Cell, parse s = .ok cell →
      ∀ t : String, SpellsCanonically t.toList cell.row.toNat cell.column.toNat ↔ t = cell.text := by
  refine ⟨fun cell => parse_eq_ok_iff, parse_eq_error_iff.2, fun hflaw => ?_, fun cell => ?_,
    fun cell _ t => ?_⟩
  · rw [parse_eq_error_iff]
    intro cell hspells
    rcases hflaw with hcount | hdash | ⟨left, right, heq, hblanks⟩ | ⟨row, column, hlarge, hrange⟩
    · rw [hspells.count_comma] at hcount
      omega
    · exact absurd (hspells.mem hdash) (by decide)
    · rw [heq, spells_append_iff] at hspells
      exact hblanks.elim hspells.1.not_blanks hspells.2.not_blanks
    · obtain ⟨rfl, rfl⟩ := hspells.unique hlarge
      have := cell.row.toNat_lt
      have := cell.column.toNat_lt
      omega
  · rw [parse_eq_ok_iff, text, String.toList_ofList]
    exact cell.spells_chars
  · rw [spellsCanonically_iff, text]
    constructor
    · intro ht
      rw [← ht, String.ofList_toList]
    · rintro rfl
      exact String.toList_ofList

/-- A spelling of a cell with all that is allowed, and texts that come close to one. -/
theorem parse_accepts_sample_spellings :
    parse "\u3000+4 ,\t0011" = .ok ⟨4, 11⟩ ∧
      (∀ t : String, SpellsCanonically t.toList 4 11 ↔ t = "4,11") ∧
      parse "1,2,3" = .error (.malformedCell "1,2,3") ∧
      parse "-1,0" = .error (.malformedCell "-1,0") ∧
      parse "4, \u00a0" = .error (.malformedCell "4, \u00a0") ∧
      parse "0,4294967296" = .error (.malformedCell "0,4294967296") := by
  have hblanks : Blanks ['\u3000'] ∧ Blanks [' '] ∧ Blanks ['\t'] ∧ Blanks [' ', '\u00a0'] := by
    simp [Blanks, whiteSpace]
  have hspells : Spells "\u3000+4 ,\t0011".toList 4 11 :=
    ⟨['\u3000', '+', '4', ' '], ['\t', '0', '0', '1', '1'], by decide,
      ⟨['\u3000'], ['+', '4'], [' '], rfl, hblanks.1, ⟨['4'], .inr rfl, by simp, by simp, rfl⟩,
        hblanks.2.1⟩,
      ⟨['\t'], ['0', '0', '1', '1'], [], rfl, hblanks.2.2.1,
        ⟨['0', '0', '1', '1'], .inl rfl, by simp, by simp, rfl⟩, by simp [Blanks]⟩⟩
  have hlarge : Spells "0,4294967296".toList 0 4294967296 :=
    ⟨['0'], numeral 4294967296, by decide, (isCanonical_numeral 0).spellsNumber,
      (isCanonical_numeral 4294967296).spellsNumber⟩
  have hok := ((parse_accepts_spellings "\u3000+4 ,\t0011").1 ⟨4, 11⟩).2 hspells
  refine ⟨hok, (parse_accepts_spellings _).2.2.2.2 ⟨4, 11⟩ hok, ?_, ?_, ?_, ?_⟩
  · exact (parse_accepts_spellings _).2.2.1 (.inl (by decide))
  · exact (parse_accepts_spellings _).2.2.1 (.inr (.inl (by decide)))
  · exact (parse_accepts_spellings _).2.2.1
      (.inr (.inr (.inl ⟨['4'], [' ', '\u00a0'], by decide, .inr hblanks.2.2.2⟩)))
  · exact (parse_accepts_spellings _).2.2.1
      (.inr (.inr (.inr ⟨0, 4294967296, hlarge, .inr (by decide)⟩)))

end Cell

end BoxPuzzle
