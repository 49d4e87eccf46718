import BoxPuzzle.Proofs.Grid.Board
import BoxPuzzle.Proofs.Layout.Pass

/-!
# The board draws the boxes of the style

A board and a style draw the same boxes in two ways: the one with bars and rules between the cells of a
text, the other with the periods of its edge rules.

* `getElem?_line_field`, `getElem?_line_joint`: where the cells and the joints stand in a line;
* `length_rowLines`, `getElem?_rowLines`, `getElem?_rowLines_rule`: where the rows and the rules stand
  among the lines;
* `IsRule`, `isRule_ruleLine`, `not_isRule_rowLine`, `not_isRule_edge`: rules can be told by their look;
* **`Givens.board_geometry`**.
-/

namespace BoxPuzzle

namespace Board

/-! ## Characters of a line -/

/-- In a sequence of blocks of one length, the block and the place in it give the place of an item. -/
theorem getElem?_flatMap_blocks {β γ : Type} {f : β → List γ} {b : Nat} :
    ∀ {xs : List β}, (∀ x ∈ xs, (f x).length = b) → ∀ j {r : Nat}, r < b →
      (xs.flatMap f)[j * b + r]? = (xs[j]?).bind fun x => (f x)[r]?
  | [], _, j, r, _ => by simp
  | x :: xs, h, 0, r, hr => by
    rw [List.forall_mem_cons] at h
    rw [List.flatMap_cons, Nat.zero_mul, Nat.zero_add, List.getElem?_append_left (by omega)]
    rfl
  | x :: xs, h, j + 1, r, hr => by
    rw [List.forall_mem_cons] at h
    have hidx : (j + 1) * b + r = (f x).length + (j * b + r) := by
      rw [h.1, Nat.succ_mul]
      omega
    rw [List.flatMap_cons, hidx, List.getElem?_append_right (by omega), Nat.add_sub_cancel_left,
      getElem?_flatMap_blocks h.2 j hr]
    rfl

/-- There are `n` cells, each `w` characters wide. -/
structure Fields (n w : Nat) (cells : List (List Char)) : Prop where
  length : cells.length = n
  width : ∀ c ∈ cells, c.length = w

theorem FullRow.fields {n : Nat} {row : List (Option UInt32)} (h : FullRow n row) :
    Fields n (numeral n).length (row.map (cellText (numeral n).length)) :=
  ⟨by rw [List.length_map, h.length], h.length_cells⟩

theorem fields_replicate (n w : Nat) : Fields n w (List.replicate n (List.replicate w '-')) := by
  refine ⟨List.length_replicate, fun c hc => ?_⟩
  rw [List.eq_of_mem_replicate hc, List.length_replicate]

section Line

variable {n width w : Nat} {gap bar : Char} {cells : List (List Char)}

theorem getElem?_joined (h : Fields n w cells) (j : Nat) {r : Nat} (hr : r < w + 1) :
    (joined width gap bar cells)[j * (w + 1) + r]? =
      (cells[j]?).bind fun c => (c ++ [joint width gap bar j])[r]? := by
  have hblocks : ∀ p ∈ cells.zipIdx, (p.1 ++ [joint width gap bar p.2]).length = w + 1 := by
    intro p hp
    rw [List.length_append, h.width p.1 (List.fst_mem_of_mem_zipIdx hp), List.length_singleton]
  have hget := getElem?_flatMap_blocks hblocks j hr
  rw [List.getElem?_zipIdx, Nat.zero_add] at hget
  refine Eq.trans hget ?_
  cases cells[j]? <;> rfl

theorem length_joined (h : Fields n w cells) :
    (joined width gap bar cells).length = n * (w + 1) := by
  obtain ⟨rfl, hw⟩ := h
  induction cells using List.reverseRecOn with
  | nil => simp [joined]
  | append_singleton cells cell ih =>
    simp only [List.mem_append, List.mem_singleton] at hw
    simp only [joined_concat, List.length_append, List.length_singleton, ih fun c hc => hw c (.inl hc),
      hw cell (.inr rfl), Nat.succ_mul]
    omega

theorem length_line (h : Fields n w cells) (hn : 0 < n) :
    (line width gap bar cells).length = n * (w + 1) + 1 := by
  have hpos : 0 < n * (w + 1) := Nat.mul_pos hn (Nat.succ_pos w)
  rw [line, List.length_append, List.length_cons, List.length_dropLast, length_joined h,
    List.length_singleton]
  omega

theorem getElem?_line (h : Fields n w cells) {k : Nat} (hk : k + 1 < n * (w + 1)) :
    (line width gap bar cells)[k + 1]? = (joined width gap bar cells)[k]? := by
  have hlen : k < (joined width gap bar cells).dropLast.length := by
    rw [List.length_dropLast, length_joined h]
    omega
  rw [line, List.cons_append, List.getElem?_cons_succ, List.getElem?_append_left hlen,
    List.getElem?_dropLast, if_pos (by rwa [List.length_dropLast] at hlen)]

theorem getElem?_line_field (h : Fields n w cells) {j r : Nat} {cell : List Char}
    (hj : cells[j]? = some cell) (hr : r < w) :
    (line width gap bar cells)[j * (w + 1) + r + 1]? = cell[r]? := by
  obtain ⟨hlt, -⟩ := List.getElem?_eq_some_iff.1 hj
  rw [h.length] at hlt
  have hk : j * (w + 1) + r + 1 < n * (w + 1) := by
    calc j * (w + 1) + r + 1 < (j + 1) * (w + 1) := by rw [Nat.succ_mul]; omega
      _ ≤ n * (w + 1) := Nat.mul_le_mul_right _ hlt
  rw [getElem?_line h hk, getElem?_joined h j (by omega), hj, Option.bind_some,
    List.getElem?_append_left (by rwa [h.width _ (List.mem_of_getElem? hj)])]

theorem getElem?_line_joint (h : Fields n w cells) {j : Nat} (hj : j + 1 < n) :
    (line width gap bar cells)[(j + 1) * (w + 1)]? = some (joint width gap bar j) := by
  have hk : (j + 1) * (w + 1) < n * (w + 1) := Nat.mul_lt_mul_of_pos_right hj (Nat.succ_pos w)
  have hidx : (j + 1) * (w + 1) = j * (w + 1) + w + 1 := by
    rw [Nat.succ_mul]
    omega
  have hlt : j < cells.length := by
    rw [h.length]
    omega
  rw [hidx] at hk ⊢
  rw [getElem?_line h hk, getElem?_joined h j (by omega), List.getElem?_eq_getElem hlt,
    Option.bind_some, ← h.width _ (List.getElem_mem hlt), List.getElem?_concat_length]

theorem getElem?_line_last (h : Fields n w cells) (hn : 0 < n) :
    (line width gap bar cells)[n * (w + 1)]? = some '|' := by
  have hlen : (line width gap bar cells).length = n * (w + 1) + 1 := length_line h hn
  rw [line, List.length_append, List.length_singleton] at hlen
  rw [line, ← Nat.succ.inj hlen, List.getElem?_concat_length]

/-- A character of a line is one of the bars at its ends, belongs to a cell or is a joint. -/
theorem line_index_cases {k : Nat} (hk : k < n * (w + 1) + 1) :
    k = 0 ∨ k = n * (w + 1) ∨ (∃ j < n, ∃ r < w, k = j * (w + 1) + r + 1) ∨
      ∃ j, j + 1 < n ∧ k = (j + 1) * (w + 1) := by
  obtain rfl | hpos := Nat.eq_zero_or_pos k
  · exact .inl rfl
  have hdiv : (k - 1) / (w + 1) * (w + 1) + (k - 1) % (w + 1) = k - 1 := Nat.div_add_mod' _ _
  have hmod : (k - 1) % (w + 1) < w + 1 := Nat.mod_lt _ (Nat.succ_pos w)
  have hj : (k - 1) / (w + 1) < n := Nat.div_lt_of_lt_mul (by rw [Nat.mul_comm]; omega)
  generalize (k - 1) / (w + 1) = j at hdiv hj
  generalize (k - 1) % (w + 1) = r at hdiv hmod
  by_cases hr : r < w
  · exact .inr (.inr (.inl ⟨j, hj, r, hr, by omega⟩))
  · have hidx : k = (j + 1) * (w + 1) := by
      rw [Nat.succ_mul]
      omega
    by_cases hlast : j + 1 < n
    · exact .inr (.inr (.inr ⟨j, hlast, hidx⟩))
    · obtain rfl : j + 1 = n := by omega
      exact .inr (.inl hidx)

end Line

/-! ## Rows among the lines -/

section Rows

variable {shape : BoxShape} {w n : Nat} {rows : List (List (Option UInt32))}

/-- A rule follows the row with the number `i`. -/
def RuleAfter (shape : BoxShape) (n i : Nat) : Prop :=
  (i + 1) % shape.height.toNat = 0 ∧ i + 1 ≠ n

instance (shape : BoxShape) (n i : Nat) : Decidable (RuleAfter shape n i) :=
  inferInstanceAs (Decidable (_ ∧ _))

theorem rowLines_concat (row : List (Option UInt32)) :
    rowLines shape w n (rows ++ [row]) = rowLines shape w n rows ++ rowLine shape.width.toNat w row ::
      if RuleAfter shape n rows.length then [ruleLine shape.width.toNat w n] else [] := by
  simp only [rowLines, List.zipIdx_append, List.flatMap_append, Nat.zero_add, List.zipIdx_singleton,
    List.flatMap_singleton]
  rfl

theorem rowLines_prefix (shape : BoxShape) (w n : Nat) (before after : List (List (Option UInt32))) :
    rowLines shape w n before <+: rowLines shape w n (before ++ after) := by
  rw [rowLines, rowLines, List.zipIdx_append, List.flatMap_append]
  exact List.prefix_append _ _

/-- Of the first rows of a grid, one in `height` is followed by a rule. -/
theorem length_rowLines (h : rows.length < n) :
    (rowLines shape w n rows).length = rows.length + rows.length / shape.height.toNat := by
  induction rows using List.reverseRecOn with
  | nil => simp [rowLines]
  | append_singleton rows row ih =>
    rw [List.length_append, List.length_singleton] at h ⊢
    rw [rowLines_concat, List.length_append, List.length_cons, ih (by omega), Nat.succ_div]
    have hiff : RuleAfter shape n rows.length ↔ shape.height.toNat ∣ rows.length + 1 := by
      rw [RuleAfter, Nat.dvd_iff_mod_eq_zero]
      constructor
      · exact fun h => h.1
      · exact fun hmod => ⟨hmod, by omega⟩
    simp only [hiff]
    split_ifs
    · rw [List.length_singleton]
      omega
    · rw [List.length_nil]
      omega

/-- The lines of a grid, cut before a row. -/
theorem rowLines_eq_append (shape : BoxShape) (w : Nat) {i : Nat} (hi : i < rows.length)
    (hn : rows.length ≤ n) :
    ∃ before rest, before.length = i + i / shape.height.toNat ∧
      rowLines shape w n rows = before ++ rowLine shape.width.toNat w rows[i] ::
        ((if RuleAfter shape n i then [ruleLine shape.width.toNat w n] else []) ++ rest) := by
  have hlen : (rows.take i).length = i := by
    rw [List.length_take]
    omega
  have hfront : rowLines shape w n (rows.take (i + 1)) = rowLines shape w n (rows.take i) ++
      rowLine shape.width.toNat w rows[i] ::
        if RuleAfter shape n i then [ruleLine shape.width.toNat w n] else [] := by
    rw [← List.take_append_getElem hi, rowLines_concat, hlen]
  obtain ⟨rest, hrest⟩ := rowLines_prefix shape w n (rows.take (i + 1)) (rows.drop (i + 1))
  rw [List.take_append_drop, hfront, List.append_assoc, List.cons_append] at hrest
  refine ⟨rowLines shape w n (rows.take i), rest, ?_, hrest.symm⟩
  rw [length_rowLines (by omega), hlen]

theorem getElem?_rowLines {i : Nat} (hi : i < rows.length) (hn : rows.length ≤ n) :
    (rowLines shape w n rows)[i + i / shape.height.toNat]? =
      some (rowLine shape.width.toNat w rows[i]) := by
  obtain ⟨before, rest, hlen, heq⟩ := rowLines_eq_append shape w hi hn
  rw [heq, ← hlen, List.getElem?_append_right (Nat.le_refl _), Nat.sub_self, List.getElem?_cons_zero]

theorem getElem?_rowLines_rule {i : Nat} (hi : i < rows.length) (hn : rows.length ≤ n)
    (hrule : RuleAfter shape n i) :
    (rowLines shape w n rows)[i + i / shape.height.toNat + 1]? =
      some (ruleLine shape.width.toNat w n) := by
  obtain ⟨before, rest, hlen, heq⟩ := rowLines_eq_append shape w hi hn
  rw [heq, if_pos hrule, ← hlen, List.getElem?_append_right (by omega), Nat.add_sub_cancel_left]
  rfl

end Rows

/-! ## Rules -/

/-- The line is a rule: dashes and crosses between two bars. -/
def IsRule (l : List Char) : Prop :=
  ∃ inner, l = '|' :: inner ++ ['|'] ∧ ∀ c ∈ inner, c = '-' ∨ c = '+'

theorem isRule_ruleLine (width w n : Nat) : IsRule (ruleLine width w n) := by
  refine ⟨_, rfl, fun c hc => ?_⟩
  obtain h | h | ⟨cell, hcell, h⟩ := mem_joined (List.dropLast_subset _ hc)
  · exact .inr h
  · exact .inl h
  · rw [List.eq_of_mem_replicate hcell] at h
    exact .inl (List.eq_of_mem_replicate h)

theorem not_isRule_edge (w n : Nat) : ¬ IsRule (edge w n) := by
  rintro ⟨inner, heq, -⟩
  rw [edge, List.replicate_succ, List.cons_append] at heq
  exact absurd (List.cons.inj heq).1 (by decide)

theorem length_rowLine {n width : Nat} {row : List (Option UInt32)} (hn : 0 < n) (h : FullRow n row) :
    (rowLine width (numeral n).length row).length = ((numeral n).length + 1) * n + 1 := by
  rw [rowLine, length_line h.fields hn, Nat.mul_comm]

theorem length_ruleLine {width w n : Nat} (hn : 0 < n) :
    (ruleLine width w n).length = (w + 1) * n + 1 := by
  rw [ruleLine, length_line (fields_replicate n w) hn, Nat.mul_comm]

/-- The field of a column shows its cell. -/
theorem field_rowLine {n width : Nat} {row : List (Option UInt32)} (h : FullRow n row) {j : Nat}
    {o : Option UInt32} (hj : row[j]? = some o) :
    ((rowLine width (numeral n).length row).drop (j * ((numeral n).length + 1) + 1)).take
      (numeral n).length = cellText (numeral n).length o := by
  have hlen : (cellText (numeral n).length o).length = (numeral n).length :=
    length_cellText (h.digits _ (List.mem_of_getElem? hj))
  have hcell : (row.map (cellText (numeral n).length))[j]? = some (cellText (numeral n).length o) := by
    rw [List.getElem?_map, hj, Option.map_some]
  apply List.ext_getElem?
  intro r
  rw [List.getElem?_take, List.getElem?_drop]
  split_ifs with hr
  · rw [Nat.add_right_comm, rowLine, getElem?_line_field h.fields hcell hr]
  · rw [List.getElem?_eq_none (by omega)]

theorem not_isRule_rowLine {n width : Nat} {row : List (Option UInt32)} (hn : 0 < n)
    (h : FullRow n row) : ¬ IsRule (rowLine width (numeral n).length row) := by
  rintro ⟨inner, heq, hinner⟩
  obtain ⟨o, ho⟩ : ∃ o, row[0]? = some o := ⟨_, List.getElem?_eq_getElem (by rwa [h.length])⟩
  -- the first cell shows something, and that is neither a bar nor part of a rule
  have hlen : 0 < (cellText (numeral n).length o).length := by
    rw [length_cellText (h.digits _ (List.mem_of_getElem? ho))]
    exact length_numeral_pos n
  obtain ⟨c, hc⟩ := List.exists_mem_of_length_pos hlen
  have hcell := mem_cellText hc
  rw [← field_rowLine h ho, heq] at hc
  have hmem := List.mem_of_mem_drop (List.mem_of_mem_take hc)
  simp only [List.cons_append, List.mem_cons, List.mem_append, List.not_mem_nil, or_false] at hmem
  obtain rfl | hmem | rfl := hmem
  · exact absurd hcell (by decide)
  · obtain rfl | rfl := hinner c hmem
    · exact absurd hcell (by decide)
    · exact absurd hcell (by decide)
  · exact absurd hcell (by decide)

/-- The crosses of a rule stand under the bars between boxes. -/
theorem getElem?_ruleLine_eq_plus_iff {width w n k : Nat} (hn : 0 < n) :
    (ruleLine width w n)[k]? = some '+' ↔
      ∃ j, j + 1 < n ∧ (j + 1) % width = 0 ∧ k = (j + 1) * (w + 1) := by
  have hfields := fields_replicate n w
  constructor
  · intro h
    have hk : k < n * (w + 1) + 1 := by
      rw [Nat.mul_comm, ← length_ruleLine hn]
      exact (List.getElem?_eq_some_iff.1 h).1
    rw [ruleLine] at h
    obtain rfl | rfl | ⟨j, hj, r, hr, rfl⟩ | ⟨j, hj, rfl⟩ := line_index_cases hk
    · exact absurd h (by simp [line])
    · rw [getElem?_line_last hfields hn] at h
      exact absurd h (by decide)
    · rw [getElem?_line_field hfields (List.getElem?_replicate_of_lt hj) hr,
        List.getElem?_replicate_of_lt hr] at h
      exact absurd h (by decide)
    · rw [getElem?_line_joint hfields hj, joint] at h
      refine ⟨j, hj, ?_, rfl⟩
      by_contra hmod
      rw [if_neg hmod] at h
      exact absurd h (by decide)
  · rintro ⟨j, hj, hmod, rfl⟩
    rw [ruleLine, getElem?_line_joint hfields hj, joint, if_pos hmod]

/-! ## The lines of a board -/

section Lines

variable {shape : BoxShape} {n : Nat} {rows : List (List (Option UInt32))}

/-- Where the row with the number `i` stands among the lines, if a rule follows every `q`-th row. -/
def rowIndex (q i : Nat) : Nat := 1 + (i + i / q)

theorem getElem?_lines {k : Nat} (hk : k < (rowLines shape (numeral n).length n rows).length) :
    (lines shape n rows)[1 + k]? = (rowLines shape (numeral n).length n rows)[k]? := by
  rw [lines, List.cons_append, Nat.add_comm, List.getElem?_cons_succ, List.getElem?_append_left hk]

theorem getElem?_lines_last : (lines shape n rows)[1 + (rowLines shape (numeral n).length n rows).length]? =
    some (edge (numeral n).length n) := by
  rw [lines, List.cons_append, Nat.add_comm, List.getElem?_cons_succ, List.getElem?_concat_length]

theorem getElem?_lines_row (hrows : rows.length = n) {i : Nat} {row : List (Option UInt32)}
    (hi : rows[i]? = some row) : (lines shape n rows)[rowIndex shape.height.toNat i]? =
      some (rowLine shape.width.toNat (numeral n).length row) := by
  obtain ⟨hlt, rfl⟩ := List.getElem?_eq_some_iff.1 hi
  have hget : (rowLines shape (numeral n).length n rows)[i + i / shape.height.toNat]? =
    some (rowLine shape.width.toNat (numeral n).length rows[i]) := getElem?_rowLines hlt (Nat.le_of_eq hrows)
  rw [rowIndex, getElem?_lines (List.getElem?_eq_some_iff.1 hget).1, hget]

theorem length_rowLines_full (hrows : rows.length = n) (hn : 0 < n) :
    (rowLines shape (numeral n).length n rows).length = n + (n - 1) / shape.height.toNat := by
  obtain ⟨front, last, rfl⟩ := (List.eq_nil_or_concat' rows).resolve_left
    (List.length_pos_iff.1 (by omega))
  rw [List.length_append, List.length_singleton] at hrows
  have hlast : ¬ RuleAfter shape n front.length := fun h => h.2 hrows
  rw [rowLines_concat, if_neg hlast, List.length_append, length_rowLines (by omega),
    List.length_singleton, ← hrows, Nat.add_sub_cancel]
  omega

theorem length_lines (hrows : rows.length = n) (hside : n = shape.width.toNat * shape.height.toNat)
    (hn : 0 < n) : (lines shape n rows).length = n + (shape.width.toNat - 1) + 2 := by
  have hpos : 0 < shape.width.toNat * shape.height.toNat := hside ▸ hn
  have hh : 0 < shape.height.toNat := Nat.pos_of_mul_pos_left hpos
  have hdiv : (n - 1) / shape.height.toNat = shape.width.toNat - 1 := by
    obtain ⟨k, hk⟩ := Nat.exists_eq_add_one.2 (Nat.pos_of_mul_pos_right hpos)
    rw [hside, hk, Nat.add_sub_cancel]
    apply Nat.div_eq_of_lt_le <;> rw [Nat.succ_mul] <;> omega
  rw [lines, List.length_append, List.length_cons, length_rowLines_full hrows hn, hdiv,
    List.length_singleton]

theorem isRule_after_iff (hrows : rows.length = n) (hfull : ∀ row ∈ rows, FullRow n row) {i : Nat}
    (hi : i < n) :
    (∃ l, (lines shape n rows)[rowIndex shape.height.toNat i + 1]? = some l ∧ IsRule l) ↔
      i + 1 < n ∧ (i + 1) % shape.height.toNat = 0 := by
  have hn : 0 < n := by omega
  by_cases hrule : RuleAfter shape n i
  · have hget : (rowLines shape (numeral n).length n rows)[i + i / shape.height.toNat + 1]? =
        some (ruleLine shape.width.toNat (numeral n).length n) :=
      getElem?_rowLines_rule (by omega) (Nat.le_of_eq hrows) hrule
    refine iff_of_true ⟨_, ?_, isRule_ruleLine shape.width.toNat (numeral n).length n⟩ ⟨?_, hrule.1⟩
    · rw [rowIndex, Nat.add_assoc, getElem?_lines (List.getElem?_eq_some_iff.1 hget).1, hget]
    · have := hrule.2
      omega
  · by_cases hlast : i + 1 = n
    · -- the last row is followed by the edge
      have hidx : rowIndex shape.height.toNat i + 1 =
          1 + (rowLines shape (numeral n).length n rows).length := by
        rw [length_rowLines_full hrows hn, rowIndex, ← hlast, Nat.add_sub_cancel]
        omega
      refine iff_of_false ?_ (by omega)
      rintro ⟨l, hl, hrule⟩
      rw [hidx, getElem?_lines_last, Option.some_inj] at hl
      exact not_isRule_edge _ _ (hl ▸ hrule)
    · -- another row follows
      have hmod : (i + 1) % shape.height.toNat ≠ 0 := fun h => hrule ⟨h, hlast⟩
      have hidx : rowIndex shape.height.toNat i + 1 = rowIndex shape.height.toNat (i + 1) := by
        rw [rowIndex, rowIndex, Nat.succ_div, if_neg (mt Nat.mod_eq_zero_of_dvd hmod)]
        omega
      have hnext : rows[i + 1]? = some rows[i + 1] := List.getElem?_eq_getElem (by omega)
      refine iff_of_false ?_ fun h => hmod h.2
      rintro ⟨l, hl, hrule⟩
      rw [hidx, getElem?_lines_row hrows hnext, Option.some_inj] at hl
      exact not_isRule_rowLine hn (hfull _ (List.mem_of_getElem? hnext)) (hl ▸ hrule)

end Lines

end Board

namespace Givens

open Board

variable {α : Type} [Length α]

theorem getElem?_dense (g : Givens) {n : UInt32} {i : Nat} (hi : i < n.toNat) :
    (g.dense n)[i]? = some ((List.range n.toNat).map fun j =>
      g.get? ⟨UInt32.ofNat i, UInt32.ofNat j⟩) := by
  simp [dense, hi]

/-- **The board draws the boxes of the style.** All lines of a board are equally long, and there are as
many as rows and rules and the two edges. The line of a row shows its cells, with a bar between two of
them where the style has the edge of a box, and a rule follows a row where the style has one; the crosses
of the rules stand under the bars. -/
theorem board_geometry (g : Givens) {shape : BoxShape} (hw : 0 < shape.width) (hh : 0 < shape.height)
    {text : String} (h : g.board shape = .ok (.ok text)) (s : Style α) (host : Host α) :
    let n := shape.width.toNat * shape.height.toNat
    let w := (numeral n).length
    let ls := text.toList.splitOn '\n'
    ∃ p q, (s.relayOut host shape).1.periods? = some (p, q) ∧
      ls.length = n + (shape.width.toNat - 1) + 2 ∧ (∀ l ∈ ls, l.length = (w + 1) * n + 1) ∧
      (∀ i < n, ∃ row, ls[rowIndex q.toNat i]? = some row ∧
        (∀ j < n, (row.drop (j * (w + 1) + 1)).take w =
          cellText w (g.get? ⟨UInt32.ofNat i, UInt32.ofNat j⟩)) ∧
        (∀ j, j + 1 < n → row[(j + 1) * (w + 1)]? =
          some (if (j + 1) % p.toNat = 0 then '|' else ' ')) ∧
        ((∃ l, ls[rowIndex q.toNat i + 1]? = some l ∧ IsRule l) ↔
          i + 1 < n ∧ (i + 1) % q.toNat = 0)) ∧
      ∀ l ∈ ls, IsRule l → ∀ k,
        (l[k]? = some '+' ↔ ∃ j, j + 1 < n ∧ (j + 1) % p.toNat = 0 ∧ k = (j + 1) * (w + 1)) ∧
        (l[k]? = some '+' →
          ∀ i < n, ∃ row, ls[rowIndex q.toNat i]? = some row ∧ row[k]? = some '|') := by
  intro n w ls
  obtain ⟨side, hside, hfits, rfl⟩ := board_eq_ok_iff.1 h
  replace hside : side.toNat = n := BoxShape.side_eq_ok_iff.1 hside
  have hls : ls = lines shape n (g.dense side) := by
    rw [← splitOn_text, ← hside]
  have hn : 0 < n := Nat.mul_pos (UInt32.lt_iff_toNat_lt.1 hw) (UInt32.lt_iff_toNat_lt.1 hh)
  have hrows : (g.dense side).length = n := (length_dense g side).trans hside
  have hfull : ∀ row ∈ g.dense side, FullRow n row := by
    intro row hrow
    rw [← hside]
    exact fullRow_of_mem_dense hfits hrow
  have hrow : ∀ i < n, ∃ row, (g.dense side)[i]? = some row ∧ FullRow n row ∧
      ∀ j < n, row[j]? = some (g.get? ⟨UInt32.ofNat i, UInt32.ofNat j⟩) := by
    intro i hi
    rw [← hside] at hi
    refine ⟨_, g.getElem?_dense hi, hfull _ (List.mem_of_getElem? (g.getElem?_dense hi)), fun j hj => ?_⟩
    simp [hside, hj]
  rw [hls]
  refine ⟨shape.width, shape.height, s.periods?_relayOut host shape, length_lines hrows rfl hn,
    ?_, ?_, ?_⟩
  · intro l hl
    obtain rfl | ⟨row, hmem, rfl⟩ | rfl := mem_lines hl
    · exact List.length_replicate
    · exact length_rowLine hn (hfull row hmem)
    · exact length_ruleLine hn
  · intro i hi
    obtain ⟨row, hget, hfullRow, hcells⟩ := hrow i hi
    exact ⟨_, getElem?_lines_row hrows hget, fun j hj => field_rowLine hfullRow (hcells j hj),
      fun j hj => getElem?_line_joint hfullRow.fields hj, isRule_after_iff hrows hfull hi⟩
  · intro l hl hrule k
    obtain rfl | ⟨row, hmem, rfl⟩ | rfl := mem_lines hl
    · exact absurd hrule (not_isRule_edge _ _)
    · exact absurd hrule (not_isRule_rowLine hn (hfull row hmem))
    · refine ⟨getElem?_ruleLine_eq_plus_iff hn, fun hk i hi => ?_⟩
      obtain ⟨j, hj, hmod, rfl⟩ := (getElem?_ruleLine_eq_plus_iff hn).1 hk
      obtain ⟨row, hget, hfullRow, -⟩ := hrow i hi
      refine ⟨_, getElem?_lines_row hrows hget, ?_⟩
      rw [rowLine, getElem?_line_joint hfullRow.fields hj, joint, if_pos hmod]

/-- Boxes of three cells across and two down: bars after the third cell, rules after the second row. -/
theorem board_geometry_of_wide_boxes :
    let g := ofList [(⟨0, 0⟩, 1), (⟨1, 5⟩, 6)]
    (0 < (3 : UInt32) ∧ 0 < (2 : UInt32)) ∧ ∃ text, g.board ⟨3, 2⟩ = .ok (.ok text) ∧
      let ls := text.toList.splitOn '\n'
      ls.length = 10 ∧ (∀ l ∈ ls, l.length = 13) ∧
      (∃ row, ls[2]? = some row ∧ row[6]? = some '|' ∧ row[4]? = some ' ') ∧
      (∃ l, ls[3]? = some l ∧ IsRule l) ∧ ¬ ∃ l, ls[2]? = some l ∧ IsRule l := by
  intro g
  have hpos : 0 < (3 : UInt32) ∧ 0 < (2 : UInt32) := by decide
  obtain ⟨text, htext⟩ : ∃ text, g.board ⟨3, 2⟩ = .ok (.ok text) :=
    ⟨_, board_eq_ok_iff.2 ⟨6, rfl, fault?_eq_none_iff.1 rfl, rfl⟩⟩
  obtain ⟨p, q, hperiods, hlines, hlength, hrows, -⟩ := @board_geometry Float _ g ⟨3, 2⟩ hpos.1 hpos.2
    text htext {} (BoxModel.standard 500).host
  rw [Style.periods?_relayOut, Option.some_inj, Prod.mk.injEq] at hperiods
  obtain ⟨rfl, rfl⟩ := hperiods
  obtain ⟨row, hrow, -, hjoints, hrule⟩ := hrows 1 (by decide)
  obtain ⟨-, -, -, -, hnone⟩ := hrows 0 (by decide)
  refine ⟨hpos, text, htext, hlines, hlength, ⟨row, hrow, hjoints 2 (by decide), hjoints 1 (by decide)⟩,
    hrule.2 (by decide), fun h => absurd (hnone.1 h) (by decide)⟩

end Givens

end BoxPuzzle
