import BoxPuzzle.Proofs.Layout.Fit

/-!
# Rows are set too wide

The third pass multiplies the measured row, which already spans all cells, by their number. The cells are
as large as the container has room for, so in exact arithmetic the product exceeds every container, one
that is too narrow for any cell included.

* `lt_of_cellWidthFor`, `cellWidthFor_nonpos_iff`: the containers that are too narrow for a cell;
* `shownCell`, `overshootRow`, `lt_overshootRow`: the product compared with the container;
* `Style.relayOut_standard`, **`Style.relayOut_overshoots`**: what a layout on a standard page reports.
-/

namespace BoxPuzzle

/-! ## Narrow containers -/

/-- A container has no room for cells that are one pixel wider. -/
theorem lt_of_cellWidthFor (c : ℚ) {shape : BoxShape} (hw : 0 < shape.width) (hh : 0 < shape.height) :
    c < (shape.width.toNat : ℚ) * shape.height.toNat * (cellWidthFor c shape + 3) +
      4 * shape.width.toNat + 5 := by
  rw [cellWidthFor_eq]
  set x : ℤ := ⌊((c - 5) / shape.width.toNat - 4) / shape.height.toNat - 2⌋ with hx
  have hwider : ¬ ((x + 1 : ℤ) : ℚ) ≤ cellWidthFor c shape := by
    rw [cellWidthFor_eq, ← hx, Int.cast_le]
    omega
  rw [le_cellWidthFor_iff hw hh, not_le] at hwider
  push_cast at hwider
  linarith

theorem cellWidthFor_nonpos_iff {c : ℚ} {shape : BoxShape} (hw : 0 < shape.width)
    (hh : 0 < shape.height) : cellWidthFor c shape ≤ 0 ↔
      c < 5 + shape.width.toNat * (4 + 3 * shape.height.toNat) := by
  rw [← not_lt, cellWidthFor_pos_iff, ← Int.cast_one, le_cellWidthFor_iff hw hh, not_le]
  push_cast
  ring_nf

/-! ## The product -/

/-- The cell that a standard page shows. -/
def shownCell (c : ℚ) (shape : BoxShape) : ℚ := max (cellWidthFor c shape) 0

/-- The row that a layout sets on a standard page: the row of the cells shown, times their number. -/
def overshootRow (c : ℚ) (shape : BoxShape) : ℚ :=
  ((shape.width.toNat : ℚ) * shape.height.toNat * (shownCell c shape + 2) + 4 * shape.height.toNat) *
    (shape.width.toNat * shape.height.toNat)

/-- A container that has no room for cells of width `x + 1` is exceeded by the row of cells of width
`x` times their number. -/
theorem lt_row_mul_cells {w h x c : ℚ} (hw : 2 ≤ w) (hh : 2 ≤ h) (hx : 0 ≤ x)
    (hc : c < w * h * (x + 3) + 4 * w + 5) : c < (w * h * (x + 2) + 4 * h) * (w * h) := by
  have hwide : 2 * w ≤ w * h := by nlinarith
  have hcells : 4 ≤ w * h := by linarith
  have hrow : x + 7 ≤ w * h * (x + 2) + 4 * h := by nlinarith
  calc c < w * h * (x + 3) + 4 * w + 5 := hc
    _ ≤ (x + 7) * (w * h) := by linarith
    _ ≤ (w * h * (x + 2) + 4 * h) * (w * h) := by gcongr

theorem lt_overshootRow (c : ℚ) {shape : BoxShape} (hw : 2 ≤ shape.width) (hh : 2 ≤ shape.height) :
    c < overshootRow c shape := by
  have hw' : (2 : ℚ) ≤ shape.width.toNat := by exact_mod_cast UInt32.le_iff_toNat_le.1 hw
  have hh' : (2 : ℚ) ≤ shape.height.toNat := by exact_mod_cast UInt32.le_iff_toNat_le.1 hh
  have hroom := lt_of_cellWidthFor c (UInt32.lt_of_lt_of_le (by decide) hw)
    (UInt32.lt_of_lt_of_le (by decide) hh)
  -- the page shows no smaller cell than the one that was computed
  have hshown : cellWidthFor c shape ≤ shownCell c shape := le_max_left _ _
  apply lt_row_mul_cells (x := shownCell c shape) hw' hh' (le_max_right _ _)
  calc c < _ := hroom
    _ ≤ _ := by gcongr

/-! ## The report -/

theorem nonNegative_eq_max (x : ℚ) : Length.nonNegative x = max x 0 := by
  show (if 0 < x then x else 0) = max x 0
  split_ifs with h
  · exact (max_eq_left h.le).symm
  · exact (max_eq_right (not_lt.1 h)).symm

/-- What is odd about a layout whose row exceeds the container. -/
theorem anomalies_of_lt {c cell row : ℚ} (h : c < row) : anomalies c cell row =
    (if cell ≤ 0 then [.nonPositiveCell cell] else []) ++ [.rowExceedsContainer row c] :=
  congrArg (_ ++ ·) (if_pos h)

namespace Style

theorem relayOut_standard (s : Style ℚ) (c : ℚ) {shape : BoxShape}
    (hside : shape.width.toNat * shape.height.toNat ≤ 4294967295) :
    ∃ t, s.relayOut (BoxModel.standard c).host shape =
      (t, .ok (.ofLengths c (cellWidthFor c shape) (shownCell c shape) (overshootRow c shape))) := by
  set host := (BoxModel.standard c).host
  have hframed : host.cellWidth (s.cleared.framed c shape) = shownCell c shape :=
    nonNegative_eq_max (cellWidthFor c shape)
  have htyped : (BoxModel.standard c).cellWidth (s.cleared.typed host c shape) = shownCell c shape :=
    nonNegative_eq_max (cellWidthFor c shape)
  have hrow := BoxModel.rowWidth_standard c (s := s.cleared.typed host c shape) rfl hside
  rw [htyped] at hrow
  obtain ⟨row, side, hrow', hside', heq⟩ | ⟨hnot, -⟩ := s.cleared.layOut_cases host c shape
  · have hcells : (Length.ofCount side : ℚ) = shape.width.toNat * shape.height.toNat := by
      show (side.toNat : ℚ) = _
      rw [BoxShape.side_eq_ok_iff.1 hside', Nat.cast_mul]
    rw [hrow, Except.ok.injEq] at hrow'
    rw [hframed, hcells, ← hrow'] at heq
    exact ⟨_, heq⟩
  · exact absurd ⟨⟨_, hrow⟩, exists_wordProduct_iff.2 hside⟩ hnot

/-- **A layout always overshoots.** On a standard page and for boxes of at least two cells in each
direction, the rows are set wider than the container, whatever its width, and that is reported. A cell
that is not positive is reported before it, exactly if the container is too narrow for one. -/
theorem relayOut_overshoots (s : Style ℚ) (c : ℚ) {shape : BoxShape} (hw : 2 ≤ shape.width)
    (hh : 2 ≤ shape.height) (hside : shape.width.toNat * shape.height.toNat ≤ 4294967295) :
    ∃ (t : Style ℚ) (report : Report ℚ),
      s.relayOut (BoxModel.standard c).host shape = (t, .ok report) ∧
      t.length? .rows "width" = some report.row ∧ c < report.row ∧
      .rowExceedsContainer report.row c ∈ report.anomalies ∧
      ((∃ cell, .nonPositiveCell cell ∈ report.anomalies) ↔
        c < 5 + shape.width.toNat * (4 + 3 * shape.height.toNat)) ∧
      ((∃ cell, .nonPositiveCell cell ∈ report.anomalies) →
        report.anomalies.head? = some (.nonPositiveCell report.cell)) := by
  have hexceeds : c < overshootRow c shape := lt_overshootRow c hw hh
  obtain ⟨t, ht⟩ := s.relayOut_standard c hside
  refine ⟨t, _, ht, ?_, hexceeds, ?_⟩
  · rw [length?, (rules_relayOut ht).2]
    rfl
  · rw [← cellWidthFor_nonpos_iff (UInt32.lt_of_lt_of_le (by decide) hw)
      (UInt32.lt_of_lt_of_le (by decide) hh)]
    simp only [Report.ofLengths, anomalies_of_lt hexceeds]
    split_ifs with hcell <;> simp [hcell]

/-- A container of negative width, with nothing in it but borders. -/
theorem relayOut_overshoots_negative :
    (2 : UInt32) ≤ 2 ∧ (2 : UInt32) ≤ 3 ∧ (-7 : ℚ) < 5 + 2 * (4 + 3 * 3) ∧
      ∃ (t : Style ℚ) (report : Report ℚ),
        Style.relayOut {} (BoxModel.standard (-7)).host ⟨2, 3⟩ = (t, .ok report) ∧ -7 < report.row ∧
        .rowExceedsContainer report.row (-7) ∈ report.anomalies ∧
        report.anomalies.head? = some (.nonPositiveCell report.cell) := by
  have hw : (2 : UInt32) ≤ 2 := by decide
  have hh : (2 : UInt32) ≤ 3 := by decide
  have hnarrow : (-7 : ℚ) < 5 + 2 * (4 + 3 * 3) := by norm_num
  obtain ⟨t, report, ht, -, hrow, hmem, hiff, hfirst⟩ :=
    @relayOut_overshoots {} (-7) ⟨2, 3⟩ hw hh (by decide)
  exact ⟨hw, hh, hnarrow, t, report, ht, hrow, hmem, hfirst (hiff.2 hnarrow)⟩

-- a grid of one cell has no room for the product to grow
example : (Style.relayOut {} (BoxModel.standard (11 : ℚ)).host ⟨1, 1⟩).2.map Report.row = .ok 6 := by
  decide +kernel

end Style

end BoxPuzzle
