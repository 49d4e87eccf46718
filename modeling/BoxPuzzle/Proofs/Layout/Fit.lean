import BoxPuzzle.Proofs.Layout.Pass
import Mathlib.Data.Rat.Floor
import Mathlib.Tactic.Linarith
import Mathlib.Tactic.Ring

/-!
# How wide the rows of a layout are

The size of a cell takes a gutter off the container, four pixels off each of `width` parts of it, and the
borders off each of `height` cells in a part. A page draws a wide border after every `width` cells of a
row, that is `height` of them. In exact arithmetic the two accounts differ by four pixels for each cell
that a box is higher than wide, and the gutter of five is to spare.

* `cellWidthFor_eq`, `le_cellWidthFor_iff`: the container that a cell of a given size needs;
* `BoxModel.rowWidth_standard`: the row that a standard page shows;
* `framedRow`, `exists_framedRow_iff`, `framedRow_eq_ok`: the one that it shows after the first pass;
* **`framedRow_fits`**, `framedRow_exceeds`: rows fit unless the boxes are tall.
-/

namespace BoxPuzzle

/-! ## Cells -/

theorem cellWidthFor_eq (c : ℚ) (shape : BoxShape) : cellWidthFor c shape =
    (⌊((c - 5) / shape.width.toNat - 4) / shape.height.toNat - 2⌋ : ℚ) := rfl

theorem toNat_cast_pos {a : UInt32} (h : 0 < a) : (0 : ℚ) < a.toNat :=
  Nat.cast_pos.2 (UInt32.lt_iff_toNat_lt.1 h)

/-- A cell of size `x` needs room for itself, for its borders and for the gutters. -/
theorem le_cellWidthFor_iff {c : ℚ} {shape : BoxShape} (hw : 0 < shape.width) (hh : 0 < shape.height)
    {x : ℤ} : (x : ℚ) ≤ cellWidthFor c shape ↔
      (shape.width.toNat : ℚ) * shape.height.toNat * (x + 2) + 4 * shape.width.toNat + 5 ≤ c := by
  have hw := toNat_cast_pos hw
  have hh := toNat_cast_pos hh
  rw [cellWidthFor_eq, Int.cast_le, Int.le_floor, le_sub_iff_add_le, le_div_iff₀ hh, le_sub_iff_add_le,
    le_div_iff₀ hw, le_sub_iff_add_le]
  ring_nf

/-- A cell is a whole number of pixels wide. -/
theorem cellWidthFor_pos_iff {c : ℚ} {shape : BoxShape} :
    0 < cellWidthFor c shape ↔ 1 ≤ cellWidthFor c shape := by
  rw [cellWidthFor_eq, Int.cast_pos, ← Int.cast_one, Int.cast_le]
  exact Int.lt_iff_add_one_le

/-! ## Rows -/

/-- The row that a standard page shows after the first pass on a cleared style. -/
def framedRow (s : Style ℚ) (c : ℚ) (shape : BoxShape) : Checked ℚ :=
  (BoxModel.standard c).host.rowWidth (s.cleared.framed c shape)

theorem exists_framedRow_iff (s : Style ℚ) (c : ℚ) (shape : BoxShape) :
    (∃ row, framedRow s c shape = .ok row) ↔
      shape.width.toNat * shape.height.toNat ≤ 4294967295 :=
  (BoxModel.standard c).exists_rowWidth_iff (s.cleared.framed c shape)

/-- A row on a standard page: each cell has two borders, and the last of a box is four pixels wider. -/
theorem BoxModel.rowWidth_standard (c : ℚ) {s : Style ℚ} {shape : BoxShape}
    (hs : s.periods? = some (shape.width, shape.height))
    (hside : shape.width.toNat * shape.height.toNat ≤ 4294967295) :
    (BoxModel.standard c).host.rowWidth s =
      .ok ((shape.width.toNat : ℚ) * shape.height.toNat * ((BoxModel.standard c).cellWidth s + 2) +
        4 * shape.height.toNat) := by
  obtain ⟨n, hn⟩ := exists_wordProduct_iff.2 hside
  have hcells : n.toNat = shape.width.toNat * shape.height.toNat := BoxShape.side_eq_ok_iff.1 hn
  have hrow : (BoxModel.standard c).host.rowWidth s =
      .ok ((n.toNat : ℚ) * ((BoxModel.standard c).cellWidth s + 2 * 1) +
        shape.height.toNat * (5 - 1)) := by
    show (BoxModel.standard c).rowWidth s = _
    unfold BoxModel.rowWidth
    rw [hs]
    show (wordProduct shape.width shape.height >>= _) = _
    rw [hn]
    rfl
  rw [hrow, hcells]
  push_cast
  ring_nf

theorem framedRow_eq_ok {s : Style ℚ} {c : ℚ} {shape : BoxShape} (hc : 0 < cellWidthFor c shape)
    {row : ℚ} (h : framedRow s c shape = .ok row) :
    row = (shape.width.toNat : ℚ) * shape.height.toNat * (cellWidthFor c shape + 2) +
      4 * shape.height.toNat := by
  have hside := (exists_framedRow_iff s c shape).1 ⟨row, h⟩
  have hcell : (BoxModel.standard c).cellWidth (s.cleared.framed c shape) = cellWidthFor c shape :=
    if_pos hc
  rw [framedRow, BoxModel.rowWidth_standard c rfl hside, hcell] at h
  exact (Except.ok.inj h).symm

theorem framedRow_le {s : Style ℚ} {c : ℚ} {shape : BoxShape} (hw : 0 < shape.width)
    (hh : 0 < shape.height) (hc : 0 < cellWidthFor c shape) {row : ℚ}
    (h : framedRow s c shape = .ok row) :
    row ≤ c - 5 + 4 * ((shape.height.toNat : ℚ) - shape.width.toNat) := by
  -- the cell has the size that the container has room for
  have hroom := (le_cellWidthFor_iff hw hh).1 (cellWidthFor_eq c shape).ge
  rw [← cellWidthFor_eq] at hroom
  have hrow := framedRow_eq_ok hc h
  linarith

/-- The least container for cells of one pixel is too narrow for tall boxes. -/
theorem exists_framedRow_exceeds (s : Style ℚ) {shape : BoxShape} (hw : 0 < shape.width)
    (hh : 0 < shape.height) (hside : shape.width.toNat * shape.height.toNat ≤ 4294967295)
    (htall : shape.width.toNat + 1 < shape.height.toNat) :
    ∃ c row, 0 < cellWidthFor c shape ∧ framedRow s c shape = .ok row ∧ c < row := by
  obtain ⟨c, hc⟩ : ∃ c : ℚ, c =
    (shape.width.toNat : ℚ) * shape.height.toNat * ((1 : ℤ) + 2) + 4 * shape.width.toNat + 5 := ⟨_, rfl⟩
  have hone : 1 ≤ cellWidthFor c shape := by
    rw [← Int.cast_one]
    exact (le_cellWidthFor_iff hw hh).2 hc.ge
  obtain ⟨row, hrow⟩ := (exists_framedRow_iff s c shape).2 hside
  refine ⟨c, row, cellWidthFor_pos_iff.2 hone, hrow, ?_⟩
  have hcells : (shape.width.toNat : ℚ) * shape.height.toNat * (1 + 2) ≤
      shape.width.toNat * shape.height.toNat * (cellWidthFor c shape + 2) := by
    gcongr
  have htall' : (shape.width.toNat : ℚ) + 2 ≤ shape.height.toNat := by exact_mod_cast htall
  have heq := framedRow_eq_ok (cellWidthFor_pos_iff.2 hone) hrow
  rw [Int.cast_one] at hc
  linarith

/-- **Rows fit unless the boxes are tall.** Where the container has room for cells, the row that a
standard page shows exceeds what five pixels leave of it by at most four for each cell that a box is
higher than wide. So it fits if a box is at most one cell higher than wide; for every higher box there
is a container that its row exceeds. -/
theorem framedRow_fits (s : Style ℚ) {shape : BoxShape} (hw : 0 < shape.width)
    (hh : 0 < shape.height) :
    (∀ c, (∃ row, framedRow s c shape = .ok row) ↔
      shape.width.toNat * shape.height.toNat ≤ 4294967295) ∧
    (∀ c row, 0 < cellWidthFor c shape → framedRow s c shape = .ok row →
      row ≤ c - 5 + 4 * ((shape.height.toNat : ℚ) - shape.width.toNat)) ∧
    (shape.height.toNat ≤ shape.width.toNat + 1 →
      ∀ c row, 0 < cellWidthFor c shape → framedRow s c shape = .ok row → row ≤ c) ∧
    (shape.width.toNat + 1 < shape.height.toNat →
      shape.width.toNat * shape.height.toNat ≤ 4294967295 →
      ∃ c row, 0 < cellWidthFor c shape ∧ framedRow s c shape = .ok row ∧ c < row) := by
  refine ⟨fun c => exists_framedRow_iff s c shape, fun c row hc h => framedRow_le hw hh hc h, ?_, ?_⟩
  · intro hflat c row hc h
    have hle := framedRow_le hw hh hc h
    have hflat' : (shape.height.toNat : ℚ) ≤ shape.width.toNat + 1 := by exact_mod_cast hflat
    linarith
  · intro htall hside
    exact exists_framedRow_exceeds s hw hh hside htall

/-- Square boxes in the default container. -/
theorem framedRow_fits_square :
    (0 : UInt32) < 3 ∧ (0 : ℚ) < cellWidthFor 500 ⟨3, 3⟩ ∧
      framedRow {} 500 ⟨3, 3⟩ = .ok 489 ∧ (489 : ℚ) ≤ 500 := by
  have hpos : (0 : UInt32) < 3 := by decide
  have hc : (0 : ℚ) < cellWidthFor 500 ⟨3, 3⟩ := by decide +kernel
  have hrow : framedRow {} 500 ⟨3, 3⟩ = .ok 489 := by decide +kernel
  obtain ⟨-, -, hfits, -⟩ := @framedRow_fits {} ⟨3, 3⟩ hpos hpos
  exact ⟨hpos, hc, hrow, hfits (by decide) 500 489 hc hrow⟩

/-- Boxes of two cells across and six down in the default container: their rows take 504 pixels. -/
theorem framedRow_exceeds :
    ¬ ∀ (c : ℚ) (shape : BoxShape), 0 < shape.width → 0 < shape.height →
      0 < cellWidthFor c shape → ∀ row, framedRow {} c shape = .ok row → row ≤ c := by
  intro h
  have hrow : framedRow {} 500 ⟨2, 6⟩ = .ok 504 := by decide +kernel
  have hle := h 500 ⟨2, 6⟩ (by decide) (by decide) (by decide +kernel) 504 hrow
  exact absurd hle (by decide +kernel)

end BoxPuzzle
