import BoxPuzzle.Proofs.Grid.Document
import BoxPuzzle.Proofs.Session.Step

/-!
# Boxes that tile a document

A document with two box counts has their shape if they tile its rows, and one that lacks a count has
square boxes if its number of rows is a square whose root is found. The counts are multiplied as numbers: a
product that only looks like the number of rows when its high bits are cut off tiles nothing.

* `Document.tiled_eq`: a shape that is tried, or the fault with it;
* `Document.shape_of_counts`, `Document.shape_of_zero`: the shape of a document, or the fault with what was
  tried;
* `Configuration.set_wordText`: every shape that has a grid can be typed in;
* **`Document.shape_tiles_rows`**, `Document.shape_of_largest_square`: all cases, and the least number of rows
  whose root is not found.
-/

namespace BoxPuzzle

namespace Document

variable {d : Document}

theorem tiled_eq (hrows : d.rows.length ≤ maxWord) (s : BoxShape) : d.tiled s =
    if 0 < d.rows.length ∧ s.width.toNat * s.height.toNat = d.rows.length then .ok s
    else .error (.untileable d.rows.length s) := by
  split_ifs with h
  · exact tiled_eq_ok_iff.2 ⟨rfl, h.1, h.2, hrows⟩
  · have hnot : d.tiled s ≠ .ok s := by
      intro hs
      obtain ⟨-, hpos, hprod, -⟩ := tiled_eq_ok_iff.1 hs
      exact h ⟨hpos, hprod⟩
    unfold tiled at hnot ⊢
    split
    · next side hside =>
      rw [hside] at hnot
      exact if_neg fun htiles => hnot (if_pos htiles)
    · rfl

/-- With both counts, these are tried. -/
theorem shape_of_counts (hrows : d.rows.length ≤ maxWord) (hw : 0 < d.boxes.width.toNat)
    (hh : 0 < d.boxes.height.toNat) : d.shape =
    .ok (if d.boxes.width.toNat * d.boxes.height.toNat = d.rows.length then .ok d.boxes
      else .error (.untileable d.rows.length d.boxes)) := by
  have hpos : d.boxes.width.toNat * d.boxes.height.toNat = d.rows.length → 0 < d.rows.length :=
    fun h => h ▸ Nat.mul_pos hw hh
  rw [shape, wanted_of_counts hw hh, Except.map, tiled_eq hrows]
  simp only [and_iff_right_of_imp hpos]

/-- Without one of them, square boxes are tried. -/
theorem shape_of_zero (hrows : d.rows.length < 65535 * 65535)
    (hzero : d.boxes.width.toNat = 0 ∨ d.boxes.height.toNat = 0) :
    ∃ s : UInt32, s.toNat = Nat.sqrt d.rows.length ∧ d.shape =
      .ok (if 0 < d.rows.length ∧ s.toNat * s.toNat = d.rows.length then .ok ⟨s, s⟩
        else .error (.untileable d.rows.length ⟨s, s⟩)) := by
  obtain ⟨s, hside, hs⟩ := squareSide_of_lt hrows
  refine ⟨s, hs, ?_⟩
  rw [shape, wanted_of_zero hzero, hside, Except.map, Except.map,
    tiled_eq (Nat.le_trans (Nat.le_of_lt hrows) (by decide))]

end Document

/-- A shape that has a grid is set from the texts of its counts. -/
theorem Configuration.set_wordText {c : Configuration} (hc : c.frozen = false) {shape : BoxShape}
    (h : shape.Proper) :
    c.set (some (wordText shape.width)) (some (wordText shape.height)) =
      ({ c with shape }, .applied shape) := by
  rw [Configuration.set, hc, typedShape?_wordText h]
  rfl

/-! ## All cases -/

namespace Document

/-- **The boxes of a document tile its rows.** With two counts the shape is theirs if their product is
the number of rows. Without one, and with fewer rows than the largest square of a word, it is `r × r` if
that number is the square of a positive `r`; from that square on the search for the root overflows.
Otherwise the fault tells the number of rows and what was tried: the counts, or the square root rounded
down. A shape that a document has is positive, its side is the number of rows, and typing its counts sets
it. -/
theorem shape_tiles_rows {d : Document} (hrows : d.rows.length < 4294967296) :
    let n := d.rows.length
    let w := d.boxes.width.toNat
    let h := d.boxes.height.toNat
    (0 < w ∧ 0 < h →
      (d.shape = .ok (.ok d.boxes) ↔ w * h = n) ∧
      (w * h ≠ n → d.shape = .ok (.error (.untileable n d.boxes)))) ∧
    (w = 0 ∨ h = 0 → n < 65535 * 65535 →
      (∀ r : UInt32, d.shape = .ok (.ok ⟨r, r⟩) ↔ n = r.toNat * r.toNat ∧ 1 ≤ r.toNat) ∧
      ((¬ ∃ r, n = r * r ∧ 1 ≤ r) →
        ∃ s : UInt32, s.toNat = Nat.sqrt n ∧ d.shape = .ok (.error (.untileable n ⟨s, s⟩)))) ∧
    (w = 0 ∨ h = 0 → 65535 * 65535 ≤ n → d.shape = .error .product) ∧
    ∀ shape, d.shape = .ok (.ok shape) →
      0 < shape.width.toNat ∧ 0 < shape.height.toNat ∧
      (∃ side, shape.side = .ok side ∧ side.toNat = n) ∧
      ∀ c : Configuration, c.frozen = false →
        c.set (some (wordText shape.width)) (some (wordText shape.height)) =
          ({ c with shape }, .applied shape) := by
  intro n w h
  replace hrows : n ≤ maxWord := Nat.le_of_lt_succ hrows
  refine ⟨fun hcounts => ?_, fun hzero hlt => ?_, fun hzero hle => ?_, fun shape hshape => ?_⟩
  · rw [shape_of_counts hrows hcounts.1 hcounts.2]
    exact ⟨by simp [n, w, h], fun hne => congrArg _ (if_neg hne)⟩
  · obtain ⟨s, hs, hshape⟩ := shape_of_zero hlt hzero
    refine ⟨fun r => ⟨fun hok => ?_, fun hr => ?_⟩, fun hsquare => ⟨s, hs, ?_⟩⟩
    · obtain ⟨-, hpos, hprod, -⟩ := shape_eq_ok_iff.1 hok
      exact ⟨hprod.symm, Nat.pos_of_mul_pos_left (hprod ▸ hpos)⟩
    · -- the root of a square is the number that was squared
      have hroot : Nat.sqrt n = r.toNat := by rw [hr.1, Nat.sqrt_eq]
      obtain rfl : s = r := UInt32.toNat_inj.1 (hs.trans hroot)
      have hpos : 0 < n := hr.1 ▸ Nat.mul_pos hr.2 hr.2
      exact hshape.trans (congrArg _ (if_pos ⟨hpos, hr.1.symm⟩))
    · refine hshape.trans (congrArg _ (if_neg fun htiles => hsquare ⟨s.toNat, htiles.2.symm, ?_⟩))
      exact Nat.pos_of_mul_pos_left (htiles.2 ▸ htiles.1)
  · exact shape_eq_error_iff.2 ⟨hzero, hle, hrows⟩
  · have hproper := proper_of_shape hshape
    exact ⟨hproper.1, hproper.2.1, exists_side_of_shape hshape, fun c hc =>
      Configuration.set_wordText hc hproper⟩

/-- Two counts whose product is the number of rows once its high bits are cut off, and four rows without
a count. -/
theorem shape_tiles_sample_rows :
    let wrapping : Document := ⟨[[], []], ⟨2147483649, 2⟩⟩
    let square : Document := ⟨[[], [], [], []], ⟨0, 7⟩⟩
    (wrapping.rows.length < 4294967296 ∧ wrapping.boxes.width * wrapping.boxes.height = 2 ∧
      wrapping.shape = .ok (.error (.untileable 2 ⟨2147483649, 2⟩))) ∧
    square.rows.length < 4294967296 ∧ square.shape = .ok (.ok ⟨2, 2⟩) ∧
      ∀ c : Configuration, c.frozen = false →
        c.set (some "2") (some "2") = ({ c with shape := ⟨2, 2⟩ }, .applied ⟨2, 2⟩) := by
  intro wrapping square
  have hwrapping : wrapping.rows.length < 4294967296 := by decide
  have hsquare : square.rows.length < 4294967296 := by decide
  have hshape : square.shape = .ok (.ok ⟨2, 2⟩) :=
    (((shape_tiles_rows hsquare).2.1 (.inl rfl) (by decide)).1 2).2 ⟨rfl, by decide⟩
  exact ⟨⟨hwrapping, by decide, ((shape_tiles_rows hwrapping).1 (by decide)).2 (by decide)⟩, hsquare,
    hshape, ((shape_tiles_rows hsquare).2.2.2 _ hshape).2.2.2⟩

/-- `65535 × 65535` rows without counts: their number is a square and a word, and they have no shape. -/
theorem shape_of_largest_square :
    let d : Document := ⟨List.replicate 4294836225 [], ⟨0, 0⟩⟩
    let r : UInt32 := 65535
    d.rows.length < 4294967296 ∧ d.rows.length = r.toNat * r.toNat ∧ 1 ≤ r.toNat ∧
      d.shape ≠ .ok (.ok ⟨r, r⟩) ∧ d.shape = .error .product := by
  intro d r
  have hlength : d.rows.length = 4294836225 := List.length_replicate
  have hshape : d.shape = .error .product :=
    shape_eq_error_iff.2 (rootless_replicate (by decide) (by decide))
  rw [hlength, hshape]
  exact ⟨by decide, by decide, by decide, nofun, rfl⟩

end Document

end BoxPuzzle
