import BoxPuzzle.Grid.Document
import BoxPuzzle.Proofs.Grid.Givens
import BoxPuzzle.Proofs.Grid.Root

/-!
# Documents

A document gets a shape only if its boxes tile its rows, and only if the root of their number is found
where a count is missing. Its givens are its filled cells row by row, as long as every cell has a number of
its own: the columns of a row are counted in 32 bits.

* `Document.wanted_of_counts`, `Document.wanted_of_zero`, `Document.Rootless`: the shape that is tried;
* `Document.shape_eq_ok_iff`, `Document.shape_eq_error_iff`, `Document.proper_of_shape`,
  `Document.exists_side_of_shape`: the shape of a document;
* `Cell.Precedes`: row by row, and within a row from the left;
* `Givens.mem_matrixEntries_iff`, `Givens.pairwise_matrixEntries`: the filled cells and their order;
* `Document.RowMajor`, **`Document.rowMajor_givens`**: the givens of a document whose rows are not too
  long.
-/

namespace BoxPuzzle

namespace Document

variable {d : Document} {s t : BoxShape}

/-! ## The shape that is tried -/

theorem wanted_of_counts (hw : 0 < d.boxes.width.toNat) (hh : 0 < d.boxes.height.toNat) :
    d.wanted = .ok d.boxes := by
  refine if_neg ?_
  rintro (h | h)
  · rw [h] at hw
    exact absurd hw (by decide)
  · rw [h] at hh
    exact absurd hh (by decide)

theorem wanted_of_zero (h : d.boxes.width.toNat = 0 ∨ d.boxes.height.toNat = 0) :
    d.wanted = d.squareSide.map fun r => ⟨r, r⟩ :=
  if_pos (h.imp (fun hw => UInt32.toNat_inj.1 hw) (fun hh => UInt32.toNat_inj.1 hh))

theorem exists_squareSide_eq (hrows : d.rows.length ≤ maxWord) :
    ∃ n : UInt32, n.toNat = d.rows.length ∧ d.squareSide = wordRoot n :=
  ⟨_, UInt32.toNat_ofNat_of_lt' (Nat.lt_succ_of_le hrows), if_pos hrows⟩

theorem squareSide_of_lt (h : d.rows.length < 65535 * 65535) :
    ∃ r : UInt32, d.squareSide = .ok r ∧ r.toNat = Nat.sqrt d.rows.length := by
  obtain ⟨n, hn, hside⟩ := exists_squareSide_eq (Nat.le_trans (Nat.le_of_lt h) (by decide))
  rw [← hn] at h ⊢
  rw [hside]
  exact wordRoot_of_lt h

theorem squareSide_of_le (h : 65535 * 65535 ≤ d.rows.length) (hrows : d.rows.length ≤ maxWord) :
    d.squareSide = .error .product := by
  obtain ⟨n, hn, hside⟩ := exists_squareSide_eq hrows
  rw [← hn] at h
  rw [hside]
  exact wordRoot_of_le h

/-- A count is missing, and the search for the root of the number of rows overflows. -/
def Rootless (d : Document) : Prop :=
  (d.boxes.width.toNat = 0 ∨ d.boxes.height.toNat = 0) ∧ 65535 * 65535 ≤ d.rows.length ∧
    d.rows.length ≤ maxWord

theorem rootless_replicate {k : Nat} (hle : 65535 * 65535 ≤ k) (hk : k ≤ maxWord) :
    Rootless ⟨List.replicate k [], ⟨0, 0⟩⟩ := by
  refine ⟨.inl rfl, ?_⟩
  simp only [List.length_replicate]
  exact ⟨hle, hk⟩

theorem wanted_of_rootless (h : d.Rootless) : d.wanted = .error .product := by
  obtain ⟨hzero, hle, hrows⟩ := h
  rw [wanted_of_zero hzero, squareSide_of_le hle hrows]
  rfl

theorem exists_wanted (h : ¬ d.Rootless) : ∃ s, d.wanted = .ok s := by
  by_cases hzero : d.boxes.width.toNat = 0 ∨ d.boxes.height.toNat = 0
  · obtain ⟨r, hr⟩ : ∃ r, d.squareSide = .ok r := by
      by_cases hrows : d.rows.length ≤ maxWord
      · have hlt : d.rows.length < 65535 * 65535 := Nat.lt_of_not_le fun hle => h ⟨hzero, hle, hrows⟩
        obtain ⟨r, hr, -⟩ := squareSide_of_lt hlt
        exact ⟨r, hr⟩
      · exact ⟨0, if_neg hrows⟩
    rw [wanted_of_zero hzero, hr]
    exact ⟨⟨r, r⟩, rfl⟩
  · rw [not_or] at hzero
    exact ⟨_, wanted_of_counts (Nat.pos_of_ne_zero hzero.1) (Nat.pos_of_ne_zero hzero.2)⟩

/-! ## What comes of it -/

theorem tiled_eq_ok_iff : d.tiled s = .ok t ↔ t = s ∧ 0 < d.rows.length ∧
    s.width.toNat * s.height.toNat = d.rows.length ∧ d.rows.length ≤ maxWord := by
  unfold tiled BoxShape.side? wordProduct?
  by_cases hle : s.width.toNat * s.height.toNat ≤ maxWord
  · have hn := toNat_mul_of_le hle
    simp only [if_pos hle, UInt32.lt_iff_toNat_lt, hn]
    split_ifs with h
    · rw [Except.ok.injEq]
      constructor
      · rintro rfl
        have hpos : 0 < s.width.toNat * s.height.toNat := h.1
        exact ⟨rfl, h.2 ▸ hpos, h.2, h.2 ▸ hle⟩
      · rintro ⟨rfl, -⟩
        rfl
    · rw [iff_false_left (by simp)]
      rintro ⟨-, hpos, hprod, -⟩
      exact h ⟨hprod ▸ hpos, hprod⟩
  · simp only [if_neg hle, reduceCtorEq, false_iff]
    rintro ⟨-, -, hprod, hrows⟩
    exact hle (hprod ▸ hrows)

theorem shape_eq_ok_iff : d.shape = .ok (.ok s) ↔ d.wanted = .ok s ∧ 0 < d.rows.length ∧
    s.width.toNat * s.height.toNat = d.rows.length ∧ d.rows.length ≤ maxWord := by
  rw [shape]
  cases hwanted : d.wanted with
  | error e => simp [Except.map]
  | ok t =>
    rw [Except.map, Except.ok.injEq, tiled_eq_ok_iff, Except.ok.injEq]
    constructor
    · rintro ⟨rfl, h⟩
      exact ⟨rfl, h⟩
    · rintro ⟨rfl, h⟩
      exact ⟨rfl, h⟩

/-- There is a shape or a fault unless the search for the root overflows. -/
theorem shape_eq_error_iff {e : Overflow} : d.shape = .error e ↔ d.Rootless := by
  rw [shape]
  constructor
  · intro h
    by_contra hnot
    obtain ⟨s, hs⟩ := exists_wanted hnot
    rw [hs] at h
    cases h
  · intro h
    cases e
    rw [wanted_of_rootless h]
    rfl

theorem proper_of_shape (h : d.shape = .ok (.ok s)) : s.Proper := by
  obtain ⟨-, hpos, hprod, hrows⟩ := shape_eq_ok_iff.1 h
  rw [← hprod] at hpos hrows
  exact ⟨Nat.pos_of_mul_pos_right hpos, Nat.pos_of_mul_pos_left hpos, hrows⟩

/-- The side of the grid is the number of rows. -/
theorem exists_side_of_shape (h : d.shape = .ok (.ok s)) :
    ∃ n, s.side = .ok n ∧ n.toNat = d.rows.length := by
  have hn := (proper_of_shape h).side_eq
  obtain ⟨-, -, hprod, -⟩ := shape_eq_ok_iff.1 h
  exact ⟨_, hn, (BoxShape.side_eq_ok_iff.1 hn).trans hprod⟩

end Document

/-! ## The filled cells of a matrix -/

/-- The cell comes before the other one: in a row above it, or to its left. -/
def Cell.Precedes (a b : Cell) : Prop :=
  a.row.toNat < b.row.toNat ∨ a.row = b.row ∧ a.column.toNat < b.column.toNat

namespace Givens

variable {rows : List (List (Option UInt32))}

theorem mem_rowEntries_iff {i : Nat} {digits : List (Option UInt32)} {e : Cell × UInt32} :
    e ∈ rowEntries i digits ↔
      ∃ j, digits[j]? = some (some e.2) ∧ e.1 = ⟨UInt32.ofNat i, UInt32.ofNat j⟩ := by
  obtain ⟨c, d⟩ := e
  simp only [rowEntries, List.mem_filterMap, List.mem_zipIdx_iff_getElem?, Option.map_eq_some_iff,
    Prod.exists, Prod.mk.injEq]
  constructor
  · rintro ⟨o, j, hj, d', rfl, rfl, rfl⟩
    exact ⟨j, hj, rfl⟩
  · rintro ⟨j, hj, rfl⟩
    exact ⟨some d, j, hj, d, rfl, rfl, rfl⟩

theorem mem_matrixEntries_iff {e : Cell × UInt32} :
    e ∈ matrixEntries rows ↔ ∃ i j, rows[i]?.bind (·[j]?) = some (some e.2) ∧
      e.1 = ⟨UInt32.ofNat i, UInt32.ofNat j⟩ := by
  simp only [matrixEntries, List.mem_flatMap, Prod.exists, List.mem_zipIdx_iff_getElem?,
    mem_rowEntries_iff, Option.bind_eq_some_iff]
  constructor
  · rintro ⟨digits, i, hi, j, hj, he⟩
    exact ⟨i, j, ⟨digits, hi, hj⟩, he⟩
  · rintro ⟨i, j, ⟨digits, hi, hj⟩, he⟩
    exact ⟨digits, i, hi, j, hj, he⟩

theorem pairwise_zipIdx {β : Type} (xs : List β) : xs.zipIdx.Pairwise fun p q => p.2 < q.2 := by
  have h : (xs.zipIdx.map Prod.snd).Pairwise (· < ·) := by
    rw [List.zipIdx_map_snd]
    exact List.pairwise_lt_range' 1
  exact List.pairwise_map.1 h

theorem toNat_ofNat_lt_of_lt {i j : Nat} (h : i < j) (hj : j < 4294967296) :
    (UInt32.ofNat i).toNat < (UInt32.ofNat j).toNat := by
  rw [UInt32.toNat_ofNat_of_lt' (Nat.lt_trans h hj), UInt32.toNat_ofNat_of_lt' hj]
  exact h

theorem pairwise_rowEntries (i : Nat) {digits : List (Option UInt32)}
    (h : digits.length ≤ 4294967296) :
    (rowEntries i digits).Pairwise fun a b => a.1.Precedes b.1 := by
  rw [rowEntries, List.pairwise_filterMap]
  refine (pairwise_zipIdx digits).imp_of_mem fun {p q} _ hq hlt a ha b hb => ?_
  obtain ⟨d, -, rfl⟩ := Option.map_eq_some_iff.1 ha
  obtain ⟨e, -, rfl⟩ := Option.map_eq_some_iff.1 hb
  have hlen : q.2 < digits.length := by simpa using List.snd_lt_of_mem_zipIdx hq
  exact .inr ⟨rfl, toNat_ofNat_lt_of_lt hlt (by omega)⟩

theorem pairwise_matrixEntries (hrows : rows.length ≤ 4294967296)
    (hcolumns : ∀ digits ∈ rows, digits.length ≤ 4294967296) :
    (matrixEntries rows).Pairwise fun a b => a.1.Precedes b.1 := by
  rw [matrixEntries, List.pairwise_flatMap]
  constructor
  · intro p hp
    exact pairwise_rowEntries p.2 (hcolumns p.1 (List.fst_mem_of_mem_zipIdx hp))
  · refine (pairwise_zipIdx rows).imp_of_mem fun {p q} _ hq hlt a ha b hb => ?_
    obtain ⟨j, -, ha⟩ := mem_rowEntries_iff.1 ha
    obtain ⟨k, -, hb⟩ := mem_rowEntries_iff.1 hb
    have hlen : q.2 < rows.length := by simpa using List.snd_lt_of_mem_zipIdx hq
    rw [ha, hb]
    exact .inl (toNat_ofNat_lt_of_lt hlt (by omega))

/-- Cells in order are distinct, so they are stored as they are. -/
theorem entries_ofMatrix (hrows : rows.length ≤ 4294967296)
    (hcolumns : ∀ digits ∈ rows, digits.length ≤ 4294967296) :
    (ofMatrix rows).entries = matrixEntries rows := by
  refine entries_ofList (List.pairwise_map.2 ?_)
  refine (pairwise_matrixEntries hrows hcolumns).imp fun {a b} h heq => ?_
  rw [heq] at h
  obtain h | h := h
  · exact Nat.lt_irrefl _ h
  · exact Nat.lt_irrefl _ h.2

theorem mem_entries_ofMatrix_iff (hrows : rows.length ≤ 4294967296)
    (hcolumns : ∀ digits ∈ rows, digits.length ≤ 4294967296) {e : Cell × UInt32} :
    e ∈ (ofMatrix rows).entries ↔
      rows[e.1.row.toNat]?.bind (·[e.1.column.toNat]?) = some (some e.2) := by
  rw [entries_ofMatrix hrows hcolumns, mem_matrixEntries_iff]
  constructor
  · rintro ⟨i, j, hij, hcell⟩
    obtain ⟨digits, hi, hj⟩ := Option.bind_eq_some_iff.1 hij
    obtain ⟨hi', -⟩ := List.getElem?_eq_some_iff.1 hi
    obtain ⟨hj', -⟩ := List.getElem?_eq_some_iff.1 hj
    have hlen := hcolumns digits (List.mem_of_getElem? hi)
    rw [hcell, UInt32.toNat_ofNat_of_lt' (Nat.lt_of_lt_of_le hi' hrows),
      UInt32.toNat_ofNat_of_lt' (Nat.lt_of_lt_of_le hj' hlen)]
    exact hij
  · intro h
    exact ⟨_, _, h, by rw [UInt32.ofNat_toNat, UInt32.ofNat_toNat]⟩

end Givens

namespace Document

/-- The placements are the filled cells of the document, row by row and from the left. -/
structure RowMajor (d : Document) (ps : List Placement) : Prop where
  ordered : ps.Pairwise fun p q => p.cell.Precedes q.cell
  filled : ∀ p, p ∈ ps ↔ d.rows[p.row.toNat]?.bind (·[p.column.toNat]?) = some (some p.digit)

theorem rowMajor_givens {d : Document} (hrows : d.rows.length ≤ maxWord)
    (hcolumns : ∀ digits ∈ d.rows, digits.length ≤ 4294967296) :
    d.RowMajor d.givens.placements := by
  have hrows' : d.rows.length ≤ 4294967296 := Nat.le_trans hrows (by decide)
  constructor
  · rw [Givens.placements, List.pairwise_map, givens, Givens.entries_ofMatrix hrows' hcolumns]
    exact Givens.pairwise_matrixEntries hrows' hcolumns
  · intro p
    refine Iff.trans ?_ (Givens.mem_entries_ofMatrix_iff hrows' hcolumns (e := (p.cell, p.digit)))
    rw [Givens.placements, List.mem_map]
    constructor
    · rintro ⟨e, he, rfl⟩
      exact he
    · intro he
      exact ⟨_, he, rfl⟩

end Document

end BoxPuzzle
