import BoxPuzzle.Proofs.Grid.Board
import BoxPuzzle.Proofs.Grid.Document

/-!
# Matrices and back

Givens that fit a grid of side `n` fill a matrix of `n` rows of `n` cells. Written into an empty matrix
one after the other, every digit finds its cell, and what results is the matrix with the digit of every
cell. Read row by row it holds the same digits, and a matrix that holds digits of the grid is what its
own digits fill.

* `IsSquare`, `IsSquare.ext`: square matrices, cell by cell;
* `writeEntry?`, `Givens.written?`: the dense form by writing, where a write may miss;
* `Givens.writeEntry?_dense`, `Givens.foldlM_writeEntry?_dense`: one write, and all of them;
* `Givens.toMatrix_eq_ok_iff`, `Givens.toMatrix_eq_error_iff`: when there is a matrix;
* `Givens.get?_ofMatrix`, `Givens.dense_ofMatrix`: the digits of a matrix;
* **`Givens.matrix_roundTrip`**.
-/

namespace BoxPuzzle

variable {n i j : Nat} {rows : List (List (Option UInt32))}

/-! ## Square matrices -/

/-- The matrix has `n` rows of `n` cells. -/
def IsSquare (n : Nat) (rows : List (List (Option UInt32))) : Prop :=
  rows.length = n ∧ ∀ row ∈ rows, row.length = n

theorem IsSquare.ext {rows' : List (List (Option UInt32))} (h : IsSquare n rows) (h' : IsSquare n rows')
    (hcells : ∀ i < n, ∀ j < n, rows[i]?.bind (·[j]?) = rows'[i]?.bind (·[j]?)) : rows = rows' := by
  refine List.ext_getElem (h.1.trans h'.1.symm) fun i hi hi' => ?_
  have hlen := h.2 _ (List.getElem_mem hi)
  have hlen' := h'.2 _ (List.getElem_mem hi')
  refine List.ext_getElem (hlen.trans hlen'.symm) fun j hj hj' => ?_
  have hcell := hcells i (h.1 ▸ hi) j (hlen ▸ hj)
  simpa [hi, hi', hj, hj'] using hcell

theorem IsSquare.exists_cell (h : IsSquare n rows) (hi : i < n) (hj : j < n) :
    ∃ o, rows[i]?.bind (·[j]?) = some o := by
  obtain ⟨row, hrow⟩ : ∃ row, rows[i]? = some row :=
    ⟨_, List.getElem?_eq_getElem (by rwa [h.1])⟩
  rw [hrow]
  exact ⟨_, List.getElem?_eq_getElem (by rwa [h.2 row (List.mem_of_getElem? hrow)])⟩

theorem IsSquare.set {row : List (Option UInt32)} (h : IsSquare n rows) (hrow : row.length = n) (i : Nat) :
    IsSquare n (rows.set i row) := by
  refine ⟨List.length_set.trans h.1, fun r hr => ?_⟩
  obtain hr | rfl := List.mem_or_eq_of_mem_set hr
  · exact h.2 r hr
  · exact hrow

theorem cell_set {row : List (Option UInt32)} {r c : Nat} (hrow : rows[r]? = some row)
    (hc : c < row.length) (o : Option UInt32) (i j : Nat) :
    (rows.set r (row.set c o))[i]?.bind (·[j]?) =
      if i = r ∧ j = c then some o else rows[i]?.bind (·[j]?) := by
  obtain ⟨hr, -⟩ := List.getElem?_eq_some_iff.1 hrow
  by_cases hi : i = r
  · subst hi
    rw [List.getElem?_set_self hr, hrow, Option.bind_some, Option.bind_some]
    by_cases hj : j = c
    · subst hj
      rw [List.getElem?_set_self hc, if_pos ⟨rfl, rfl⟩]
    · rw [List.getElem?_set_ne (Ne.symm hj), if_neg fun h => hj h.2]
  · rw [List.getElem?_set_ne (Ne.symm hi), if_neg fun h => hi h.1]

/-- A side that is a word leaves room to number rows and columns in 32 bits. -/
theorem IsSquare.bounds {side : UInt32} (h : IsSquare side.toNat rows) :
    rows.length ≤ 4294967296 ∧ ∀ row ∈ rows, row.length ≤ 4294967296 := by
  have hside := side.toNat_lt
  refine ⟨by rw [h.1]; omega, fun row hrow => ?_⟩
  rw [h.2 row hrow]
  omega

/-! ## Writing digit by digit -/

theorem Cell.mk_ofNat_eq_iff {side : UInt32} {c : Cell} (hi : i < side.toNat) (hj : j < side.toNat) :
    (⟨UInt32.ofNat i, UInt32.ofNat j⟩ : Cell) = c ↔ i = c.row.toNat ∧ j = c.column.toNat := by
  obtain ⟨row, column⟩ := c
  rw [Cell.mk.injEq, ← UInt32.toNat_inj, ← UInt32.toNat_inj,
    UInt32.toNat_ofNat_of_lt' (Nat.lt_trans hi side.toNat_lt),
    UInt32.toNat_ofNat_of_lt' (Nat.lt_trans hj side.toNat_lt)]

/-- Writes the digit of an entry into its cell, if the matrix has that cell. -/
def writeEntry? (rows : List (List (Option UInt32))) (e : Cell × UInt32) :
    Option (List (List (Option UInt32))) :=
  rows[e.1.row.toNat]?.bind fun row =>
    if e.1.column.toNat < row.length then
      some (rows.set e.1.row.toNat (row.set e.1.column.toNat (some e.2)))
    else none

namespace Givens

variable {g : Givens} {side : UInt32}

/-- The digits written one after the other into an empty matrix of side `n`, if none misses. -/
def written? (g : Givens) (n : UInt32) : Option (List (List (Option UInt32))) :=
  g.entries.foldlM writeEntry? (List.replicate n.toNat (List.replicate n.toNat none))

theorem isSquare_dense (g : Givens) (side : UInt32) : IsSquare side.toNat (g.dense side) := by
  refine ⟨length_dense g side, fun row hrow => ?_⟩
  obtain ⟨i, -, rfl⟩ := List.mem_map.1 hrow
  simp

theorem cell_dense (g : Givens) (hi : i < side.toNat) (hj : j < side.toNat) :
    (g.dense side)[i]?.bind (·[j]?) = some (g.get? ⟨UInt32.ofNat i, UInt32.ofNat j⟩) := by
  simp [dense, hi, hj]

/-- **One write** hits if its cell lies in the grid, and then does to the matrix what filling the cell
does to the givens. -/
theorem writeEntry?_dense (g : Givens) (side : UInt32) (e : Cell × UInt32) :
    writeEntry? (g.dense side) e =
      if e.1.row.toNat < side.toNat ∧ e.1.column.toNat < side.toNat then
        some ((g.insert e.1 e.2).dense side)
      else none := by
  unfold writeEntry?
  by_cases hrow : e.1.row.toNat < side.toNat
  · obtain ⟨row, hget⟩ : ∃ row, (g.dense side)[e.1.row.toNat]? = some row :=
      ⟨_, List.getElem?_eq_getElem (by rwa [length_dense])⟩
    have hlen : row.length = side.toNat := (isSquare_dense g side).2 row (List.mem_of_getElem? hget)
    by_cases hcolumn : e.1.column.toNat < side.toNat
    · rw [if_pos ⟨hrow, hcolumn⟩, hget, Option.bind_some, if_pos (hlen ▸ hcolumn), Option.some_inj]
      refine ((isSquare_dense g side).set (List.length_set.trans hlen) _).ext (isSquare_dense _ side)
        fun i hi j hj => ?_
      rw [cell_set hget (hlen ▸ hcolumn), cell_dense g hi hj, cell_dense _ hi hj, get?_insert]
      by_cases hcell : i = e.1.row.toNat ∧ j = e.1.column.toNat
      · rw [if_pos hcell, if_pos ((Cell.mk_ofNat_eq_iff hi hj).2 hcell)]
      · rw [if_neg hcell, if_neg (mt (Cell.mk_ofNat_eq_iff hi hj).1 hcell)]
    · rw [if_neg fun h => hcolumn h.2, hget, Option.bind_some, if_neg (hlen ▸ hcolumn)]
  · have hget : (g.dense side)[e.1.row.toNat]? = none :=
      List.getElem?_eq_none (by rw [length_dense]; omega)
    rw [if_neg fun h => hrow h.1, hget, Option.bind_none]

/-- **All writes** hit if all cells lie in the grid, and fill the matrix as they fill the givens. -/
theorem foldlM_writeEntry?_dense (g : Givens) (side : UInt32) (es : List (Cell × UInt32)) :
    es.foldlM writeEntry? (g.dense side) =
      if ∀ e ∈ es, e.1.row.toNat < side.toNat ∧ e.1.column.toNat < side.toNat then
        some ((es.foldl (fun g e => g.insert e.1 e.2) g).dense side)
      else none := by
  induction es generalizing g with
  | nil => simp
  | cons e es ih =>
    rw [List.foldlM_cons, writeEntry?_dense]
    by_cases he : e.1.row.toNat < side.toNat ∧ e.1.column.toNat < side.toNat
    · rw [if_pos he, List.foldl_cons]
      refine (ih _).trans ?_
      simp only [List.forall_mem_cons, he, true_and]
    · rw [if_neg he, if_neg fun h => he (h e List.mem_cons_self)]
      rfl

theorem written?_eq (g : Givens) (side : UInt32) : g.written? side =
    if ∀ e ∈ g.entries, e.1.row.toNat < side.toNat ∧ e.1.column.toNat < side.toNat then
      some (g.dense side)
    else none := by
  have hempty : List.replicate side.toNat (List.replicate side.toNat none) = empty.dense side := by
    simp [dense, get?, empty, List.map_const']
  have hself : g.entries.foldl (fun g e => g.insert e.1 e.2) empty = g :=
    eq_of_entries_eq (entries_ofList g.distinct)
  rw [written?, hempty, foldlM_writeEntry?_dense, hself]

/-! ## From givens to a matrix -/

theorem toMatrix_eq_ok_iff : g.toMatrix side = .ok rows ↔ g.Fits side.toNat ∧ rows = g.dense side := by
  rw [← validate_eq_ok_iff, toMatrix]
  cases g.validate side with
  | error e => simp [bind, Except.bind]
  | ok u => simp [bind, Except.bind, pure, Except.pure, eq_comm]

theorem toMatrix_eq_error_iff {error : GridError} : g.toMatrix side = .error error ↔
    ∃ e, g.FirstMisfit side.toNat e ∧ error = misfitError side e := by
  rw [← fault?_eq_some_iff, toMatrix, validate]
  cases g.fault? side <;> simp [bind, Except.bind, pure, Except.pure]

theorem written?_of_fits (h : g.Fits side.toNat) : g.written? side = some (g.dense side) := by
  rw [written?_eq, if_pos fun e he => ⟨(h e he).1, (h e he).2.1⟩]

/-! ## From a matrix to givens -/

theorem get?_ofMatrix (hrows : rows.length ≤ 4294967296)
    (hcolumns : ∀ digits ∈ rows, digits.length ≤ 4294967296) (c : Cell) :
    (ofMatrix rows).get? c = (rows[c.row.toNat]?.bind (·[c.column.toNat]?)).join := by
  apply Option.ext
  intro d
  rw [get?_eq_some_iff, mem_entries_ofMatrix_iff hrows hcolumns, Option.join_eq_some_iff]

theorem pairwise_cells_ofMatrix (hrows : rows.length ≤ 4294967296)
    (hcolumns : ∀ digits ∈ rows, digits.length ≤ 4294967296) :
    (ofMatrix rows).cells.Pairwise Cell.Precedes := by
  rw [cells, entries_ofMatrix hrows hcolumns, List.pairwise_map]
  exact pairwise_matrixEntries hrows hcolumns

/-- In a grid of side `n`, the givens of a matrix have the digits of its first `n` rows and columns. -/
theorem get?_ofMatrix_ofNat (hrows : rows.length ≤ 4294967296)
    (hcolumns : ∀ digits ∈ rows, digits.length ≤ 4294967296) (hi : i < side.toNat)
    (hj : j < side.toNat) :
    (ofMatrix rows).get? ⟨UInt32.ofNat i, UInt32.ofNat j⟩ = (rows[i]?.bind (·[j]?)).join := by
  obtain ⟨hrow, hcolumn⟩ := (Cell.mk_ofNat_eq_iff hi hj).1 rfl
  rw [get?_ofMatrix hrows hcolumns, ← hrow, ← hcolumn]

theorem ofMatrix_dense_same (h : g.Fits side.toNat) : (ofMatrix (g.dense side)).same g = true := by
  obtain ⟨hrows, hcolumns⟩ := (isSquare_dense g side).bounds
  rw [same_iff]
  intro c
  rw [get?_ofMatrix hrows hcolumns]
  by_cases hc : c.row.toNat < side.toNat ∧ c.column.toNat < side.toNat
  · rw [cell_dense g hc.1 hc.2, UInt32.ofNat_toNat, UInt32.ofNat_toNat]
    rfl
  · rw [get?_eq_none_of_fits h hc]
    by_cases hrow : c.row.toNat < side.toNat
    · have hcolumn : ¬ c.column.toNat < side.toNat := fun hj => hc ⟨hrow, hj⟩
      simp [dense, hrow, hcolumn]
    · simp [dense, hrow]

theorem dense_ofMatrix (h : IsSquare side.toNat rows) : (ofMatrix rows).dense side = rows := by
  obtain ⟨hrows, hcolumns⟩ := h.bounds
  refine (isSquare_dense _ side).ext h fun i hi j hj => ?_
  rw [cell_dense _ hi hj, get?_ofMatrix_ofNat hrows hcolumns hi hj]
  obtain ⟨o, ho⟩ := h.exists_cell hi hj
  rw [ho]
  rfl

theorem fits_ofMatrix (h : IsSquare side.toNat rows)
    (hdigits : ∀ row ∈ rows, ∀ o ∈ row, ∀ d ∈ o, 1 ≤ d.toNat ∧ d.toNat ≤ side.toNat) :
    (ofMatrix rows).Fits side.toNat := by
  obtain ⟨hrows, hcolumns⟩ := h.bounds
  intro e he
  rw [mem_entries_ofMatrix_iff hrows hcolumns, Option.bind_eq_some_iff] at he
  obtain ⟨row, hrow, hcell⟩ := he
  obtain ⟨hi, -⟩ := List.getElem?_eq_some_iff.1 hrow
  obtain ⟨hj, -⟩ := List.getElem?_eq_some_iff.1 hcell
  have hmem := List.mem_of_getElem? hrow
  refine ⟨h.1 ▸ hi, h.2 row hmem ▸ hj, ?_⟩
  exact hdigits row hmem _ (List.mem_of_getElem? hcell) e.2 rfl

/-! ## There and back -/

/-- **Givens and matrices are exchanged without loss.** There is a matrix exactly if all entries fit the
grid, and else the first entry that does not is reported. All writes into the matrix hit; it has `n` rows
of `n` cells with the digit of every cell, and its own givens are the same, with their cells in row-major
order. A matrix of `n` rows of `n` cells with digits of the grid comes back from its givens. -/
theorem matrix_roundTrip (n : UInt32) :
    (∀ g : Givens,
      ((∃ rows, g.toMatrix n = .ok rows) ↔ g.Fits n.toNat) ∧
      (∀ error, g.toMatrix n = .error error ↔
        ∃ e, g.FirstMisfit n.toNat e ∧ error = misfitError n e) ∧
      ∀ rows, g.toMatrix n = .ok rows →
        g.written? n = some rows ∧ IsSquare n.toNat rows ∧
        (∀ i < n.toNat, ∀ j < n.toNat,
          rows[i]?.bind (·[j]?) = some (g.get? ⟨UInt32.ofNat i, UInt32.ofNat j⟩)) ∧
        (ofMatrix rows).same g = true ∧ (ofMatrix rows).cells.Pairwise Cell.Precedes) ∧
    ∀ rows, IsSquare n.toNat rows →
      (∀ row ∈ rows, ∀ o ∈ row, ∀ d ∈ o, 1 ≤ d.toNat ∧ d.toNat ≤ n.toNat) →
      (ofMatrix rows).toMatrix n = .ok rows := by
  refine ⟨fun g => ⟨?_, fun error => toMatrix_eq_error_iff, fun rows h => ?_⟩, fun rows h hdigits => ?_⟩
  · simp only [toMatrix_eq_ok_iff, exists_and_left, exists_eq, and_true]
  · obtain ⟨hfits, rfl⟩ := toMatrix_eq_ok_iff.1 h
    have hsquare := isSquare_dense g n
    exact ⟨written?_of_fits hfits, hsquare, fun i hi j hj => cell_dense g hi hj,
      ofMatrix_dense_same hfits, pairwise_cells_ofMatrix hsquare.bounds.1 hsquare.bounds.2⟩
  · exact toMatrix_eq_ok_iff.2 ⟨fits_ofMatrix h hdigits, (dense_ofMatrix h).symm⟩

/-- Three digits that were filled in from below, and a fourth one outside the grid. -/
theorem matrix_roundTrip_sample :
    let g := ofList [(⟨2, 1⟩, 3), (⟨0, 3⟩, 4), (⟨0, 0⟩, 1)]
    let rows := [[some 1, none, none, some 4], [none, none, none, none], [none, some 3, none, none],
      [none, none, none, none]]
    g.toMatrix 4 = .ok rows ∧ g.written? 4 = some rows ∧ (ofMatrix rows).same g = true ∧
      (ofMatrix rows).entries = [(⟨0, 0⟩, 1), (⟨0, 3⟩, 4), (⟨2, 1⟩, 3)] ∧
      IsSquare 4 rows ∧ (∀ row ∈ rows, ∀ o ∈ row, ∀ d ∈ o, 1 ≤ d.toNat ∧ d.toNat ≤ 4) ∧
      (ofMatrix rows).toMatrix 4 = .ok rows ∧
      (g.insert ⟨0, 4⟩ 0).toMatrix 4 = .error (.cellOutOfRange ⟨0, 4⟩ 4) := by
  intro g rows
  have hg : g.toMatrix 4 = .ok rows := rfl
  have hsquare : IsSquare 4 rows := ⟨rfl, by decide⟩
  have hdigits : ∀ row ∈ rows, ∀ o ∈ row, ∀ d ∈ o, 1 ≤ d.toNat ∧ d.toNat ≤ 4 := by simp [rows]
  obtain ⟨hwritten, -, -, hsame, -⟩ := ((matrix_roundTrip 4).1 g).2.2 rows hg
  exact ⟨hg, hwritten, hsame, rfl, hsquare, hdigits, (matrix_roundTrip 4).2 rows hsquare hdigits, rfl⟩

end Givens

end BoxPuzzle
