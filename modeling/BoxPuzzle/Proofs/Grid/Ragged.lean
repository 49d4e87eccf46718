import BoxPuzzle.Proofs.Grid.Matrix
import BoxPuzzle.Proofs.Session.Submission

/-!
# Ragged documents

The rows of a document may be shorter or longer than the grid is wide; only their number is fixed by the
shape. A digit to the right of the grid is a fault, like a digit that the grid does not have. Where there
is none, every digit stands in the grid where it stands in the document: cells that a row lacks are
empty, and empty cells that it has too many are left away.

* `Document.HasDigit`, `Document.HasRoom`, `Document.FirstMisplaced`: digits by row and column;
* `Document.fits_givens_iff`, `Document.firstMisplaced_of_firstMisfit`: the same of the givens;
* `Givens.board_of_side`, `Service.submit_of_fault`, `Service.received_submit_of_fits`: what a grid of a
  given side makes of givens;
* **`Document.ragged_rows_keep_places`**.
-/

namespace BoxPuzzle

/-! ## Digits of a document -/

theorem Cell.Precedes.asymm {a b : Cell} (h : a.Precedes b) : ¬ b.Precedes a := by
  rintro (hrow | ⟨hrow, hcolumn⟩)
  · obtain h | ⟨h, -⟩ := h
    · omega
    · rw [h] at hrow
      omega
  · obtain h | ⟨-, h⟩ := h
    · rw [hrow] at h
      omega
    · omega

/-- In a list in row-major order, what precedes an entry stands before it. -/
theorem mem_before_of_precedes {before after : List (Cell × UInt32)} {e e' : Cell × UInt32}
    (hsorted : (before ++ e :: after).Pairwise fun a b => a.1.Precedes b.1)
    (hmem : e' ∈ before ++ e :: after) (h : e'.1.Precedes e.1) : e' ∈ before := by
  rw [List.pairwise_append, List.pairwise_cons] at hsorted
  obtain ⟨-, ⟨hafter, -⟩, -⟩ := hsorted
  rw [List.mem_append, List.mem_cons] at hmem
  obtain hmem | rfl | hmem := hmem
  · exact hmem
  · exact absurd h h.asymm
  · exact absurd h (hafter e' hmem).asymm

namespace Document

/-- The document has this digit in row `i` and column `j`. -/
def HasDigit (d : Document) (i j : Nat) (digit : UInt32) : Prop :=
  d.rows[i]?.bind (·[j]?) = some (some digit)

/-- The column lies in a grid with as many columns as the document has rows, and the digit is one of
that grid. -/
def HasRoom (d : Document) (j : Nat) (digit : UInt32) : Prop :=
  j < d.rows.length ∧ 1 ≤ digit.toNat ∧ digit.toNat ≤ d.rows.length

/-- The digit in row `i` and column `j` is the first one without room, row by row and from the left. -/
def FirstMisplaced (d : Document) (i j : Nat) (digit : UInt32) : Prop :=
  d.HasDigit i j digit ∧ ¬ d.HasRoom j digit ∧
    ∀ i' j' digit', d.HasDigit i' j' digit' → i' < i ∨ i' = i ∧ j' < j → d.HasRoom j' digit'

variable {d : Document} {i j : Nat} {digit : UInt32}

theorem HasDigit.row_lt (h : d.HasDigit i j digit) : i < d.rows.length := by
  obtain ⟨row, hrow, -⟩ := Option.bind_eq_some_iff.1 h
  exact (List.getElem?_eq_some_iff.1 hrow).1

section Numbered

variable (hrows : d.rows.length ≤ 4294967296) (hcolumns : ∀ row ∈ d.rows, row.length ≤ 4294967296)

include hrows hcolumns

theorem mem_entries_givens_iff {e : Cell × UInt32} :
    e ∈ d.givens.entries ↔ d.HasDigit e.1.row.toNat e.1.column.toNat e.2 :=
  Givens.mem_entries_ofMatrix_iff hrows hcolumns

theorem HasDigit.toNat_ofNat (h : d.HasDigit i j digit) :
    (UInt32.ofNat i).toNat = i ∧ (UInt32.ofNat j).toNat = j := by
  obtain ⟨row, hrow, hcell⟩ := Option.bind_eq_some_iff.1 h
  have hj := (List.getElem?_eq_some_iff.1 hcell).1
  have hlen := hcolumns row (List.mem_of_getElem? hrow)
  exact ⟨UInt32.toNat_ofNat_of_lt' (Nat.lt_of_lt_of_le h.row_lt hrows),
    UInt32.toNat_ofNat_of_lt' (Nat.lt_of_lt_of_le hj hlen)⟩

theorem HasDigit.mem_entries (h : d.HasDigit i j digit) :
    (⟨UInt32.ofNat i, UInt32.ofNat j⟩, digit) ∈ d.givens.entries := by
  obtain ⟨hi, hj⟩ := h.toNat_ofNat hrows hcolumns
  rw [mem_entries_givens_iff hrows hcolumns, hi, hj]
  exact h

theorem fits_givens_iff :
    d.givens.Fits d.rows.length ↔ ∀ i j digit, d.HasDigit i j digit → d.HasRoom j digit := by
  constructor
  · intro hfits i j digit h
    obtain ⟨-, hcolumn, hdigit⟩ := hfits _ (h.mem_entries hrows hcolumns)
    rw [(h.toNat_ofNat hrows hcolumns).2] at hcolumn
    exact ⟨hcolumn, hdigit⟩
  · intro hroom e he
    rw [mem_entries_givens_iff hrows hcolumns] at he
    exact ⟨he.row_lt, hroom _ _ _ he⟩

theorem firstMisplaced_of_firstMisfit {e : Cell × UInt32}
    (h : d.givens.FirstMisfit d.rows.length e) :
    d.FirstMisplaced e.1.row.toNat e.1.column.toNat e.2 := by
  obtain ⟨before, after, hentries, hbefore, hmisfit⟩ := h
  have he : e ∈ d.givens.entries := by simp [hentries]
  rw [mem_entries_givens_iff hrows hcolumns] at he
  refine ⟨he, fun hroom => hmisfit ⟨he.row_lt, hroom⟩, fun i j digit hdigit hprecedes => ?_⟩
  obtain ⟨hi, hj⟩ := hdigit.toNat_ofNat hrows hcolumns
  have hcell : (⟨UInt32.ofNat i, UInt32.ofNat j⟩ : Cell).Precedes e.1 := by
    rw [Cell.Precedes, ← UInt32.toNat_inj, hi, hj]
    exact hprecedes
  -- the entries are in row-major order, so an earlier digit is among those that fit
  have hsorted := Givens.pairwise_matrixEntries hrows hcolumns
  rw [← Givens.entries_ofMatrix hrows hcolumns] at hsorted
  have hmem := mem_before_of_precedes (hentries ▸ hsorted)
    (hentries ▸ hdigit.mem_entries hrows hcolumns) hcell
  obtain ⟨-, hcolumn, hrest⟩ := hbefore _ hmem
  exact ⟨hj ▸ hcolumn, hrest⟩

/-- The entry that validation reports is the first digit without room. -/
theorem exists_firstMisplaced {side : UInt32} (hside : side.toNat = d.rows.length)
    (h : ¬ d.givens.Fits side.toNat) : ∃ i j digit, d.FirstMisplaced i j digit ∧
      d.givens.fault? side =
        some (Givens.misfitError side (⟨UInt32.ofNat i, UInt32.ofNat j⟩, digit)) := by
  obtain ⟨error, hfault⟩ := Option.ne_none_iff_exists'.1 (mt Givens.fault?_eq_none_iff.1 h)
  obtain ⟨e, hfirst, rfl⟩ := Givens.fault?_eq_some_iff.1 hfault
  rw [hside] at hfirst
  refine ⟨_, _, _, firstMisplaced_of_firstMisfit hrows hcolumns hfirst, ?_⟩
  rw [hfault, UInt32.ofNat_toNat, UInt32.ofNat_toNat]

theorem cell_dense_givens {side : UInt32} (hi : i < side.toNat) (hj : j < side.toNat) :
    (d.givens.dense side)[i]?.bind (·[j]?) = some (d.rows[i]?.bind (·[j]?)).join := by
  rw [Givens.cell_dense _ hi hj, givens, Givens.get?_ofMatrix_ofNat hrows hcolumns hi hj]

end Numbered

end Document

/-! ## A grid of a given side -/

theorem Givens.board_of_side {shape : BoxShape} {n : UInt32} (h : shape.side = .ok n) (g : Givens) :
    g.board shape =
      .ok ((g.toMatrix n).map fun rows => Board.text (Board.lines shape n.toNat rows)) := by
  rw [board, h]
  cases hrows : g.toMatrix n <;> simp [hrows, bind, Except.bind, pure, Except.pure, Except.map]

namespace Service

variable {g : Givens} {shape : BoxShape} {n : UInt32}

theorem submit_of_fault (s : Service) (hside : shape.side = .ok n) {error : GridError}
    (h : g.fault? n = some error) : s.submit g shape = (s, .ok (.error (.grid error))) := by
  rw [submit, hside]
  dsimp only
  rw [submitTo_of_fault s shape h]

theorem received_submit_of_fits (s : Service) (hside : shape.side = .ok n) (h : g.Fits n.toNat) :
    (s.submit g shape).1.received = s.received ++ [.ofGivens g shape] := by
  rw [submit, hside]
  exact received_submitTo_of_fits h

end Service

/-! ## From the document to the grid -/

namespace Document

/-- **Ragged rows keep every digit in its place.** The board of a document that has a shape can be drawn,
and its givens pass the check before they are sent, exactly if every digit has room; else both report the
first digit without room in row-major order and nothing is sent. The matrix behind the board then has in
row `i` and column `j` what the document has there, and nothing where row `i` of the document is too
short. -/
theorem ragged_rows_keep_places {d : Document} {shape : BoxShape} (hshape : d.shape = .ok (.ok shape))
    (hcolumns : ∀ row ∈ d.rows, row.length < 4294967296) :
    let n := d.rows.length
    let roomy := ∀ i j digit, d.HasDigit i j digit → d.HasRoom j digit
    ∃ side, shape.side = .ok side ∧ side.toNat = n ∧
      ((∃ text, d.givens.board shape = .ok (.ok text)) ↔ roomy) ∧
      (d.givens.validate side = .ok () ↔ roomy) ∧
      (¬ roomy → ∃ i j digit, d.FirstMisplaced i j digit ∧
        let error := Givens.misfitError side (⟨UInt32.ofNat i, UInt32.ofNat j⟩, digit)
        d.givens.board shape = .ok (.error error) ∧ d.givens.validate side = .error error ∧
          ∀ s : Service, s.submit d.givens shape = (s, .ok (.error (.grid error)))) ∧
      (roomy → (∀ s : Service,
          (s.submit d.givens shape).1.received = s.received ++ [.ofGivens d.givens shape]) ∧
        ∃ rows, d.givens.toMatrix side = .ok rows ∧
          d.givens.board shape = .ok (.ok (Board.text (Board.lines shape n rows))) ∧
          IsSquare n rows ∧ ∀ i < n, ∀ j < n,
            (∀ o, d.rows[i]?.bind (·[j]?) = some o → rows[i]?.bind (·[j]?) = some o) ∧
            ∀ row, d.rows[i]? = some row → row.length ≤ j → rows[i]?.bind (·[j]?) = some none) := by
  intro n roomy
  obtain ⟨side, hside, hn⟩ : ∃ side, shape.side = .ok side ∧ side.toNat = n :=
    exists_side_of_shape hshape
  obtain ⟨-, -, -, hrows⟩ := shape_eq_ok_iff.1 hshape
  replace hrows : n ≤ 4294967296 := Nat.le_trans hrows (by decide)
  replace hcolumns : ∀ row ∈ d.rows, row.length ≤ 4294967296 := fun row h => (hcolumns row h).le
  have hroomy : d.givens.Fits side.toNat ↔ roomy := hn ▸ fits_givens_iff hrows hcolumns
  have hboard := d.givens.board_of_side hside
  refine ⟨side, hside, hn, ?_, Givens.validate_eq_ok_iff.trans hroomy, fun hnot => ?_, fun h => ?_⟩
  · rw [← hroomy]
    simp only [Givens.board_eq_ok_iff, hside, Except.ok.injEq, exists_eq_left', exists_and_left,
      exists_eq, and_true]
  · obtain ⟨i, j, digit, hfirst, hfault⟩ :=
      exists_firstMisplaced hrows hcolumns hn (mt hroomy.1 hnot)
    refine ⟨i, j, digit, hfirst, ?_, ?_, fun s => s.submit_of_fault hside hfault⟩
    · rw [hboard, Givens.toMatrix_eq_error_iff.2 (Givens.fault?_eq_some_iff.1 hfault)]
      rfl
    · rw [Givens.validate, hfault]
  · rw [← hroomy] at h
    have hmatrix := Givens.toMatrix_eq_ok_iff.2 ⟨h, rfl⟩
    refine ⟨fun s => s.received_submit_of_fits hside h, d.givens.dense side, hmatrix, ?_,
      hn ▸ d.givens.isSquare_dense side, fun i hi j hj => ?_⟩
    · rw [hboard, hmatrix, hn]
      rfl
    · rw [cell_dense_givens hrows hcolumns (hn ▸ hi) (hn ▸ hj)]
      refine ⟨fun o ho => ?_, fun row hrow hshort => ?_⟩
      · rw [ho]
        rfl
      · rw [hrow, Option.bind_some, List.getElem?_eq_none hshort]
        rfl

/-- A short row above one with an empty cell too many; then a digit in that cell. -/
theorem ragged_rows_of_sample_keep_places :
    let d : Document := ⟨[[some 2], [none, some 1, none]], ⟨2, 1⟩⟩
    let wide : Document := ⟨[[some 2], [none, some 1, some 1]], ⟨2, 1⟩⟩
    (d.shape = .ok (.ok ⟨2, 1⟩) ∧ (∀ row ∈ d.rows, row.length < 4294967296) ∧
      ∃ text rows, d.givens.board ⟨2, 1⟩ = .ok (.ok text) ∧ d.givens.toMatrix 2 = .ok rows ∧
        rows[0]?.bind (·[1]?) = some none ∧ rows[1]?.bind (·[1]?) = some (some 1)) ∧
    wide.shape = .ok (.ok ⟨2, 1⟩) ∧ (∀ row ∈ wide.rows, row.length < 4294967296) ∧
      ∃ i j digit, wide.FirstMisplaced i j digit ∧
        Givens.misfitError 2 (⟨UInt32.ofNat i, UInt32.ofNat j⟩, digit) = .cellOutOfRange ⟨1, 2⟩ 2 := by
  intro d wide
  have hside : BoxShape.side ⟨2, 1⟩ = .ok 2 := by decide
  have hd : d.shape = .ok (.ok ⟨2, 1⟩) := by decide
  have hwide : wide.shape = .ok (.ok ⟨2, 1⟩) := by decide
  have hcolumns : ∀ row ∈ d.rows, row.length < 4294967296 := by decide
  have hcolumns' : ∀ row ∈ wide.rows, row.length < 4294967296 := by decide
  refine ⟨⟨hd, hcolumns, ?_⟩, hwide, hcolumns', ?_⟩
  · obtain ⟨side, h, -, -, hvalid, -, hplaces⟩ := ragged_rows_keep_places hd hcolumns
    obtain rfl : side = 2 := Except.ok.inj (h.symm.trans hside)
    obtain ⟨-, rows, hmatrix, hboard, -, hcells⟩ := hplaces (hvalid.1 rfl)
    exact ⟨_, rows, hboard, hmatrix, (hcells 0 (by decide) 1 (by decide)).2 _ rfl (by decide),
      (hcells 1 (by decide) 1 (by decide)).1 _ rfl⟩
  · obtain ⟨side, h, -, -, hvalid, hmisplaced, -⟩ := ragged_rows_keep_places hwide hcolumns'
    obtain rfl : side = 2 := Except.ok.inj (h.symm.trans hside)
    have herror : wide.givens.validate 2 = .error (.cellOutOfRange ⟨1, 2⟩ 2) := rfl
    have hnot := mt hvalid.2 (by rw [herror]; nofun)
    obtain ⟨i, j, digit, hfirst, -, hvalidate, -⟩ := hmisplaced hnot
    exact ⟨i, j, digit, hfirst, Except.error.inj (hvalidate.symm.trans herror)⟩

end Document

end BoxPuzzle
