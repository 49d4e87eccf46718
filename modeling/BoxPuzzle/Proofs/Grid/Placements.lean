import BoxPuzzle.Proofs.Grid.Givens

/-!
# Placements and back

Givens are exchanged as placements, one for each entry. A list that comes back may name a cell more than
once; what is made of it names every cell once, at the place where the list first names it and with the
digit that the list gives it last.

* `Givens.pairwise_cells_ofList`, `Givens.get?_ofPlacements_iff`: where a cell stands, and its digit;
* `Condenses`, `Condenses.unique`: a list of placements without its repetitions;
* `Givens.condenses_placements`, `Givens.placements_ofPlacements_eq_iff`;
* **`Givens.placements_roundTrip`**.
-/

namespace BoxPuzzle

/-! ## Cells that were filled from a list -/

namespace Givens

theorem mem_cells_ofList {es : List (Cell × UInt32)} {c : Cell} :
    c ∈ (ofList es).cells ↔ c ∈ es.map Prod.fst := by
  rw [(collects_ofList es).cells, List.mem_eraseDups]

/-- The cells stand in the order in which the list first names them. -/
theorem pairwise_cells_ofList (es : List (Cell × UInt32)) :
    (ofList es).cells.Pairwise fun a b =>
      (es.map Prod.fst).idxOf a < (es.map Prod.fst).idxOf b := by
  induction es using List.reverseRecOn with
  | nil => exact List.Pairwise.nil
  | append_singleton es e ih =>
    rw [List.map_append, List.map_singleton, ofList_concat, cells_insert]
    -- a further entry changes no first occurrence
    have hkeep : ∀ a ∈ (ofList es).cells,
        (es.map Prod.fst ++ [e.1]).idxOf a = (es.map Prod.fst).idxOf a :=
      fun a ha => List.idxOf_append_of_mem (mem_cells_ofList.1 ha)
    have hold : (ofList es).cells.Pairwise fun a b =>
        (es.map Prod.fst ++ [e.1]).idxOf a < (es.map Prod.fst ++ [e.1]).idxOf b := by
      refine ih.imp_of_mem fun {a b} ha hb hab => ?_
      rwa [hkeep a ha, hkeep b hb]
    by_cases he : e.1 ∈ (ofList es).cells
    · rwa [if_pos he]
    · rw [if_neg he, List.pairwise_append]
      refine ⟨hold, List.pairwise_singleton _ _, fun a ha b hb => ?_⟩
      have hlt := List.idxOf_lt_length_of_mem (mem_cells_ofList.1 ha)
      rw [List.mem_singleton.1 hb, hkeep a ha, List.idxOf_append_of_notMem (mt mem_cells_ofList.2 he)]
      omega

theorem map_fst_of_placements (ps : List Placement) :
    (ps.map fun p => (p.cell, p.digit)).map Prod.fst = ps.map Placement.cell := by
  rw [List.map_map]
  rfl

/-- A cell has the digit of the last placement that names it. -/
theorem get?_ofPlacements_iff {ps : List Placement} {q : Placement} :
    (ofPlacements ps).get? q.cell = some q.digit ↔
      ∃ before after, ps = before ++ q :: after ∧ ∀ p ∈ after, p.cell ≠ q.cell := by
  have hentry : ∀ p : Placement, (p.cell, p.digit) = (q.cell, q.digit) ↔ p = q := by
    rintro ⟨row, column, digit⟩
    obtain ⟨row', column', digit'⟩ := q
    simp [Placement.cell, and_assoc]
  rw [ofPlacements, (collects_ofList _).digit, List.lookup_eq_some_iff]
  constructor
  · rintro ⟨after, before, heq, hafter⟩
    rw [← List.map_reverse, List.map_eq_append_iff] at heq
    obtain ⟨after', rest, hps, rfl, hrest⟩ := heq
    obtain ⟨p, before', rfl, hp, rfl⟩ := List.map_eq_cons_iff.1 hrest
    obtain rfl := (hentry p).1 hp
    refine ⟨before'.reverse, after'.reverse, ?_, fun p' hp' hcell => ?_⟩
    · rw [← List.reverse_reverse ps, hps]
      simp
    · have hne := hafter _ (List.mem_map_of_mem (List.mem_reverse.1 hp'))
      exact absurd hcell.symm (bne_iff_ne.1 hne)
  · rintro ⟨before, after, rfl, hafter⟩
    refine ⟨(after.map fun p => (p.cell, p.digit)).reverse,
      (before.map fun p => (p.cell, p.digit)).reverse, by simp, fun e he => ?_⟩
    obtain ⟨p, hp, rfl⟩ := List.mem_map.1 (List.mem_reverse.1 he)
    exact bne_iff_ne.2 (hafter p hp).symm

end Givens

/-! ## Lists without repetitions -/

/-- `qs` is `ps` without repetitions: every cell once, in the order in which the cells first occur, with
the digit of the last placement that names it. -/
structure Condenses (qs ps : List Placement) : Prop where
  once : (qs.map Placement.cell).Nodup
  cells : ∀ c, c ∈ qs.map Placement.cell ↔ c ∈ ps.map Placement.cell
  order : (qs.map Placement.cell).Pairwise fun a b =>
    (ps.map Placement.cell).idxOf a < (ps.map Placement.cell).idxOf b
  last : ∀ q ∈ qs, ∃ before after, ps = before ++ q :: after ∧ ∀ p ∈ after, p.cell ≠ q.cell

/-- Cells and digits determine the placements, with their order. -/
theorem eq_filterMap_cell {qs : List Placement} {digit : Cell → Option UInt32}
    (h : ∀ q ∈ qs, digit q.cell = some q.digit) :
    qs = (qs.map Placement.cell).filterMap fun c => (digit c).map fun d => ⟨c.row, c.column, d⟩ := by
  have hback : ∀ q ∈ qs, (digit q.cell).map (fun d => (⟨q.cell.row, q.cell.column, d⟩ : Placement)) =
      some q := by
    intro q hq
    rw [h q hq]
    rfl
  rw [List.filterMap_map]
  exact List.filterMap_some.symm.trans (List.filterMap_congr hback).symm

/-- There is only one such list. -/
theorem Condenses.unique {ps qs qs' : List Placement} (h : Condenses qs ps) (h' : Condenses qs' ps) :
    qs = qs' := by
  have hperm : (qs.map Placement.cell).Perm (qs'.map Placement.cell) :=
    (List.perm_ext_iff_of_nodup h.once h'.once).2 fun c => (h.cells c).trans (h'.cells c).symm
  have hcells : qs.map Placement.cell = qs'.map Placement.cell := by
    refine hperm.eq_of_pairwise (fun a b _ _ hab hba => ?_) h.order h'.order
    exact absurd hab (Nat.lt_asymm hba)
  have hdigit : ∀ {rs : List Placement}, Condenses rs ps →
      ∀ q ∈ rs, (Givens.ofPlacements ps).get? q.cell = some q.digit :=
    fun hrs q hq => Givens.get?_ofPlacements_iff.2 (hrs.last q hq)
  rw [eq_filterMap_cell (hdigit h), eq_filterMap_cell (hdigit h'), hcells]

/-! ## There and back -/

namespace Givens

variable {ps : List Placement}

theorem condenses_placements (ps : List Placement) : Condenses (ofPlacements ps).placements ps := by
  have hcells := map_cell_placements (ofPlacements ps)
  constructor
  · rw [hcells]
    exact (ofPlacements ps).distinct
  · intro c
    rw [hcells, ofPlacements, mem_cells_ofList, map_fst_of_placements]
  · rw [hcells, ← map_fst_of_placements]
    exact pairwise_cells_ofList _
  · intro q hq
    obtain ⟨e, he, rfl⟩ := List.mem_map.1 hq
    exact get?_ofPlacements_iff.1 (get?_eq_some_iff.2 he)

theorem placements_ofPlacements_eq_iff :
    (ofPlacements ps).placements = ps ↔ (ps.map Placement.cell).Nodup := by
  constructor
  · intro h
    exact h ▸ (condenses_placements ps).once
  · intro h
    have hentries : (ofPlacements ps).entries = ps.map fun p => (p.cell, p.digit) :=
      entries_ofList (by rwa [map_fst_of_placements])
    rw [placements, hentries, List.map_map]
    exact List.map_id ps

/-- **Givens and placements are exchanged without loss.** Givens come back from their placements as they
were, with their order. A list of placements comes back without its repetitions: every cell once, in the
order in which the cells first occur, with the digit of its last placement. So it comes back unchanged
exactly if its cells are distinct, and a second exchange changes nothing more. -/
theorem placements_roundTrip :
    (∀ g : Givens, ofPlacements g.placements = g) ∧
    ∀ ps : List Placement,
      (∀ qs, qs = (ofPlacements ps).placements ↔ Condenses qs ps) ∧
      ((ofPlacements ps).placements = ps ↔ (ps.map Placement.cell).Nodup) ∧
      (ofPlacements (ofPlacements ps).placements).placements = (ofPlacements ps).placements := by
  refine ⟨ofPlacements_placements, fun ps => ⟨fun qs => ?_, placements_ofPlacements_eq_iff, ?_⟩⟩
  · constructor
    · rintro rfl
      exact condenses_placements ps
    · intro h
      exact h.unique (condenses_placements ps)
  · rw [ofPlacements_placements]

/-- The later digit of a cell, in its earlier place. -/
example : (ofPlacements [⟨1, 1, 4⟩, ⟨0, 2, 3⟩, ⟨1, 1, 7⟩]).placements = [⟨1, 1, 7⟩, ⟨0, 2, 3⟩] := by
  decide

end Givens

end BoxPuzzle
