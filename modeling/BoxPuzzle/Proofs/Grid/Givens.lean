import BoxPuzzle.Grid.Givens
import Mathlib.Data.List.Induction
import Mathlib.Data.List.Nodup
import Mathlib.Data.List.Perm.Subperm

/-!
# What fits in a grid

A grid of side `n` has room for an entry whose cell lies in it and whose digit is one of `1, …, n`.

* `Givens.Fits`, `Givens.fault?_eq_none_iff`, `Givens.validate_eq_ok_iff`: validation, entry by
  entry;
* `Givens.FirstMisfit`, `Givens.fault?_eq_some_iff`: the entry that validation reports;
* `Givens.entries_ofList`: a list of distinct cells is stored as it is;
* `Givens.Collects`, **`Givens.collects_iff`**: what becomes of a list with repeated cells;
* **`Givens.ofPlacements_placements`**: givens survive the exchange form, with their order;
* `Givens.same_iff`: equality that ignores the order, cell by cell.
-/

namespace BoxPuzzle

/-! ## Validation -/

namespace Givens

/-- Every entry has room in a grid of side `n`. -/
def Fits (g : Givens) (n : Nat) : Prop :=
  ∀ e ∈ g.entries, e.1.row.toNat < n ∧ e.1.column.toNat < n ∧ 1 ≤ e.2.toNat ∧ e.2.toNat ≤ n

theorem entryFault?_eq_none_iff {n : UInt32} {e : Cell × UInt32} :
    entryFault? n e = none ↔ e.1.row.toNat < n.toNat ∧ e.1.column.toNat < n.toNat ∧
      1 ≤ e.2.toNat ∧ e.2.toNat ≤ n.toNat := by
  have h0 : e.2 = 0 ↔ e.2.toNat = 0 := by rw [← UInt32.toNat_inj]; rfl
  unfold entryFault? Cell.within
  split_ifs with hc hd
  · simp only [Bool.not_eq_true', Bool.and_eq_false_iff, decide_eq_false_iff_not,
      UInt32.lt_iff_toNat_lt] at hc
    rw [false_iff]
    omega
  · simp only [Bool.or_eq_true, decide_eq_true_eq, h0, UInt32.lt_iff_toNat_lt] at hd
    rw [false_iff]
    omega
  · simp only [Bool.not_eq_true', Bool.not_eq_false, Bool.and_eq_true, decide_eq_true_eq,
      UInt32.lt_iff_toNat_lt] at hc
    simp only [Bool.or_eq_true, decide_eq_true_eq, h0, UInt32.lt_iff_toNat_lt] at hd
    exact iff_of_true rfl (by omega)

theorem fault?_eq_none_iff {g : Givens} {n : UInt32} : g.fault? n = none ↔ g.Fits n.toNat := by
  unfold fault? Fits
  rw [List.findSome?_eq_none_iff]
  exact forall₂_congr fun e _ => entryFault?_eq_none_iff

theorem validate_eq_ok_iff {g : Givens} {n : UInt32} : g.validate n = .ok () ↔ g.Fits n.toNat := by
  rw [← fault?_eq_none_iff, validate]
  cases g.fault? n <;> simp

/-! ## The first entry without room -/

/-- The entry has room in a grid of side `n`. -/
def EntryFits (n : Nat) (e : Cell × UInt32) : Prop :=
  e.1.row.toNat < n ∧ e.1.column.toNat < n ∧ 1 ≤ e.2.toNat ∧ e.2.toNat ≤ n

/-- `e` is the first entry that has no room in a grid of side `n`. -/
def FirstMisfit (g : Givens) (n : Nat) (e : Cell × UInt32) : Prop :=
  ∃ before after, g.entries = before ++ e :: after ∧ (∀ b ∈ before, EntryFits n b) ∧ ¬ EntryFits n e

/-- What is wrong with an entry that has no room: its cell if that lies outside, else its digit. -/
def misfitError (n : UInt32) (e : Cell × UInt32) : GridError :=
  if e.1.row.toNat < n.toNat ∧ e.1.column.toNat < n.toNat then .digitOutOfRange e.1 e.2 n
  else .cellOutOfRange e.1 n

theorem entryFault?_eq_some_iff {n : UInt32} {e : Cell × UInt32} {error : GridError} :
    entryFault? n e = some error ↔ ¬ EntryFits n.toNat e ∧ error = misfitError n e := by
  have hin : e.1.within n = true ↔ e.1.row.toNat < n.toNat ∧ e.1.column.toNat < n.toNat := by
    simp [Cell.within, UInt32.lt_iff_toNat_lt]
  by_cases hfit : EntryFits n.toNat e
  · rw [entryFault?_eq_none_iff.2 hfit]
    simp [hfit]
  · have hfault : entryFault? n e = some (misfitError n e) := by
      have hne : entryFault? n e ≠ none := fun h => hfit (entryFault?_eq_none_iff.1 h)
      by_cases hc : e.1.within n = true
      · by_cases hd : (e.2 = 0 || n < e.2) = true
        · simp [entryFault?, misfitError, hc, hd, hin.1 hc]
        · exact absurd (by simp [entryFault?, hc, hd]) hne
      · have hout := mt hin.2 hc
        simp [entryFault?, misfitError, hc, hout]
    rw [hfault, Option.some_inj, eq_comm]
    simp [hfit]

/-- **Validation reports the first entry without room.** -/
theorem fault?_eq_some_iff {g : Givens} {n : UInt32} {error : GridError} :
    g.fault? n = some error ↔ ∃ e, g.FirstMisfit n.toNat e ∧ error = misfitError n e := by
  unfold fault?
  rw [List.findSome?_eq_some_iff]
  constructor
  · rintro ⟨before, e, after, hes, he, hbefore⟩
    obtain ⟨hmisfit, rfl⟩ := entryFault?_eq_some_iff.1 he
    exact ⟨e, ⟨before, after, hes, fun b hb => entryFault?_eq_none_iff.1 (hbefore b hb), hmisfit⟩, rfl⟩
  · rintro ⟨e, ⟨before, after, hes, hbefore, hmisfit⟩, rfl⟩
    exact ⟨before, e, after, hes, entryFault?_eq_some_iff.2 ⟨hmisfit, rfl⟩,
      fun b hb => entryFault?_eq_none_iff.2 (hbefore b hb)⟩

/-! ## The exchange form -/

theorem setEntry_of_notMem {c : Cell} (d : UInt32) :
    ∀ {es : List (Cell × UInt32)}, c ∉ es.map Prod.fst → setEntry c d es = es ++ [(c, d)]
  | [], _ => rfl
  | e :: es, h => by
    rw [List.map_cons, List.mem_cons, not_or] at h
    rw [setEntry, if_neg (Ne.symm h.1), setEntry_of_notMem d h.2, List.cons_append]

theorem entries_foldl_insert : ∀ (es : List (Cell × UInt32)) (g : Givens),
    ((g.entries ++ es).map Prod.fst).Nodup →
      (es.foldl (fun g e => g.insert e.1 e.2) g).entries = g.entries ++ es
  | [], g, _ => (List.append_nil _).symm
  | e :: es, g, h => by
    have hi : (g.insert e.1 e.2).entries = g.entries ++ [e] := by
      refine setEntry_of_notMem e.2 fun hm => ?_
      rw [List.map_append, List.nodup_append] at h
      exact h.2.2 e.1 hm e.1 (by simp) rfl
    rw [List.foldl_cons, entries_foldl_insert es, hi, List.append_assoc, List.singleton_append]
    rwa [hi, List.append_assoc, List.singleton_append]

theorem entries_ofList {es : List (Cell × UInt32)} (h : (es.map Prod.fst).Nodup) :
    (ofList es).entries = es :=
  entries_foldl_insert es empty h

theorem eq_of_entries_eq {a b : Givens} (h : a.entries = b.entries) : a = b := by
  cases a
  cases b
  cases h
  rfl

/-- **Givens survive the exchange form.** -/
theorem ofPlacements_placements (g : Givens) : ofPlacements g.placements = g := by
  have h : g.placements.map (fun p => (p.cell, p.digit)) = g.entries := by
    rw [placements, List.map_map]
    exact List.map_id _
  rw [ofPlacements, h]
  exact eq_of_entries_eq (entries_ofList g.distinct)

theorem map_cell_placements (g : Givens) : g.placements.map Placement.cell = g.cells := by
  rw [placements, List.map_map]
  rfl

/-! ## Lists with repeated cells -/

theorem lookup_eq_some_iff {c : Cell} {d : UInt32} {es : List (Cell × UInt32)}
    (hes : (es.map Prod.fst).Nodup) : es.lookup c = some d ↔ (c, d) ∈ es := by
  induction es with
  | nil => simp
  | cons e es ih =>
    obtain ⟨k, v⟩ := e
    rw [List.map_cons, List.nodup_cons] at hes
    rw [lookup_cons_eq, List.mem_cons, Prod.mk.injEq]
    by_cases hk : c = k
    · subst hk
      have hnot : (c, d) ∉ es := fun h => hes.1 (List.mem_map.2 ⟨_, h, rfl⟩)
      simp [hnot, eq_comm]
    · simp [hk, ih hes.2]

theorem get?_eq_some_iff {g : Givens} {c : Cell} {d : UInt32} :
    g.get? c = some d ↔ (c, d) ∈ g.entries :=
  lookup_eq_some_iff g.distinct

/-- Cells and digits determine the entries, with their order. -/
theorem entries_eq_map (g : Givens) : g.entries = g.cells.filterMap fun c => (g.get? c).map (c, ·) := by
  have hget : ∀ e ∈ g.entries, (g.get? e.1).map (e.1, ·) = some e := by
    intro e he
    rw [get?_eq_some_iff.2 he]
    rfl
  rw [cells, List.filterMap_map]
  exact (List.filterMap_some.symm.trans (List.filterMap_congr hget).symm)

theorem eq_of_cells_of_get? {a b : Givens} (hc : a.cells = b.cells)
    (hd : ∀ c, a.get? c = b.get? c) : a = b := by
  apply eq_of_entries_eq
  rw [entries_eq_map a, entries_eq_map b, hc, funext hd]

/-- `g` holds the entries `es`: every cell once, in the order in which the cells first occur, with
the digit that stands last for it. -/
structure Collects (g : Givens) (es : List (Cell × UInt32)) : Prop where
  cells : g.cells = (es.map Prod.fst).eraseDups
  digit : ∀ c, g.get? c = es.reverse.lookup c

theorem ofList_concat (es : List (Cell × UInt32)) (e : Cell × UInt32) :
    ofList (es ++ [e]) = (ofList es).insert e.1 e.2 := by
  simp [ofList]

theorem collects_ofList (es : List (Cell × UInt32)) : (ofList es).Collects es := by
  induction es using List.reverseRecOn with
  | nil => exact ⟨by simp [ofList, Givens.cells, empty], fun c => rfl⟩
  | append_singleton es e ih =>
    rw [ofList_concat]
    constructor
    · -- a cell that was there stays where it is, another one goes to the end
      have hmem : e.1 ∈ (ofList es).cells ↔ e.1 ∈ es.map Prod.fst := by
        rw [ih.cells, List.mem_eraseDups]
      rw [cells_insert, List.map_append, List.eraseDups_append]
      by_cases he : e.1 ∈ es.map Prod.fst
      · rw [if_pos (hmem.2 he), ih.cells]
        generalize es.map Prod.fst = cs at he
        simp [List.removeAll, he]
      · rw [if_neg (mt hmem.1 he), ih.cells]
        generalize es.map Prod.fst = cs at he
        simp [List.removeAll, he, List.eraseDups_cons]
    · intro c
      rw [get?_insert, ih.digit, List.reverse_append, List.reverse_singleton, List.singleton_append,
        lookup_cons_eq]

/-- **Filling a list of cells** keeps the first place and the last digit of each. -/
theorem collects_iff {g : Givens} {es : List (Cell × UInt32)} : g.Collects es ↔ g = ofList es := by
  constructor
  · intro h
    have h' := collects_ofList es
    exact eq_of_cells_of_get? (h.cells.trans h'.cells.symm) fun c => (h.digit c).trans (h'.digit c).symm
  · rintro rfl
    exact collects_ofList es

/-! ## Equality without order -/

theorem mem_cells_iff {g : Givens} {c : Cell} : c ∈ g.cells ↔ (g.get? c).isSome = true := by
  rw [Option.isSome_iff_exists]
  simp [cells, get?_eq_some_iff]

/-- **Two maps are the same** if they hold the same digit in every cell. -/
theorem same_iff {a b : Givens} : a.same b = true ↔ ∀ c, a.get? c = b.get? c := by
  unfold same
  rw [Bool.and_eq_true, beq_iff_eq, List.all_eq_true]
  constructor
  · rintro ⟨hsize, hall⟩ c
    have hsub : a.cells ⊆ b.cells := by
      intro k hk
      obtain ⟨d, hd⟩ := Option.isSome_iff_exists.1 (mem_cells_iff.1 hk)
      have := hall (k, d) (get?_eq_some_iff.1 hd)
      rw [beq_iff_eq] at this
      exact mem_cells_iff.2 (by rw [this]; rfl)
    -- as many cells, all of them in the other map, so there is no further one
    have hperm : a.cells.Perm b.cells :=
      (List.subperm_of_subset a.distinct hsub).perm_of_length_le (by simp [cells, size] at *; omega)
    cases hd : a.get? c with
    | some d => exact (beq_iff_eq.1 (hall (c, d) (get?_eq_some_iff.1 hd))).symm
    | none =>
      have hc : c ∉ b.cells := by
        rw [← hperm.mem_iff, mem_cells_iff, hd]
        simp
      rw [mem_cells_iff, Option.not_isSome_iff_eq_none] at hc
      exact hc.symm
  · intro h
    have hperm : a.entries.Perm b.entries := by
      rw [List.perm_ext_iff_of_nodup (List.Nodup.of_map _ a.distinct) (List.Nodup.of_map _ b.distinct)]
      rintro ⟨c, d⟩
      rw [← get?_eq_some_iff, ← get?_eq_some_iff, h]
    refine ⟨hperm.length_eq, fun e he => ?_⟩
    rw [← h, get?_eq_some_iff.2 he]
    simp

end Givens

end BoxPuzzle
