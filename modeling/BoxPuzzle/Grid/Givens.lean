import BoxPuzzle.Grid.Error

/-!
# Givens

The digits that are filled in, in the order in which their cells were filled. A cell holds one
digit: filling it again changes the digit and keeps its place in the order.

* `Givens`, `Givens.get?`, `Givens.insert`, `Givens.erase`, `Givens.ofList`: the ordered map;
* `Givens.put`, `Givens.take`: insertion and removal with the digit that was there before;
* `Givens.same`: two maps hold the same digits, whatever their order;
* `Givens.fault?`, `Givens.validate`: the first entry that a grid has no room for;
* `Givens.placements`, `Givens.ofPlacements`: the exchange form;
* `Givens.ofMatrix`, `Givens.toMatrix`: the dense form, row by row.
-/

namespace BoxPuzzle

/-! ## Entry lists -/

/-- Sets the digit of `c` where it stands, or at the end if it is not there. -/
def setEntry (c : Cell) (d : UInt32) : List (Cell × UInt32) → List (Cell × UInt32)
  | [] => [(c, d)]
  | e :: es => if e.1 = c then (c, d) :: es else e :: setEntry c d es

theorem map_fst_setEntry (c : Cell) (d : UInt32) (es : List (Cell × UInt32)) :
    (setEntry c d es).map Prod.fst =
      if c ∈ es.map Prod.fst then es.map Prod.fst else es.map Prod.fst ++ [c] := by
  induction es with
  | nil => simp [setEntry]
  | cons e es ih =>
    by_cases h : e.1 = c
    · simp [setEntry, h]
    · have h' : ¬ c = e.1 := fun k => h k.symm
      simp only [setEntry, h, if_false, List.map_cons, ih, List.mem_cons, h', false_or]
      split <;> rfl

theorem nodup_map_fst_setEntry {es : List (Cell × UInt32)} (h : (es.map Prod.fst).Nodup)
    (c : Cell) (d : UInt32) : ((setEntry c d es).map Prod.fst).Nodup := by
  rw [map_fst_setEntry]
  split
  · exact h
  · next hc => exact List.nodup_append.2 ⟨h, by simp, fun a ha b hb => by simp_all; grind⟩

theorem lookup_cons_eq (k a : Cell) (d : UInt32) (es : List (Cell × UInt32)) :
    ((a, d) :: es).lookup k = if k = a then some d else es.lookup k := by
  by_cases h : k = a
  · simp [h]
  · have h' : (k == a) = false := by simpa using h
    simp [List.lookup_cons, h, h']

theorem lookup_setEntry (c : Cell) (d : UInt32) (es : List (Cell × UInt32)) (k : Cell) :
    (setEntry c d es).lookup k = if k = c then some d else es.lookup k := by
  induction es with
  | nil => simp [setEntry, lookup_cons_eq]
  | cons e es ih =>
    obtain ⟨a, b⟩ := e
    by_cases h : a = c
    · by_cases hk : k = c <;> simp [setEntry, lookup_cons_eq, h, hk]
    · by_cases hk : k = a
      · subst hk
        simp [setEntry, h]
      · simp [setEntry, lookup_cons_eq, h, hk, ih]

theorem lookup_filter_ne (es : List (Cell × UInt32)) (c k : Cell) :
    (es.filter (·.1 != c)).lookup k = if k = c then none else es.lookup k := by
  induction es with
  | nil => simp
  | cons e es ih =>
    obtain ⟨a, b⟩ := e
    by_cases h : a = c
    · rw [List.filter_cons_of_neg (by simp [h]), ih, lookup_cons_eq, h]
      split <;> rfl
    · by_cases hk : k = a
      · subst hk
        simp [h]
      · simp [lookup_cons_eq, h, hk, ih]

/-! ## The ordered map -/

/-- Digits by cell, in the order of filling. -/
structure Givens where
  entries : List (Cell × UInt32)
  distinct : (entries.map Prod.fst).Nodup := by simp
deriving DecidableEq, Repr

namespace Givens

/-- No digit is filled in. -/
def empty : Givens := { entries := [] }

instance : EmptyCollection Givens := ⟨empty⟩

instance : Inhabited Givens := ⟨empty⟩

/-- The number of filled cells. -/
def size (g : Givens) : Nat := g.entries.length

/-- The filled cells in order. -/
def cells (g : Givens) : List Cell := g.entries.map Prod.fst

/-- The digit in a cell. -/
def get? (g : Givens) (c : Cell) : Option UInt32 := g.entries.lookup c

/-- Fills a cell. -/
def insert (g : Givens) (c : Cell) (d : UInt32) : Givens :=
  ⟨setEntry c d g.entries, nodup_map_fst_setEntry g.distinct c d⟩

/-- Empties a cell. -/
def erase (g : Givens) (c : Cell) : Givens :=
  ⟨g.entries.filter (·.1 != c), List.Pairwise.sublist (List.filter_sublist.map _) g.distinct⟩

@[simp] theorem get?_insert (g : Givens) (c : Cell) (d : UInt32) (k : Cell) :
    (g.insert c d).get? k = if k = c then some d else g.get? k :=
  lookup_setEntry c d g.entries k

@[simp] theorem get?_erase (g : Givens) (c k : Cell) :
    (g.erase c).get? k = if k = c then none else g.get? k :=
  lookup_filter_ne g.entries c k

theorem cells_insert (g : Givens) (c : Cell) (d : UInt32) :
    (g.insert c d).cells = if c ∈ g.cells then g.cells else g.cells ++ [c] :=
  map_fst_setEntry c d g.entries

theorem cells_erase (g : Givens) (c : Cell) : (g.erase c).cells = g.cells.filter (· != c) := by
  rw [cells, cells, erase, List.filter_map]
  rfl

/-- Fills a cell and tells the digit that was there. -/
def put (g : Givens) (c : Cell) (d : UInt32) : Option UInt32 × Givens := (g.get? c, g.insert c d)

/-- Empties a cell and tells the digit that was there. -/
def take (g : Givens) (c : Cell) : Option UInt32 × Givens := (g.get? c, g.erase c)

/-- Fills the cells of a list one after the other. -/
def ofList (es : List (Cell × UInt32)) : Givens := es.foldl (fun g e => g.insert e.1 e.2) empty

/-- The two maps hold the same digits in the same cells. -/
def same (a b : Givens) : Bool :=
  a.size == b.size && a.entries.all fun e => b.get? e.1 == some e.2

/-! ## Validation -/

/-- What is wrong with one entry in a grid of side `n`: the cell is looked at before the digit. -/
def entryFault? (n : UInt32) (e : Cell × UInt32) : Option GridError :=
  if !e.1.within n then some (.cellOutOfRange e.1 n)
  else if e.2 = 0 || n < e.2 then some (.digitOutOfRange e.1 e.2 n)
  else none

/-- The fault of the first entry that a grid of side `n` has no room for. -/
def fault? (g : Givens) (n : UInt32) : Option GridError := g.entries.findSome? (entryFault? n)

/-- Every entry has room in a grid of side `n`, or the first fault. -/
def validate (g : Givens) (n : UInt32) : Except GridError Unit :=
  match g.fault? n with
  | some e => .error e
  | none => .ok ()

/-! ## The exchange form -/

/-- The entries as placements. -/
def placements (g : Givens) : List Placement :=
  g.entries.map fun e => ⟨e.1.row, e.1.column, e.2⟩

/-- Fills the cells of the placements one after the other. -/
def ofPlacements (ps : List Placement) : Givens := ofList (ps.map fun p => (p.cell, p.digit))

/-! ## The dense form -/

/-- The filled cells of one row of a matrix, from the left. -/
def rowEntries (row : Nat) (digits : List (Option UInt32)) : List (Cell × UInt32) :=
  digits.zipIdx.filterMap fun p => p.1.map fun d => (⟨UInt32.ofNat row, UInt32.ofNat p.2⟩, d)

/-- The filled cells of a matrix, row by row. -/
def matrixEntries (rows : List (List (Option UInt32))) : List (Cell × UInt32) :=
  rows.zipIdx.flatMap fun p => rowEntries p.2 p.1

/-- The filled cells of a matrix whose rows may differ in length. -/
def ofMatrix (rows : List (List (Option UInt32))) : Givens := ofList (matrixEntries rows)

/-- The square matrix of side `n` with the digit of every cell. -/
def dense (g : Givens) (n : UInt32) : List (List (Option UInt32)) :=
  (List.range n.toNat).map fun i =>
    (List.range n.toNat).map fun j => g.get? ⟨UInt32.ofNat i, UInt32.ofNat j⟩

/-- The square matrix of side `n`, if every entry has room in it. -/
def toMatrix (g : Givens) (n : UInt32) : Except GridError (List (List (Option UInt32))) := do
  g.validate n
  return g.dense n

end Givens

end BoxPuzzle
