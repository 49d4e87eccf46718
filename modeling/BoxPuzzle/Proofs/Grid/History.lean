import BoxPuzzle.Proofs.Grid.Givens
import Mathlib.Data.Set.Card

/-!
# Givens follow their history

Givens are what filling and emptying cells has made of them. A cell holds the digit with which it was
last filled, unless it was emptied since. The cells stand in the order of the moments at which each of
them last went from empty to filled: filling a cell again does not move it, emptying it first does.

* `Edit`, `Givens.edit`, `Givens.editAll`: edits, with the digit that was there before each;
* `LastFilledWith`, `Filled`, `Enters`, `LastEnters`: what a history tells of a cell;
* `Givens.Follows`, `Givens.Follows.edit`, `Givens.Follows.editAll`: the invariant, for one edit and for
  all of them;
* **`Givens.editAll_follows_history`**.
-/

namespace BoxPuzzle

/-! ## Edits -/

/-- Filling or emptying a cell. -/
inductive Edit where
  | fill (cell : Cell) (digit : UInt32)
  | clear (cell : Cell)
deriving DecidableEq, Repr

/-- The cell that is edited. -/
def Edit.cell : Edit → Cell
  | fill c _ => c
  | clear c => c

namespace Givens

/-- Makes an edit and tells the digit that was there. -/
def edit (g : Givens) : Edit → Option UInt32 × Givens
  | .fill c d => g.put c d
  | .clear c => g.take c

/-- Makes edits one after the other and tells the digit that was there before each. -/
def editAll (g : Givens) : List Edit → List (Option UInt32) × Givens
  | [] => ([], g)
  | e :: es => ((g.edit e).1 :: ((g.edit e).2.editAll es).1, ((g.edit e).2.editAll es).2)

end Givens

/-! ## Histories -/

/-- The last edit of the cell filled it with this digit. -/
def LastFilledWith (history : List Edit) (c : Cell) (d : UInt32) : Prop :=
  ∃ before after, history = before ++ .fill c d :: after ∧ ∀ e ∈ after, e.cell ≠ c

/-- The cell is filled at the end. -/
def Filled (history : List Edit) (c : Cell) : Prop := ∃ d, LastFilledWith history c d

/-- The edit at the moment `i` turns the cell from empty to filled. -/
def Enters (history : List Edit) (c : Cell) (i : Nat) : Prop :=
  ¬ Filled (history.take i) c ∧ Filled (history.take (i + 1)) c

/-- That happens at the moment `i` for the last time. -/
def LastEnters (history : List Edit) (c : Cell) (i : Nat) : Prop :=
  Enters history c i ∧ ∀ j, Enters history c j → j ≤ i

variable {history : List Edit} {c : Cell} {d : UInt32} {e : Edit} {i : Nat}

theorem lastFilledWith_concat : LastFilledWith (history ++ [e]) c d ↔
    e = .fill c d ∨ e.cell ≠ c ∧ LastFilledWith history c d := by
  constructor
  · rintro ⟨before, after, heq, hafter⟩
    obtain rfl | ⟨after', e', rfl⟩ := after.eq_nil_or_concat
    · exact .inl (by simpa using (List.append_inj' heq rfl).2)
    · rw [List.concat_eq_append] at heq hafter
      rw [← List.cons_append, ← List.append_assoc] at heq
      obtain ⟨rfl, h⟩ := List.append_inj' heq rfl
      obtain rfl : e = e' := by simpa using h
      exact .inr ⟨hafter e (by simp), before, after', rfl, fun a ha => hafter a (by simp [ha])⟩
  · rintro (rfl | ⟨he, before, after, rfl, hafter⟩)
    · exact ⟨history, [], by simp, by simp⟩
    · refine ⟨before, after ++ [e], by simp, fun a ha => ?_⟩
      rcases List.mem_append.1 ha with ha | ha
      · exact hafter a ha
      · rwa [List.mem_singleton.1 ha]

theorem not_lastFilledWith_nil : ¬ LastFilledWith [] c d := by
  rintro ⟨before, after, h, -⟩
  simp at h

/-! ## Moments -/

theorem Enters.lt (h : Enters history c i) : i < history.length := by
  by_contra hi
  apply h.1
  have := h.2
  rwa [List.take_of_length_le (by omega)] at this ⊢

theorem enters_concat (hi : i < history.length) : Enters (history ++ [e]) c i ↔ Enters history c i := by
  unfold Enters
  rw [List.take_append_of_le_length (by omega), List.take_append_of_le_length (by omega)]

theorem enters_concat_length : Enters (history ++ [e]) c history.length ↔
    ¬ Filled history c ∧ Filled (history ++ [e]) c := by
  unfold Enters
  rw [List.take_left, List.take_of_length_le (by simp)]

/-- A cell that is filled stays where it entered. -/
theorem LastEnters.concat (h : LastEnters history c i) (hc : Filled history c) (e : Edit) :
    LastEnters (history ++ [e]) c i := by
  refine ⟨(enters_concat h.1.lt).2 h.1, fun j hj => ?_⟩
  have hlt : j < history.length + 1 := by simpa using hj.lt
  by_cases hj' : j = history.length
  · subst hj'
    exact absurd hc (enters_concat_length.1 hj).1
  · exact h.2 j ((enters_concat (by omega)).1 hj)

/-- A cell that is filled while empty enters last of all. -/
theorem lastEnters_concat_length (hc : ¬ Filled history c) (hc' : Filled (history ++ [e]) c) :
    LastEnters (history ++ [e]) c history.length := by
  refine ⟨enters_concat_length.2 ⟨hc, hc'⟩, fun j hj => ?_⟩
  have hlt : j < history.length + 1 := by simpa using hj.lt
  omega

/-! ## The invariant -/

namespace Givens

/-- The givens are what the history tells: the digits, and the cells in the order in which they last
entered. -/
structure Follows (g : Givens) (history : List Edit) : Prop where
  digit : ∀ c d, g.get? c = some d ↔ LastFilledWith history c d
  order : ∃ moment : Cell → Nat, (∀ c ∈ g.cells, LastEnters history c (moment c)) ∧
    g.cells.Pairwise fun a b => moment a < moment b

variable {g : Givens}

theorem Follows.mem_cells_iff (h : g.Follows history) : c ∈ g.cells ↔ Filled history c := by
  rw [Givens.mem_cells_iff, Option.isSome_iff_exists]
  exact exists_congr (h.digit c)

theorem follows_empty : Follows empty [] :=
  ⟨fun _ _ => iff_of_false nofun not_lastFilledWith_nil, fun _ => 0, by simp [empty, cells],
    by simp [empty, cells]⟩

theorem Follows.digit_edit (h : g.Follows history) (e : Edit) (c : Cell) (d : UInt32) :
    (g.edit e).2.get? c = some d ↔ LastFilledWith (history ++ [e]) c d := by
  rw [lastFilledWith_concat, ← h.digit]
  cases e with
  | fill c' d' =>
    show (g.insert c' d').get? c = some d ↔ _
    by_cases hc : c = c'
    · simp [Edit.cell, hc]
    · simp [Edit.cell, hc, Ne.symm hc]
  | clear c' =>
    show (g.erase c').get? c = some d ↔ _
    by_cases hc : c = c' <;> simp [Edit.cell, hc, eq_comm]

/-- The cells that stay keep their moments, and a new one has the latest. -/
theorem Follows.order_edit (h : g.Follows history) (e : Edit) :
    ∃ moment : Cell → Nat, (∀ c ∈ (g.edit e).2.cells, LastEnters (history ++ [e]) c (moment c)) ∧
      (g.edit e).2.cells.Pairwise fun a b => moment a < moment b := by
  obtain ⟨moment, hmoment, hpairwise⟩ := h.order
  have hkeep : ∀ c ∈ g.cells, LastEnters (history ++ [e]) c (moment c) :=
    fun c hc => (hmoment c hc).concat (h.mem_cells_iff.1 hc) e
  cases e with
  | fill c d =>
    have hcells : (g.edit (.fill c d)).2.cells = _ := g.cells_insert c d
    by_cases hc : c ∈ g.cells
    · rw [hcells, if_pos hc]
      exact ⟨moment, hkeep, hpairwise⟩
    · rw [hcells, if_neg hc]
      have hne : ∀ a ∈ g.cells, a ≠ c := fun a ha hac => hc (hac ▸ ha)
      have hnew : LastEnters (history ++ [.fill c d]) c history.length :=
        lastEnters_concat_length (mt h.mem_cells_iff.2 hc) ⟨d, lastFilledWith_concat.2 (.inl rfl)⟩
      refine ⟨Function.update moment c history.length, fun a ha => ?_, ?_⟩
      · rcases List.mem_append.1 ha with ha | ha
        · rw [Function.update_of_ne (hne a ha)]
          exact hkeep a ha
        · rw [List.mem_singleton.1 ha, Function.update_self]
          exact hnew
      · rw [List.pairwise_append]
        refine ⟨hpairwise.imp_of_mem fun ha hb hab => ?_, by simp, fun a ha b hb => ?_⟩
        · rwa [Function.update_of_ne (hne _ ha), Function.update_of_ne (hne _ hb)]
        · rw [List.mem_singleton.1 hb, Function.update_self, Function.update_of_ne (hne a ha)]
          exact (hmoment a ha).1.lt
  | clear c =>
    have hcells : (g.edit (.clear c)).2.cells = _ := g.cells_erase c
    rw [hcells]
    exact ⟨moment, fun a ha => hkeep a (List.mem_of_mem_filter ha), hpairwise.filter _⟩

/-- **One edit.** -/
theorem Follows.edit (h : g.Follows history) (e : Edit) : (g.edit e).2.Follows (history ++ [e]) :=
  ⟨h.digit_edit e, h.order_edit e⟩

/-- **All edits.** -/
theorem Follows.editAll (h : g.Follows history) (edits : List Edit) :
    (g.editAll edits).2.Follows (history ++ edits) := by
  induction edits generalizing g history with
  | nil => rwa [List.append_nil]
  | cons e es ih =>
    rw [List.append_cons]
    exact ih (h.edit e)

theorem ofList_eq_editAll (es : List (Cell × UInt32)) :
    ofList es = (empty.editAll (es.map fun e => .fill e.1 e.2)).2 := by
  unfold ofList
  generalize empty = g
  induction es generalizing g with
  | nil => rfl
  | cons e es ih => exact ih (g.insert e.1 e.2)

theorem follows_ofList (es : List (Cell × UInt32)) :
    (ofList es).Follows (es.map fun e => .fill e.1 e.2) := by
  rw [ofList_eq_editAll]
  exact follows_empty.editAll _

/-! ## What edits tell -/

theorem edit_fst (g : Givens) (e : Edit) : (g.edit e).1 = g.get? e.cell := by
  cases e <;> rfl

theorem editAll_append (g : Givens) (es es' : List Edit) : g.editAll (es ++ es') =
    ((g.editAll es).1 ++ ((g.editAll es).2.editAll es').1, ((g.editAll es).2.editAll es').2) := by
  induction es generalizing g with
  | nil => rfl
  | cons e es ih => simp [Givens.editAll, ih]

theorem length_editAll (g : Givens) (es : List Edit) : (g.editAll es).1.length = es.length := by
  induction es generalizing g with
  | nil => rfl
  | cons e es ih => simp [Givens.editAll, ih]

/-- An edit tells the digit that its cell held before. -/
theorem editAll_getElem? (g : Givens) (before : List Edit) (e : Edit) (after : List Edit) :
    (g.editAll (before ++ e :: after)).1[before.length]? = some ((g.editAll before).2.get? e.cell) := by
  rw [editAll_append, ← length_editAll g before, List.getElem?_append_right (Nat.le_refl _),
    Nat.sub_self]
  simp [Givens.editAll, edit_fst]

/-! ## The map and its history -/

theorem Follows.size (h : g.Follows history) : g.size = {c | Filled history c}.ncard := by
  have hset : {c | Filled history c} = (g.cells.toFinset : Set Cell) := by
    ext c
    simp [h.mem_cells_iff]
  have hdistinct : g.cells.Nodup := g.distinct
  rw [hset, Set.ncard_coe_finset, List.toFinset_card_of_nodup hdistinct, cells, List.length_map,
    Givens.size]

/-- **Givens follow their history**, which begins with the entries that they were collected from. No cell
is listed twice; a cell holds the digit with which it was last filled, unless it was emptied since, and
that is the digit it is listed with. The cells stand in the order of the moments at which they last went
from empty to filled: filling a filled cell does not move it, emptying a cell moves no other, and filling
it again then moves it to the end. Every edit tells the digit that was there before it, the size is the
number of filled cells, and maps are the same if they hold the same digits. -/
theorem editAll_follows_history (es : List (Cell × UInt32)) (edits : List Edit) :
    let start := es.map fun e => Edit.fill e.1 e.2
    let g := ((ofList es).editAll edits).2
    g.cells.Nodup ∧
    (∀ c d, g.get? c = some d ↔ LastFilledWith (start ++ edits) c d) ∧
    (∀ c d, g.get? c = some d ↔ (c, d) ∈ g.entries) ∧
    (∃ moment : Cell → Nat, (∀ c ∈ g.cells, LastEnters (start ++ edits) c (moment c)) ∧
      g.cells.Pairwise fun a b => moment a < moment b) ∧
    (∀ c d, c ∈ g.cells → (g.edit (.fill c d)).2.cells = g.cells) ∧
    (∀ c, (g.edit (.clear c)).2.cells = g.cells.filter (· != c)) ∧
    (∀ c d, (g.editAll [.clear c, .fill c d]).2.cells = g.cells.filter (· != c) ++ [c]) ∧
    (∀ before e after, edits = before ++ e :: after →
      ∃ told, ((ofList es).editAll edits).1[before.length]? = some told ∧
        ∀ d, told = some d ↔ LastFilledWith (start ++ before) e.cell d) ∧
    g.size = {c | Filled (start ++ edits) c}.ncard ∧
    ∀ other : Givens, g.same other = true ↔ ∀ c, g.get? c = other.get? c := by
  intro start g
  have hg : g.Follows (start ++ edits) := (follows_ofList es).editAll edits
  refine ⟨g.distinct, hg.digit, fun c d => get?_eq_some_iff, hg.order, ?_, ?_, ?_, ?_, hg.size,
    fun other => same_iff⟩
  · intro c d hc
    exact (g.cells_insert c d).trans (if_pos hc)
  · exact g.cells_erase
  · intro c d
    show ((g.erase c).insert c d).cells = _
    rw [cells_insert, cells_erase, if_neg (by simp)]
  · rintro before e after rfl
    exact ⟨_, editAll_getElem? _ before e after, fun d =>
      ((follows_ofList es).editAll before).digit e.cell d⟩

/-- A cell that was emptied and filled again stands last. -/
theorem editAll_follows_sample_history :
    let edits : List Edit := [.fill ⟨0, 0⟩ 5, .clear ⟨0, 1⟩, .fill ⟨0, 2⟩ 3, .fill ⟨0, 1⟩ 9]
    let r := (ofList [(⟨0, 0⟩, 1), (⟨0, 1⟩, 2)]).editAll edits
    r.1 = [some 1, some 2, none, none] ∧
      r.2.entries = [(⟨0, 0⟩, 5), (⟨0, 2⟩, 3), (⟨0, 1⟩, 9)] ∧
      LastFilledWith ([.fill ⟨0, 0⟩ 1, .fill ⟨0, 1⟩ 2] ++ edits) ⟨0, 1⟩ 9 ∧
      (r.2.edit (.fill ⟨0, 2⟩ 4)).2.cells = r.2.cells ∧
      r.2.size = {c | Filled ([.fill ⟨0, 0⟩ 1, .fill ⟨0, 1⟩ 2] ++ edits) c}.ncard := by
  intro edits r
  obtain ⟨-, hdigit, -, -, hfill, -, -, -, hsize, -⟩ :=
    editAll_follows_history [(⟨0, 0⟩, 1), (⟨0, 1⟩, 2)] edits
  exact ⟨rfl, rfl, (hdigit _ _).1 rfl, hfill _ _ (by decide), hsize⟩

end Givens

end BoxPuzzle
