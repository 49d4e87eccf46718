import BoxPuzzle.Proofs.Grid.Board

/-!
# A line box by box

A line of a board puts a joint after every cell. Written box by box it is the same: the cells of a box with
gaps between them, and the boxes with bars between them. In a rule every box is one run of dashes.

* `chunks`: a list cut into boxes;
* `flatMap_joint_box`, `joined_append_box`: the cells of one box, and of what follows it;
* `dropLast_joined`: a line without its outer bars;
* **`rowLine_eq_boxes`**, **`ruleLine_eq_boxes`**.
-/

namespace BoxPuzzle

namespace Board

/-! ## Boxes -/

/-- The list cut into pieces of `k` elements; the last piece may be shorter. -/
def chunks {α : Type} (k : Nat) (xs : List α) : List (List α) :=
  if k = 0 ∨ xs = [] then [] else xs.take k :: chunks k (xs.drop k)
termination_by xs.length
decreasing_by
  rename_i h
  rw [not_or] at h
  have hpos := List.length_pos_iff.2 h.2
  rw [List.length_drop]
  omega

theorem chunks_nil {α : Type} (k : Nat) : chunks k ([] : List α) = [] := by
  rw [chunks, if_pos (.inr rfl)]

theorem chunks_of_ne_nil {α : Type} {k : Nat} (hk : 0 < k) {xs : List α} (h : xs ≠ []) :
    chunks k xs = xs.take k :: chunks k (xs.drop k) := by
  rw [chunks, if_neg (not_or.2 ⟨Nat.ne_of_gt hk, h⟩)]

theorem chunks_map {α β : Type} (f : α → β) (k : Nat) (xs : List α) :
    chunks k (xs.map f) = (chunks k xs).map (List.map f) := by
  fun_induction chunks k xs with
  | case1 xs h =>
    rw [chunks, if_pos (h.imp_right fun hnil => by rw [hnil, List.map_nil])]
    rfl
  | case2 xs h ih =>
    rw [not_or] at h
    rw [chunks_of_ne_nil (Nat.pos_of_ne_zero h.1) (mt List.map_eq_nil_iff.1 h.2), ← List.map_take,
      ← List.map_drop, ih, List.map_cons]

theorem chunks_replicate {α : Type} {k : Nat} (hk : 0 < k) (a : α) (m : Nat) :
    chunks k (List.replicate (k * m) a) = List.replicate m (List.replicate k a) := by
  induction m with
  | zero => exact chunks_nil k
  | succ m ih =>
    have hne : List.replicate (k * (m + 1)) a ≠ [] := by
      rw [ne_eq, List.replicate_eq_nil_iff]
      exact Nat.ne_of_gt (Nat.mul_pos hk m.succ_pos)
    rw [chunks_of_ne_nil hk hne, List.take_replicate, List.drop_replicate, Nat.mul_succ,
      Nat.add_sub_cancel, ih, Nat.min_eq_left (Nat.le_add_left k _), List.replicate_succ]

/-! ## Joints -/

section Joints

variable {width : Nat} {gap bar : Char}

theorem joint_of_lt {i : Nat} (h : i + 1 < width) : joint width gap bar i = gap := by
  refine if_neg ?_
  rw [Nat.mod_eq_of_lt h]
  exact i.succ_ne_zero

theorem joint_add (i : Nat) : joint width gap bar (width + i) = joint width gap bar i := by
  rw [joint, joint, Nat.add_assoc, Nat.add_mod_left]

/-- Within a box the joints are gaps. -/
theorem flatMap_joint_box {k : Nat} {c : List Char} {cs : List (List Char)}
    (h : k + cs.length < width) :
    (((c :: cs).zipIdx k).flatMap fun p => p.1 ++ [joint width gap bar p.2]) =
      List.intercalate [gap] (c :: cs) ++ [joint width gap bar (k + cs.length)] := by
  induction cs generalizing k c with
  | nil => simp
  | cons d ds ih =>
    rw [List.length_cons] at h
    rw [List.zipIdx_cons, List.flatMap_cons, ih (by omega), joint_of_lt (by omega),
      List.intercalate_cons_cons, List.length_cons, Nat.add_right_comm, Nat.add_assoc]
    simp only [List.append_assoc]

theorem joined_box {box : List (List Char)} (hne : box ≠ []) (h : box.length ≤ width) :
    joined width gap bar box =
      List.intercalate [gap] box ++ [joint width gap bar (box.length - 1)] := by
  obtain ⟨c, cs, rfl⟩ := List.exists_cons_of_ne_nil hne
  rw [List.length_cons] at h
  have hlt : 0 + cs.length < width := by omega
  have hbox := @flatMap_joint_box width gap bar 0 c cs hlt
  rw [Nat.zero_add] at hbox
  exact hbox

/-- After a full box comes a bar, and the joints start again. -/
theorem joined_append_box {box rest : List (List Char)} (hw : 0 < width) (h : box.length = width) :
    joined width gap bar (box ++ rest) =
      List.intercalate [gap] box ++ [bar] ++ joined width gap bar rest := by
  have hbar : joint width gap bar (box.length - 1) = bar := by
    rw [joint, h, Nat.sub_add_cancel hw, Nat.mod_self, if_pos rfl]
  have hrest : ((rest.zipIdx width).flatMap fun p => p.1 ++ [joint width gap bar p.2]) =
      joined width gap bar rest := by
    rw [List.zipIdx_eq_map_add, List.flatMap_map]
    simp only [joint_add]
    rfl
  have hne : box ≠ [] := List.length_pos_iff.1 (h ▸ hw)
  have hbox := @joined_box width gap bar box hne (Nat.le_of_eq h)
  rw [hbar] at hbox
  rw [← hbox, ← hrest, joined, List.zipIdx_append, List.flatMap_append, Nat.zero_add, h]
  rfl

theorem joined_ne_nil {cells : List (List Char)} (h : cells ≠ []) :
    joined width gap bar cells ≠ [] := by
  obtain ⟨c, cs, rfl⟩ := List.exists_cons_of_ne_nil h
  simp [joined]

/-- Between its outer bars a line has its boxes. -/
theorem dropLast_joined (hw : 0 < width) (cells : List (List Char)) :
    (joined width gap bar cells).dropLast =
      List.intercalate [bar] ((chunks width cells).map (List.intercalate [gap])) := by
  fun_induction chunks width cells with
  | case1 cells h =>
    obtain rfl : cells = [] := h.resolve_left (Nat.ne_of_gt hw)
    rfl
  | case2 cells h ih =>
    rw [not_or] at h
    by_cases hrest : cells.drop width = []
    · -- the last box
      have hlen : cells.length ≤ width := List.drop_eq_nil_iff.1 hrest
      rw [hrest, chunks_nil, List.take_of_length_le hlen, joined_box h.2 hlen, List.dropLast_concat,
        List.map_singleton, List.intercalate_singleton]
    · have hfull : (cells.take width).length = width :=
        List.length_take_of_le (Nat.le_of_not_le (mt List.drop_eq_nil_iff.2 hrest))
      have hjoined := @joined_append_box width gap bar _ (cells.drop width) hw hfull
      rw [List.take_append_drop] at hjoined
      rw [hjoined, List.dropLast_append_of_ne_nil (joined_ne_nil hrest), ih, List.map_cons,
        List.intercalate_cons_of_ne_nil]
      rw [chunks_of_ne_nil hw hrest]
      exact List.cons_ne_nil _ _

theorem line_eq_boxes (hw : 0 < width) (cells : List (List Char)) :
    line width gap bar cells =
      '|' :: List.intercalate [bar] ((chunks width cells).map (List.intercalate [gap])) ++ ['|'] := by
  rw [line, dropLast_joined hw]

end Joints

/-! ## Rows and rules -/

theorem intercalate_replicate (c : Char) (w m : Nat) :
    List.intercalate [c] (List.replicate (m + 1) (List.replicate w c)) =
      List.replicate ((w + 1) * (m + 1) - 1) c := by
  induction m with
  | zero => simp
  | succ m ih =>
    have hlen : w + (1 + ((w + 1) * (m + 1) - 1)) = (w + 1) * (m + 1 + 1) - 1 := by
      have hpos : 0 < (w + 1) * (m + 1) := Nat.mul_pos w.succ_pos m.succ_pos
      rw [Nat.mul_succ (w + 1) (m + 1)]
      omega
    rw [List.replicate_succ, List.intercalate_cons_of_ne_nil (by simp), ih, List.append_assoc,
      List.singleton_append, ← List.replicate_succ, List.replicate_append_replicate, ← hlen,
      Nat.add_comm 1]

/-- **A row is its boxes with bars between them**, and a box is its cells with blanks between them. -/
theorem rowLine_eq_boxes {width : Nat} (hw : 0 < width) (w : Nat) (digits : List (Option UInt32)) :
    rowLine width w digits =
      '|' :: List.intercalate ['|'] ((chunks width digits).map fun box =>
        List.intercalate [' '] (box.map (cellText w))) ++ ['|'] := by
  rw [rowLine, line_eq_boxes hw, chunks_map, List.map_map]
  rfl

/-- **A rule is one run of dashes for each box**, with crosses between them. -/
theorem ruleLine_eq_boxes {width n : Nat} (hw : 0 < width) (hn : width ∣ n) (w : Nat) :
    ruleLine width w n =
      '|' :: List.intercalate ['+']
        (List.replicate (n / width) (List.replicate ((w + 1) * width - 1) '-')) ++ ['|'] := by
  obtain ⟨m, rfl⟩ := hn
  obtain ⟨k, rfl⟩ := Nat.exists_eq_add_one.2 hw
  rw [ruleLine, line_eq_boxes hw, chunks_replicate hw, List.map_replicate, intercalate_replicate,
    Nat.mul_div_cancel_left m hw]

end Board

end BoxPuzzle
