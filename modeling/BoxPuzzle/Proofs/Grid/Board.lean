import BoxPuzzle.Grid.Board
import BoxPuzzle.Proofs.Grid.Givens
import BoxPuzzle.Proofs.Text.Numeral

/-!
# The board is lossless

From its text alone a board gives back everything that it shows. The breaks give the lines, the length
of the first line the side of the grid and with it the width of a cell, the first bar of the first row
the width of a box, and the fields of the rows the digits.

* `text_inj`: the text gives the lines;
* `cellText_inj`, `length_cellText`: a field gives the digit, and all fields have the same width;
* `joined_inj`: a row gives its fields and its joints;
* `side_eq_of_edge_eq`, `width_eq_of_joints`: the side of the grid, the width of a box;
* `rowLines_inj`: the lines between the edges give the rows;
* `Givens.board_eq_ok_iff`, **`Givens.board_lossless`**.
-/

namespace BoxPuzzle

namespace Board

/-! ## Cells -/

/-- What a cell shows, without the blanks that fill its field. -/
def shown : Option UInt32 → List Char
  | some d => numeral d.toNat
  | none => ['·']

theorem cellText_eq (w : Nat) (o : Option UInt32) : cellText w o = padded w (shown o) := by
  cases o <;> rfl

theorem mem_shown {o : Option UInt32} {c : Char} (h : c ∈ shown o) : c.isDigit = true ∨ c = '·' := by
  cases o with
  | some d => exact .inl (isDigit_of_mem_numeral h)
  | none => exact .inr (List.mem_singleton.1 h)

theorem mem_cellText {w : Nat} {o : Option UInt32} {c : Char} (h : c ∈ cellText w o) :
    c = ' ' ∨ c.isDigit = true ∨ c = '·' := by
  rw [cellText_eq, padded, List.mem_append] at h
  obtain h | h := h
  · exact .inl (List.eq_of_mem_replicate h)
  · exact .inr (mem_shown h)

theorem shown_inj {a b : Option UInt32} (h : shown a = shown b) : a = b := by
  have hdot : ∀ d : UInt32, shown (some d) ≠ shown none := by
    intro d hd
    have hmem : '·' ∈ numeral d.toNat := by
      rw [show numeral d.toNat = ['·'] from hd]
      exact List.mem_singleton_self _
    exact absurd (isDigit_of_mem_numeral hmem) (by decide)
  cases a with
  | none =>
    cases b with
    | none => rfl
    | some d => exact absurd h.symm (hdot d)
  | some d =>
    cases b with
    | none => exact absurd h (hdot d)
    | some e =>
      have hv := congrArg digitsValue h
      simp only [shown, digitsValue_numeral] at hv
      rw [UInt32.toNat_inj.1 hv]

theorem dropWhile_padded {w : Nat} {o : Option UInt32} :
    (padded w (shown o)).dropWhile (· == ' ') = shown o := by
  have hne : shown o ≠ [] := by
    cases o with
    | some d => exact numeral_ne_nil d.toNat
    | none => simp [shown]
  obtain ⟨c, cs, hcs⟩ := List.exists_cons_of_ne_nil hne
  have hc : c ≠ ' ' := by
    rintro rfl
    obtain h | h := mem_shown (o := o) (hcs ▸ List.mem_cons_self)
    · exact absurd h (by decide)
    · exact absurd h (by decide)
  rw [padded, List.dropWhile_append_of_pos (by simp), hcs, List.dropWhile_cons_of_neg (by simpa using hc)]

theorem cellText_inj {w : Nat} {a b : Option UInt32} (h : cellText w a = cellText w b) : a = b := by
  rw [cellText_eq, cellText_eq] at h
  have hshown := congrArg (List.dropWhile (· == ' ')) h
  rw [dropWhile_padded, dropWhile_padded] at hshown
  exact shown_inj hshown

theorem length_numeral_pos (n : Nat) : 0 < (numeral n).length :=
  List.length_pos_iff.2 (numeral_ne_nil n)

theorem length_numeral_le {a b : Nat} (h : a ≤ b) : (numeral a).length ≤ (numeral b).length := by
  have hb : b < 10 ^ (numeral b).length :=
    (Nat.length_toDigits_le_iff (by decide) (length_numeral_pos b)).1 (Nat.le_refl _)
  exact (Nat.length_toDigits_le_iff (by decide) (length_numeral_pos b)).2 (Nat.lt_of_le_of_lt h hb)

theorem length_cellText {n : Nat} {o : Option UInt32} (h : ∀ d ∈ o, d.toNat ≤ n) :
    (cellText (numeral n).length o).length = (numeral n).length := by
  have hle : (shown o).length ≤ (numeral n).length := by
    cases o with
    | some d => exact length_numeral_le (h d rfl)
    | none => exact length_numeral_pos n
  rw [cellText_eq, padded, List.length_append, List.length_replicate]
  omega

/-! ## Lines -/

/-- The joint after the cell with the number `i`. -/
def joint (width : Nat) (gap bar : Char) (i : Nat) : Char :=
  if (i + 1) % width = 0 then bar else gap

theorem joined_concat (width : Nat) (gap bar : Char) (cells : List (List Char)) (cell : List Char) :
    joined width gap bar (cells ++ [cell]) =
      joined width gap bar cells ++ cell ++ [joint width gap bar cells.length] := by
  simp [joined, joint, List.zipIdx_append]

/-- In a row of full boxes the bar at the end is the joint of the last cell. -/
theorem rowLine_eq {width w : Nat} {digits : List (Option UInt32)} (hne : digits ≠ [])
    (hw : digits.length % width = 0) :
    rowLine width w digits = '|' :: joined width ' ' '|' (digits.map (cellText w)) := by
  obtain ⟨front, last, rfl⟩ := (List.eq_nil_or_concat' digits).resolve_left hne
  have hlast : joint width ' ' '|' (front.map (cellText w)).length = '|' := by
    rw [joint, List.length_map]
    rw [List.length_append, List.length_singleton] at hw
    exact if_pos hw
  rw [rowLine, line, List.map_append, List.map_singleton, joined_concat, hlast, List.dropLast_concat,
    List.cons_append]

/-- Fields of one width, each with a character after it, can be told apart. -/
theorem flatMap_joint_inj {w : Nat} {f f' : Nat → Char} :
    ∀ {cells cells' : List (List Char)} {k : Nat}, cells.length = cells'.length →
      (∀ c ∈ cells, c.length = w) → (∀ c ∈ cells', c.length = w) →
      ((cells.zipIdx k).flatMap fun p => p.1 ++ [f p.2]) =
        ((cells'.zipIdx k).flatMap fun p => p.1 ++ [f' p.2]) →
      cells = cells' ∧ ∀ i < cells.length, f (k + i) = f' (k + i)
  | [], [], _, _, _, _, _ => ⟨rfl, fun i hi => absurd hi (Nat.not_lt_zero i)⟩
  | c :: cells, c' :: cells', k, hlen, hc, hc', h => by
    rw [List.forall_mem_cons] at hc hc'
    rw [List.zipIdx_cons, List.zipIdx_cons, List.flatMap_cons, List.flatMap_cons] at h
    obtain ⟨hhead, htail⟩ := List.append_inj h (by simp [hc.1, hc'.1])
    obtain ⟨rfl, hjoint⟩ := List.append_inj hhead (by rw [hc.1, hc'.1])
    obtain ⟨rfl, hrest⟩ := flatMap_joint_inj (Nat.succ.inj hlen) hc.2 hc'.2 htail
    refine ⟨rfl, fun i hi => ?_⟩
    cases i with
    | zero => exact List.singleton_inj.1 hjoint
    | succ i =>
      have := hrest i (Nat.lt_of_succ_lt_succ hi)
      rwa [Nat.add_assoc, Nat.add_comm 1 i] at this

theorem joined_inj {width width' w : Nat} {gap bar : Char} {cells cells' : List (List Char)}
    (hlen : cells.length = cells'.length) (hc : ∀ c ∈ cells, c.length = w)
    (hc' : ∀ c ∈ cells', c.length = w)
    (h : joined width gap bar cells = joined width' gap bar cells') :
    cells = cells' ∧ ∀ i < cells.length, joint width gap bar i = joint width' gap bar i := by
  have hflat : ((cells.zipIdx 0).flatMap fun p => p.1 ++ [joint width gap bar p.2]) =
      ((cells'.zipIdx 0).flatMap fun p => p.1 ++ [joint width' gap bar p.2]) := h
  obtain ⟨hcells, hjoints⟩ := flatMap_joint_inj hlen hc hc' hflat
  exact ⟨hcells, fun i hi => by simpa using hjoints i hi⟩

/-! ## The text -/

theorem mem_joined {width : Nat} {gap bar c : Char} {cells : List (List Char)}
    (h : c ∈ joined width gap bar cells) : c = bar ∨ c = gap ∨ ∃ cell ∈ cells, c ∈ cell := by
  obtain ⟨p, hp, hc⟩ := List.mem_flatMap.1 h
  rw [List.mem_append, List.mem_singleton] at hc
  obtain hc | hc := hc
  · exact .inr (.inr ⟨p.1, List.fst_mem_of_mem_zipIdx hp, hc⟩)
  · split_ifs at hc
    · exact .inl hc
    · exact .inr (.inl hc)

theorem mem_line {width : Nat} {gap bar c : Char} {cells : List (List Char)}
    (h : c ∈ line width gap bar cells) : c = '|' ∨ c = bar ∨ c = gap ∨ ∃ cell ∈ cells, c ∈ cell := by
  rw [line, List.mem_append, List.mem_cons, List.mem_singleton] at h
  obtain (h | h) | h := h
  · exact .inl h
  · exact .inr (mem_joined (List.dropLast_subset _ h))
  · exact .inl h

theorem newline_notMem_rowLine (width w : Nat) (digits : List (Option UInt32)) :
    '\n' ∉ rowLine width w digits := by
  intro h
  obtain h | h | h | ⟨cell, hcell, h⟩ := mem_line h
  · exact absurd h (by decide)
  · exact absurd h (by decide)
  · exact absurd h (by decide)
  · obtain ⟨o, -, rfl⟩ := List.mem_map.1 hcell
    obtain h | h | h := mem_cellText h
    · exact absurd h (by decide)
    · exact absurd h (by decide)
    · exact absurd h (by decide)

theorem newline_notMem_ruleLine (width w n : Nat) : '\n' ∉ ruleLine width w n := by
  intro h
  obtain h | h | h | ⟨cell, hcell, h⟩ := mem_line h
  · exact absurd h (by decide)
  · exact absurd h (by decide)
  · exact absurd h (by decide)
  · rw [List.eq_of_mem_replicate hcell] at h
    exact absurd (List.eq_of_mem_replicate h) (by decide)

theorem newline_notMem_edge (w n : Nat) : '\n' ∉ edge w n := fun h =>
  absurd (List.eq_of_mem_replicate h) (by decide)

/-- A line of a board is an edge, a row or a rule. -/
theorem mem_lines {shape : BoxShape} {n : Nat} {rows : List (List (Option UInt32))} {l : List Char}
    (h : l ∈ lines shape n rows) :
    l = edge (numeral n).length n ∨
      (∃ row ∈ rows, l = rowLine shape.width.toNat (numeral n).length row) ∨
      l = ruleLine shape.width.toNat (numeral n).length n := by
  simp only [lines, rowLines, List.cons_append, List.mem_cons, List.mem_append, List.mem_flatMap,
    List.not_mem_nil, or_false] at h
  obtain h | ⟨p, hp, h⟩ | h := h
  · exact .inl h
  · obtain h | h := h
    · exact .inr (.inl ⟨p.1, List.fst_mem_of_mem_zipIdx hp, h⟩)
    · split_ifs at h
      · exact .inr (.inr (List.mem_singleton.1 h))
      · cases h
  · exact .inl h

theorem newline_notMem_lines {shape : BoxShape} {n : Nat} {rows : List (List (Option UInt32))}
    {l : List Char} (h : l ∈ lines shape n rows) : '\n' ∉ l := by
  obtain rfl | ⟨row, -, rfl⟩ | rfl := mem_lines h
  · exact newline_notMem_edge _ _
  · exact newline_notMem_rowLine _ _ _
  · exact newline_notMem_ruleLine _ _ _

/-- The text of a board, cut at its breaks. -/
theorem splitOn_text (shape : BoxShape) (n : Nat) (rows : List (List (Option UInt32))) :
    (text (lines shape n rows)).toList.splitOn '\n' = lines shape n rows := by
  rw [text, String.toList_ofList]
  exact List.splitOn_intercalate '\n' (fun l hl => newline_notMem_lines hl) (by simp [lines])

/-- The text of a board gives back its lines. -/
theorem text_inj {s t : BoxShape} {n m : Nat} {rows rows' : List (List (Option UInt32))}
    (h : text (lines s n rows) = text (lines t m rows')) : lines s n rows = lines t m rows' := by
  rw [← splitOn_text, h, splitOn_text]

/-! ## The side and the boxes -/

theorem side_eq_of_edge_eq {n m : Nat} (h : edge (numeral n).length n = edge (numeral m).length m) :
    n = m := by
  -- the length of an edge grows with the side
  have grows : ∀ {a b : Nat}, a < b →
      ((numeral a).length + 1) * a < ((numeral b).length + 1) * b := by
    intro a b hab
    have hle := length_numeral_le (Nat.le_of_lt hab)
    calc ((numeral a).length + 1) * a ≤ ((numeral b).length + 1) * a :=
          Nat.mul_le_mul_right a (Nat.succ_le_succ hle)
      _ < ((numeral b).length + 1) * b := Nat.mul_lt_mul_of_pos_left hab (Nat.succ_pos _)
  have hlen := congrArg List.length h
  simp only [edge, List.length_replicate, Nat.add_right_cancel_iff] at hlen
  obtain hlt | heq | hlt := Nat.lt_trichotomy n m
  · exact absurd hlen (Nat.ne_of_lt (grows hlt))
  · exact heq
  · exact absurd hlen.symm (Nat.ne_of_lt (grows hlt))

/-- The first bar of a row stands after its first box. -/
theorem width_eq_of_joints {p q n : Nat} (hp : 0 < p) (hq : 0 < q) (hpn : p ≤ n) (hqn : q ≤ n)
    (h : ∀ i < n, joint p ' ' '|' i = joint q ' ' '|' i) : p = q := by
  have hiff : ∀ i, 0 < i → i ≤ n → (i % p = 0 ↔ i % q = 0) := by
    intro i hi hin
    have hij := h (i - 1) (by omega)
    unfold joint at hij
    rw [Nat.sub_add_cancel hi] at hij
    by_cases h1 : i % p = 0 <;> by_cases h2 : i % q = 0 <;> simp [h1, h2] at hij ⊢
  have hqp : q ∣ p := Nat.dvd_of_mod_eq_zero ((hiff p hp hpn).1 (Nat.mod_self p))
  have hpq : p ∣ q := Nat.dvd_of_mod_eq_zero ((hiff q hq hqn).2 (Nat.mod_self q))
  exact Nat.dvd_antisymm hpq hqp

/-! ## Rows -/

/-- The row fills a grid of side `n` with digits of that grid. -/
structure FullRow (n : Nat) (row : List (Option UInt32)) : Prop where
  length : row.length = n
  digits : ∀ o ∈ row, ∀ d ∈ o, d.toNat ≤ n

theorem FullRow.length_cells {n : Nat} {row : List (Option UInt32)} (h : FullRow n row) :
    ∀ cell ∈ row.map (cellText (numeral n).length), cell.length = (numeral n).length := by
  intro cell hcell
  obtain ⟨o, ho, rfl⟩ := List.mem_map.1 hcell
  exact length_cellText (h.digits o ho)

/-- A line of a full row gives back its digits and its joints. -/
theorem rowLine_inj {width width' n : Nat} {row row' : List (Option UInt32)} (hn : 0 < n)
    (hw : n % width = 0) (hw' : n % width' = 0) (hr : FullRow n row) (hr' : FullRow n row')
    (h : rowLine width (numeral n).length row = rowLine width' (numeral n).length row') :
    row = row' ∧ ∀ i < n, joint width ' ' '|' i = joint width' ' ' '|' i := by
  have hne : ∀ {r : List (Option UInt32)}, FullRow n r → r ≠ [] := by
    intro r hr hnil
    have := hr.length
    rw [hnil, List.length_nil] at this
    omega
  rw [rowLine_eq (hne hr) (hr.length ▸ hw), rowLine_eq (hne hr') (hr'.length ▸ hw')] at h
  obtain ⟨hcells, hjoints⟩ := joined_inj (by simp [hr.length, hr'.length]) hr.length_cells
    hr'.length_cells (List.cons.inj h).2
  rw [List.length_map, hr.length] at hjoints
  exact ⟨List.map_injective_iff.2 (fun a b => cellText_inj) hcells, hjoints⟩

theorem rowLines_inj {shape : BoxShape} {n : Nat} (hn : 0 < n) (hw : n % shape.width.toNat = 0) :
    ∀ {rows rows' : List (List (Option UInt32))} {k : Nat}, rows.length = rows'.length →
      (∀ r ∈ rows, FullRow n r) → (∀ r ∈ rows', FullRow n r) →
      ((rows.zipIdx k).flatMap fun p => rowLine shape.width.toNat (numeral n).length p.1 ::
        if (p.2 + 1) % shape.height.toNat = 0 ∧ p.2 + 1 ≠ n then
          [ruleLine shape.width.toNat (numeral n).length n] else []) =
      ((rows'.zipIdx k).flatMap fun p => rowLine shape.width.toNat (numeral n).length p.1 ::
        if (p.2 + 1) % shape.height.toNat = 0 ∧ p.2 + 1 ≠ n then
          [ruleLine shape.width.toNat (numeral n).length n] else []) → rows = rows'
  | [], [], _, _, _, _, _ => rfl
  | r :: rows, r' :: rows', k, hlen, hr, hr', h => by
    rw [List.forall_mem_cons] at hr hr'
    simp only [List.zipIdx_cons, List.flatMap_cons, List.cons_append, List.cons.injEq] at h
    obtain ⟨rfl, -⟩ := rowLine_inj hn hw hw hr.1 hr'.1 h.1
    rw [rowLines_inj hn hw (Nat.succ.inj hlen) hr.2 hr'.2 (List.append_cancel_left h.2)]

end Board

namespace Givens

variable {a b : Givens} {n : UInt32}

/-! ## The dense form -/

theorem fits_iff_get? {n : Nat} : a.Fits n ↔ ∀ c d, a.get? c = some d → EntryFits n (c, d) := by
  simp only [get?_eq_some_iff, Fits, EntryFits, Prod.forall]

theorem get?_eq_none_of_fits (h : a.Fits n.toNat) {c : Cell}
    (hc : ¬ (c.row.toNat < n.toNat ∧ c.column.toNat < n.toNat)) : a.get? c = none := by
  cases hd : a.get? c with
  | none => rfl
  | some d =>
    obtain ⟨hrow, hcolumn, -⟩ := h _ (get?_eq_some_iff.1 hd)
    exact absurd ⟨hrow, hcolumn⟩ hc

theorem fullRow_of_mem_dense (h : a.Fits n.toNat) {row : List (Option UInt32)}
    (hrow : row ∈ a.dense n) : Board.FullRow n.toNat row := by
  obtain ⟨i, -, rfl⟩ := List.mem_map.1 hrow
  refine ⟨by simp, fun o ho d hd => ?_⟩
  obtain ⟨j, -, rfl⟩ := List.mem_map.1 ho
  exact (h _ (get?_eq_some_iff.1 hd)).2.2.2

theorem length_dense (a : Givens) (n : UInt32) : (a.dense n).length = n.toNat := by simp [dense]

theorem get?_eq_of_dense_eq (ha : a.Fits n.toNat) (hb : b.Fits n.toNat)
    (h : a.dense n = b.dense n) (c : Cell) : a.get? c = b.get? c := by
  by_cases hc : c.row.toNat < n.toNat ∧ c.column.toNat < n.toNat
  · unfold dense at h
    have hrow := List.map_inj_left.1 h c.row.toNat (List.mem_range.2 hc.1)
    have hcell := List.map_inj_left.1 hrow c.column.toNat (List.mem_range.2 hc.2)
    simpa using hcell
  · rw [get?_eq_none_of_fits ha hc, get?_eq_none_of_fits hb hc]

/-! ## The board -/

/-- There is a board for the givens that fit a grid, and only for them. -/
theorem board_eq_ok_iff {shape : BoxShape} {text : String} :
    a.board shape = .ok (.ok text) ↔ ∃ n, shape.side = .ok n ∧ a.Fits n.toNat ∧
      text = Board.text (Board.lines shape n.toNat (a.dense n)) := by
  unfold board toMatrix
  cases hs : shape.side with
  | error e => simp [bind, Except.bind]
  | ok n =>
    simp only [← validate_eq_ok_iff]
    cases hv : a.validate n with
    | error e => simp [hv, bind, Except.bind, pure, Except.pure]
    | ok u => simp [hv, bind, Except.bind, pure, Except.pure, eq_comm]

/-- The first row gives the width of a box. -/
theorem width_eq_of_rowLines_eq {s t : BoxShape} (hn : 0 < n.toNat)
    (hs : n.toNat = s.width.toNat * s.height.toNat) (ht : n.toNat = t.width.toNat * t.height.toNat)
    (ha : a.Fits n.toNat) (hb : b.Fits n.toNat)
    (h : Board.rowLines s (numeral n.toNat).length n.toNat (a.dense n) =
      Board.rowLines t (numeral n.toNat).length n.toNat (b.dense n)) : s.width = t.width := by
  obtain ⟨r, rows, hr⟩ := List.exists_cons_of_length_pos (by rw [length_dense a n]; exact hn)
  obtain ⟨r', rows', hr'⟩ := List.exists_cons_of_length_pos (by rw [length_dense b n]; exact hn)
  have hfull : Board.FullRow n.toNat r := fullRow_of_mem_dense ha (hr ▸ List.mem_cons_self)
  have hfull' : Board.FullRow n.toNat r' := fullRow_of_mem_dense hb (hr' ▸ List.mem_cons_self)
  simp only [Board.rowLines, hr, hr', List.zipIdx_cons, List.flatMap_cons, List.cons_append,
    List.cons.injEq] at h
  obtain ⟨-, hjoints⟩ := Board.rowLine_inj hn (by simp [hs]) (by simp [ht]) hfull hfull' h.1
  have hle : ∀ {x y : Nat}, n.toNat = x * y → 0 < x ∧ x ≤ n.toNat := by
    intro x y hxy
    have hpos : 0 < x * y := hxy ▸ hn
    exact ⟨Nat.pos_of_mul_pos_right hpos, hxy ▸ Nat.le_mul_of_pos_right x (Nat.pos_of_mul_pos_left hpos)⟩
  exact UInt32.toNat_inj.1 (Board.width_eq_of_joints (hle hs).1 (hle ht).1 (hle hs).2 (hle ht).2 hjoints)

/-- **The board is lossless.** Boards of the same text show the same digits in grids of the same
shape, and the same digits in the same shape make the same board, in whatever order they were filled
in. -/
theorem board_lossless (a b : Givens) {s t : BoxShape} (hs : 0 < s.width ∧ 0 < s.height)
    (ht : 0 < t.width ∧ 0 < t.height) :
    (∀ text, a.board s = .ok (.ok text) → b.board t = .ok (.ok text) → s = t ∧ a.same b = true) ∧
    (a.same b = true → ∀ text, a.board s = .ok (.ok text) ↔ b.board s = .ok (.ok text)) := by
  refine ⟨fun text hta htb => ?_, fun hsame text => ?_⟩
  · obtain ⟨n, hn, ha, rfl⟩ := board_eq_ok_iff.1 hta
    obtain ⟨m, hm, hb, htext⟩ := board_eq_ok_iff.1 htb
    rw [BoxShape.side_eq_ok_iff] at hn hm
    have hlines := Board.text_inj htext
    simp only [Board.lines, List.cons_append, List.cons.injEq] at hlines
    obtain rfl : n = m := UInt32.toNat_inj.1 (Board.side_eq_of_edge_eq hlines.1)
    have hrows := List.append_cancel_right hlines.2
    have hw : 0 < s.width.toNat := UInt32.lt_iff_toNat_lt.1 hs.1
    have hpos : 0 < n.toNat := hn ▸ Nat.mul_pos hw (UInt32.lt_iff_toNat_lt.1 hs.2)
    have hwidth : s.width = t.width := width_eq_of_rowLines_eq hpos hn hm ha hb hrows
    have hheight : s.height = t.height := by
      rw [hn, ← hwidth] at hm
      exact UInt32.toNat_inj.1 (Nat.eq_of_mul_eq_mul_left hw hm)
    obtain rfl : s = t := by
      cases s
      cases t
      exact BoxShape.mk.injEq .. ▸ ⟨hwidth, hheight⟩
    have hdense : a.dense n = b.dense n := Board.rowLines_inj hpos (by simp [hn])
      (by rw [length_dense, length_dense]) (fun r => fullRow_of_mem_dense ha)
      (fun r => fullRow_of_mem_dense hb) hrows
    exact ⟨rfl, same_iff.2 (get?_eq_of_dense_eq ha hb hdense)⟩
  · have hget : a.get? = b.get? := funext (same_iff.1 hsame)
    simp only [board_eq_ok_iff, fits_iff_get?, dense, hget]

/-- Two orders of filling, one board; and a given more or boxes turned round make another one. -/
theorem board_lossless_sample :
    let a := ofList [(⟨0, 0⟩, 1), (⟨2, 1⟩, 3)]
    let b := ofList [(⟨2, 1⟩, 3), (⟨0, 0⟩, 1)]
    (0 < (2 : UInt32) ∧ 0 < (3 : UInt32)) ∧ a ≠ b ∧ a.same b = true ∧
      (∃ text, a.board ⟨2, 3⟩ = .ok (.ok text) ∧ b.board ⟨2, 3⟩ = .ok (.ok text) ∧
        b.board ⟨3, 2⟩ ≠ .ok (.ok text) ∧ (b.insert ⟨5, 5⟩ 6).board ⟨2, 3⟩ ≠ .ok (.ok text)) := by
  intro a b
  have hpos : 0 < (2 : UInt32) ∧ 0 < (3 : UInt32) := by decide
  have hsame : a.same b = true := by decide
  obtain ⟨text, ht⟩ : ∃ text, a.board ⟨2, 3⟩ = .ok (.ok text) :=
    ⟨_, board_eq_ok_iff.2 ⟨6, rfl, fault?_eq_none_iff.1 rfl, rfl⟩⟩
  refine ⟨hpos, by decide, hsame, text, ht, ?_, fun h => ?_, fun h => ?_⟩
  · exact ((@board_lossless a b ⟨2, 3⟩ ⟨2, 3⟩ hpos hpos).2 hsame text).1 ht
  · exact absurd ((@board_lossless a b ⟨2, 3⟩ ⟨3, 2⟩ hpos hpos.symm).1 text ht h).1 (by decide)
  · have := ((@board_lossless a (b.insert ⟨5, 5⟩ 6) ⟨2, 3⟩ ⟨2, 3⟩ hpos hpos).1 text ht h).2
    exact absurd this (by decide)

end Givens

end BoxPuzzle
