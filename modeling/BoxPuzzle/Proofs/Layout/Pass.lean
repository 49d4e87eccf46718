import BoxPuzzle.Layout.Pass
import BoxPuzzle.Proofs.Grid.Givens

/-!
# What a layout leaves in a style

A layout adds seven rules to a style and measures in between: a cell after four of them, a row after
six. On a style that was not cleared the periods of the rules that were there come first, and a page
of bordered cells multiplies those, whatever shape is laid out. On a cleared style nothing of the past
is left, and every length of the report stands in the style.

* `exists_wordProduct_iff`, `BoxModel.exists_rowWidth_iff`: when a product, and when a row on a page
  can be had;
* `Host.Answers`, `Host.answers_fixed`, `BoxModel.answers_host`: hosts that can measure every grid;
* `Style.FirstPeriod`, `Style.periods?_framed`, `Style.periods?_typed`: which boxes the rules draw;
* `Style.layOut_cases`, **`Style.layOut_outcome`**: the passes on any style;
* `Style.rules_relayOut`, `Style.exists_relayOut`: the rules of a layout from scratch;
* `Style.periods?_relayOut`, `Style.length?_eq_none_of_relayOut`, **`Style.relayOut_reads_back`**: what
  can be read off them.
-/

namespace BoxPuzzle

variable {α : Type}

/-! ## Products -/

theorem exists_wordProduct_iff {a b : UInt32} :
    (∃ n, wordProduct a b = .ok n) ↔ a.toNat * b.toNat ≤ 4294967295 := by
  constructor
  · rintro ⟨n, hn⟩
    have hproduct := wordProduct_eq_ok_iff.1 hn
    have := n.toNat_lt
    omega
  · intro h
    exact ⟨a * b, wordProduct_of_le h⟩

theorem Checked.eq_error_iff {β : Type} {x : Checked β} :
    x = .error .product ↔ ¬ ∃ b, x = .ok b := by
  cases x with
  | error e => cases e; simp
  | ok b => simp

/-! ## Hosts that can measure every grid -/

/-- The host measures a row whenever the rules draw the boxes of a grid. -/
def Host.Answers (h : Host α) : Prop :=
  ∀ (s : Style α) (shape : BoxShape), shape.Proper → s.periods? = some (shape.width, shape.height) →
    ∃ row, h.rowWidth s = .ok row

theorem Host.answers_fixed (container cell row : α) : (Host.fixed container cell row).Answers :=
  fun _ _ _ _ => ⟨row, rfl⟩

variable [Length α]

theorem BoxModel.answers_host (m : BoxModel α) : m.host.Answers := by
  intro s shape hp hs
  have hside : wordProduct shape.width shape.height = .ok (shape.width * shape.height) := hp.side_eq
  simp only [host, rowWidth, hs, Option.getD_some, hside]
  exact ⟨_, rfl⟩

/-- A page measures a row unless the product of the periods that its rules draw overflows. -/
theorem BoxModel.exists_rowWidth_iff (m : BoxModel α) (s : Style α) :
    (∃ row, m.host.rowWidth s = .ok row) ↔
      (s.periods?.getD (1, 1)).1.toNat * (s.periods?.getD (1, 1)).2.toNat ≤ 4294967295 := by
  rw [← exists_wordProduct_iff]
  show (∃ row, m.rowWidth s = .ok row) ↔ _
  unfold rowWidth
  cases hw : wordProduct (s.periods?.getD (1, 1)).1 (s.periods?.getD (1, 1)).2 with
  | error e => simp [hw, bind, Except.bind]
  | ok n => simp [hw, bind, Except.bind, pure, Except.pure]

/-- The report on a layout with these lengths. -/
def Report.ofLengths (container cell measured row : α) : Report α :=
  { container, cell, measured, font := fontSize measured, line := measured, row,
    anomalies := BoxPuzzle.anomalies container cell row }

namespace Style

/-! ## The boxes that the rules draw -/

omit [Length α] in
/-- Rules that are added later draw no other boxes. -/
theorem periods?_addAll {s : Style α} {across down : UInt32} (h : s.periods? = some (across, down))
    (rs : List (Rule α)) : (s.addAll rs).periods? = some (across, down) := by
  unfold periods? addAll at *
  simp only [Option.bind_eq_bind, Option.bind_eq_some_iff] at h ⊢
  obtain ⟨p, hp, q, hq, heq⟩ := h
  refine ⟨p, ?_, q, ?_, heq⟩
  · rw [List.findSome?_append, hp, Option.some_or]
  · rw [List.findSome?_append, hq, Option.some_or]

/-- `p` is the period of the first rule on such an edge, or `new` if there is no such rule. -/
def FirstPeriod (edge : UInt32 → Target) (rules : List (Rule α)) (new p : UInt32) : Prop :=
  (∃ before rule after, rules = before ++ rule :: after ∧ rule.target = edge p ∧
    ∀ r ∈ before, ∀ e, r.target ≠ edge e) ∨
  (∀ r ∈ rules, ∀ e, r.target ≠ edge e) ∧ p = new

omit [Length α] in
theorem firstPeriod_findSome? (period? : Target → Option UInt32) {edge : UInt32 → Target}
    (hedge : ∀ t p, period? t = some p ↔ t = edge p) (rules : List (Rule α)) (new : UInt32) :
    FirstPeriod edge rules new ((rules.findSome? fun r => period? r.target).getD new) := by
  have hnone : ∀ r : Rule α, period? r.target = none ↔ ∀ e, r.target ≠ edge e := by
    intro r
    simp only [Option.eq_none_iff_forall_ne_some, ne_eq, hedge]
  cases hfind : rules.findSome? fun r => period? r.target with
  | none =>
    rw [List.findSome?_eq_none_iff] at hfind
    exact .inr ⟨fun r hr => (hnone r).1 (hfind r hr), rfl⟩
  | some p =>
    obtain ⟨before, rule, after, hrules, hrule, hbefore⟩ := List.findSome?_eq_some_iff.1 hfind
    exact .inl ⟨before, rule, after, hrules, (hedge _ _).1 hrule, fun r hr => (hnone r).1 (hbefore r hr)⟩

/-- After the first pass the rules draw boxes: in each direction those of the first edge rule that was
there, else those of the shape. -/
theorem periods?_framed (s : Style α) (container : α) (shape : BoxShape) :
    ∃ across down, (s.framed container shape).periods? = some (across, down) ∧
      FirstPeriod .columnEdge s.rules shape.width across ∧
      FirstPeriod .rowEdge s.rules shape.height down := by
  refine ⟨_, _, ?_,
    firstPeriod_findSome? Target.columnPeriod? (fun t p => ?_) s.rules shape.width,
    firstPeriod_findSome? Target.rowPeriod? (fun t p => ?_) s.rules shape.height⟩
  · unfold periods? framed addAll
    rw [List.findSome?_append, List.findSome?_append]
    cases s.rules.findSome? (·.target.columnPeriod?) <;>
      cases s.rules.findSome? (·.target.rowPeriod?) <;> rfl
  · cases t <;> simp [Target.columnPeriod?]
  · cases t <;> simp [Target.rowPeriod?]

theorem periods?_typed {s : Style α} {container : α} {shape : BoxShape} {across down : UInt32}
    (h : (s.framed container shape).periods? = some (across, down)) (host : Host α) :
    (s.typed host container shape).periods? = some (across, down) :=
  periods?_addAll h _

/-! ## The passes on any style -/

/-- **What a layout can do**: both products are there and the row gets its rule, or one of them is
not and the rules of the first two passes stay. -/
theorem layOut_cases (s : Style α) (host : Host α) (container : α) (shape : BoxShape) :
    (∃ row side, host.rowWidth (s.typed host container shape) = .ok row ∧ shape.side = .ok side ∧
      s.layOut host container shape =
        ((s.typed host container shape).add (rowRule (row * Length.ofCount side)),
          .ok (.ofLengths container (cellWidthFor container shape)
            (host.cellWidth (s.framed container shape)) (row * Length.ofCount side)))) ∨
    (¬ ((∃ row, host.rowWidth (s.typed host container shape) = .ok row) ∧
        ∃ side, shape.side = .ok side) ∧
      s.layOut host container shape = (s.typed host container shape, .error .product)) := by
  have hscaled : scaledRow host (s.typed host container shape) shape =
      (host.rowWidth (s.typed host container shape)).bind fun row =>
        shape.side.map fun side => row * Length.ofCount side := by
    unfold scaledRow
    cases shape.side <;> rfl
  cases hrow : host.rowWidth (s.typed host container shape) with
  | error e =>
    cases e
    refine .inr ⟨by simp, ?_⟩
    simp only [layOut, hscaled, hrow, Except.bind]
  | ok row =>
    cases hside : shape.side with
    | error e =>
      cases e
      refine .inr ⟨by simp, ?_⟩
      simp only [layOut, hscaled, hrow, hside, Except.bind, Except.map]
    | ok side =>
      refine .inl ⟨row, side, rfl, rfl, ?_⟩
      simp only [layOut, hscaled, hrow, hside, Except.bind, Except.map, Report.ofLengths]

theorem layOut_overflows_iff (s : Style α) (host : Host α) (container : α) (shape : BoxShape) :
    (s.layOut host container shape).2 = .error .product ↔
      4294967295 < shape.width.toNat * shape.height.toNat ∨
        ¬ ∃ row, host.rowWidth (s.typed host container shape) = .ok row := by
  have hside : (∃ side, shape.side = .ok side) ↔ shape.width.toNat * shape.height.toNat ≤ 4294967295 :=
    exists_wordProduct_iff
  rw [← Nat.not_le, ← hside]
  obtain ⟨row, side, hrow, hside, heq⟩ | ⟨hnot, heq⟩ := s.layOut_cases host container shape
  · rw [heq]
    simp [hrow, hside]
  · rw [heq]
    tauto

/-- The host is asked for one cell and one row, the cell after the first pass and the row after the
second. -/
theorem layOut_congr_of_agree {s : Style α} {host other : Host α} {container : α} {shape : BoxShape}
    (hcell : other.cellWidth (s.framed container shape) = host.cellWidth (s.framed container shape))
    (hrow : other.rowWidth (s.typed host container shape) =
      host.rowWidth (s.typed host container shape)) :
    s.layOut other container shape = s.layOut host container shape := by
  have htyped : s.typed other container shape = s.typed host container shape := by
    rw [typed, typed, hcell]
  have hscaled : scaledRow other (s.typed host container shape) shape =
      scaledRow host (s.typed host container shape) shape := by
    rw [scaledRow, scaledRow, hrow]
  simp only [layOut, htyped, hcell, hscaled]

/-- **A layout on any style.** The rules that are there stay as they are. Four are added before a cell
is measured and two more before a row is; then a seventh is added, or a product has overflowed and
there are six. That is the side of the grid or, on a page of bordered cells, the product of the periods
that the first edge rules draw. -/
theorem layOut_outcome (s : Style α) (container : α) (shape : BoxShape) :
    let four := frameRules shape (cellWidthFor container shape)
    let framed : Style α := { s with rules := s.rules ++ four }
    ∃ across down, framed.periods? = some (across, down) ∧
      FirstPeriod .columnEdge s.rules shape.width across ∧
      FirstPeriod .rowEdge s.rules shape.height down ∧
      (∀ host : Host α,
        let two := typeRules (host.cellWidth framed)
        let typed : Style α := { s with rules := s.rules ++ four ++ two }
        (four.length = 4 ∧ two.length = 2) ∧
        (∀ other : Host α, other.cellWidth framed = host.cellWidth framed →
          other.rowWidth typed = host.rowWidth typed →
          s.layOut other container shape = s.layOut host container shape) ∧
        ((∃ row side, host.rowWidth typed = .ok row ∧ shape.side = .ok side ∧
          s.layOut host container shape =
            ({ s with rules := s.rules ++ four ++ two ++ [rowRule (row * Length.ofCount side)] },
              .ok (.ofLengths container (cellWidthFor container shape) (host.cellWidth framed)
                (row * Length.ofCount side)))) ∨
          s.layOut host container shape = (typed, .error .product))) ∧
      (∀ m : BoxModel α, (s.layOut m.host container shape).2 = .error .product ↔
        4294967295 < shape.width.toNat * shape.height.toNat ∨
          4294967295 < across.toNat * down.toNat) ∧
      ∀ width cell row : α, (s.layOut (.fixed width cell row) container shape).2 = .error .product ↔
        4294967295 < shape.width.toNat * shape.height.toNat := by
  intro four framed
  obtain ⟨across, down, hperiods, hacross, hdown⟩ := s.periods?_framed container shape
  refine ⟨across, down, hperiods, hacross, hdown, ?_, ?_, ?_⟩
  · intro host two typed
    refine ⟨⟨rfl, rfl⟩, fun other hcell hrow => layOut_congr_of_agree hcell hrow, ?_⟩
    obtain ⟨row, side, hrow, hside, heq⟩ | ⟨-, heq⟩ := s.layOut_cases host container shape
    · exact .inl ⟨row, side, hrow, hside, heq⟩
    · exact .inr heq
  · intro m
    rw [layOut_overflows_iff, m.exists_rowWidth_iff, periods?_typed hperiods, Option.getD_some,
      Nat.not_le]
  · intro width cell row
    rw [layOut_overflows_iff]
    simp [Host.fixed]

/-- Edge rules of another grid make a page overflow, and leave a host that does not look at them
alone. -/
theorem layOut_outcome_of_large_edges :
    let s : Style Float := { rules := [⟨.columnEdge 70000, "border-right", boxLine⟩,
      ⟨.rowEdge 65000, "border-bottom", boxLine⟩] }
    (s.layOut (BoxModel.standard 500).host 500 ⟨3, 3⟩).2 = .error .product ∧
      (s.layOut (BoxModel.standard 500).host 500 ⟨3, 3⟩).1.size = 8 ∧
      (s.layOut (.fixed 500 50 480) 500 ⟨3, 3⟩).2 ≠ .error .product := by
  intro s
  obtain ⟨across, down, hperiods, -, -, hany, hpage, hfixed⟩ := layOut_outcome s 500 ⟨3, 3⟩
  obtain ⟨rfl, rfl⟩ : across = 70000 ∧ down = 65000 := by
    have : some ((70000 : UInt32), (65000 : UInt32)) = some (across, down) := hperiods
    simpa [eq_comm] using this
  have hover := (hpage (BoxModel.standard 500)).2 (.inr (by decide))
  refine ⟨hover, ?_, fun h => absurd ((hfixed 500 50 480).1 h) (by decide)⟩
  obtain ⟨row, side, -, -, heq⟩ | heq := (hany (BoxModel.standard 500).host).2.2
  · rw [heq] at hover
    cases hover
  · rw [heq]
    rfl

/-! ## A layout from scratch -/

/-- A layout does not look at the rules that were there. -/
theorem relayOut_congr {s t : Style α} (h : s.selectors = t.selectors) (host : Host α)
    (shape : BoxShape) : s.relayOut host shape = t.relayOut host shape := by
  have hc : s.cleared = t.cleared := by rw [cleared, cleared, h]
  rw [relayOut, relayOut, hc]

/-- **The rules of a layout**: the boxes of the shape, the cells, the type and the rows. -/
theorem rules_relayOut {s t : Style α} {host : Host α} {shape : BoxShape} {report : Report α}
    (h : s.relayOut host shape = (t, .ok report)) :
    t.selectors = s.selectors ∧ t.rules =
      frameRules shape report.cell ++ typeRules report.measured ++ [rowRule report.row] := by
  simp only [relayOut, layOut] at h
  split at h
  · cases h
  · cases h
    exact ⟨rfl, rfl⟩

theorem size_relayOut {s t : Style α} {host : Host α} {shape : BoxShape} {report : Report α}
    (h : s.relayOut host shape = (t, .ok report)) : t.size = 7 := by
  rw [size, (rules_relayOut h).2]
  rfl

theorem edges_of_mem {shape : BoxShape} {cell measured row : α} {rule : Rule α}
    (h : rule ∈ frameRules shape cell ++ typeRules measured ++ [rowRule row]) (every : UInt32) :
    (rule.target = .columnEdge every → every = shape.width) ∧
      (rule.target = .rowEdge every → every = shape.height) := by
  simp only [frameRules, typeRules, rowRule, List.cons_append, List.nil_append, List.mem_cons,
    List.not_mem_nil, or_false] at h
  rcases h with rfl | rfl | rfl | rfl | rfl | rfl | rfl <;> simp [eq_comm]

theorem exists_relayOut (s : Style α) {host : Host α} (hh : host.Answers) {shape : BoxShape}
    (hp : shape.Proper) : ∃ report, (s.relayOut host shape).2 = .ok report := by
  have hperiods : (s.cleared.typed host host.container shape).periods? =
      some (shape.width, shape.height) := rfl
  obtain ⟨row, hrow⟩ := hh _ shape hp hperiods
  have hscaled : scaledRow host (s.cleared.typed host host.container shape) shape =
      .ok (row * Length.ofCount (shape.width * shape.height)) := by
    rw [scaledRow, hrow, hp.side_eq]
    rfl
  simp only [relayOut, layOut, hscaled]
  exact ⟨_, rfl⟩

/-- The rules of a layout draw the boxes of the shape, also when the third pass overflows. -/
theorem periods?_relayOut (s : Style α) (host : Host α) (shape : BoxShape) :
    (s.relayOut host shape).1.periods? = some (shape.width, shape.height) := by
  have hperiods : (s.cleared.typed host host.container shape).periods? =
      some (shape.width, shape.height) := rfl
  unfold relayOut
  obtain ⟨row, side, -, -, heq⟩ | ⟨-, heq⟩ := s.cleared.layOut_cases host host.container shape
  · rw [heq]
    exact periods?_addAll hperiods [rowRule (row * Length.ofCount side)]
  · rw [heq, hperiods]

/-! ## Reading a layout off its rules -/

theorem type_of_relayOut {s t : Style α} {host : Host α} {shape : BoxShape} {report : Report α}
    (h : s.relayOut host shape = (t, .ok report)) :
    report.font = fontSize report.measured ∧ report.line = report.measured := by
  unfold relayOut at h
  obtain ⟨row, side, -, -, heq⟩ | ⟨-, heq⟩ := s.cleared.layOut_cases host host.container shape
  · rw [heq] at h
    cases h
    exact ⟨rfl, rfl⟩
  · rw [heq] at h
    cases h

/-- What a layout sets a length for. -/
def sized : List (Target × String) :=
  [(.cells, "width"), (.cells, "height"), (.cells, "font-size"), (.cells, "line-height"),
    (.rows, "width")]

omit [Length α] in
theorem lengthFor?_eq_none {r : Rule α} {target : Target} {property : String}
    (h : (r.target, r.property) ≠ (target, property) ∨ r.value.length? = none) :
    r.lengthFor? target property = none := by
  unfold Rule.lengthFor?
  split_ifs with hr
  · obtain ⟨rfl, rfl⟩ := hr
    exact h.resolve_left fun hne => hne rfl
  · rfl

theorem length?_eq_none_of_relayOut {s t : Style α} {host : Host α} {shape : BoxShape}
    {report : Report α} (h : s.relayOut host shape = (t, .ok report)) {target : Target}
    {property : String} (hnot : (target, property) ∉ sized) : t.length? target property = none := by
  rw [length?, List.findSome?_eq_none_iff, (rules_relayOut h).2]
  intro rule hrule
  refine lengthFor?_eq_none ?_
  -- an edge rule sets no length, and the others are for what is listed
  have hcases : rule.value.length? = none ∨ (rule.target, rule.property) ∈ sized := by
    simp only [List.mem_reverse, frameRules, typeRules, rowRule, List.cons_append, List.nil_append,
      List.mem_cons, List.not_mem_nil, or_false] at hrule
    rcases hrule with rfl | rfl | rfl | rfl | rfl | rfl | rfl <;> simp [sized, boxLine, Value.length?]
  obtain hnone | hmem := hcases
  · exact .inr hnone
  · exact .inl fun heq => hnot (heq ▸ hmem)

/-- **A layout forgets the past and can be read off its rules.** Styles of the same selectors become
the same style with the same report, whatever rules they had. Afterwards the rules draw the boxes of the
shape, the lengths in effect are those of the report and no others, and a second layout changes
nothing. -/
theorem relayOut_reads_back {s t : Style α} (hselectors : s.selectors = t.selectors) {host : Host α}
    {shape : BoxShape} (hreturns : (s.relayOut host shape).2 ≠ .error .product) :
    ∃ (u : Style α) (report : Report α),
      s.relayOut host shape = (u, .ok report) ∧ t.relayOut host shape = (u, .ok report) ∧
      u.periods? = some (shape.width, shape.height) ∧
      u.length? .cells "width" = some report.cell ∧ u.length? .cells "height" = some report.cell ∧
      u.length? .cells "font-size" = some report.font ∧
      u.length? .cells "line-height" = some report.line ∧
      u.length? .rows "width" = some report.row ∧
      (∀ target property, (target, property) ∉ sized → u.length? target property = none) ∧
      u.relayOut host shape = (u, .ok report) := by
  obtain ⟨report, hreport⟩ : ∃ report, (s.relayOut host shape).2 = .ok report := by
    by_contra hnot
    exact hreturns (Checked.eq_error_iff.2 hnot)
  have hs : s.relayOut host shape = ((s.relayOut host shape).1, .ok report) := by
    rw [← hreport]
  obtain ⟨hnaming, hrules⟩ := rules_relayOut hs
  obtain ⟨hfont, hline⟩ := type_of_relayOut hs
  refine ⟨_, report, hs, ?_, s.periods?_relayOut host shape, ?_, ?_, ?_, ?_, ?_,
    fun target property hnot => length?_eq_none_of_relayOut hs hnot, ?_⟩
  · rw [← relayOut_congr hselectors, hs]
  · rw [length?, hrules]
    rfl
  · rw [length?, hrules]
    rfl
  · rw [length?, hrules, hfont]
    rfl
  · rw [length?, hrules, hline]
    rfl
  · rw [length?, hrules]
    rfl
  · rw [relayOut_congr hnaming, hs]

/-- A style full of rules of another grid, and an empty one. -/
theorem relayOut_reads_back_over_large_edges :
    let host := (BoxModel.standard (500 : Float)).host
    let s : Style Float := {}
    let t : Style Float := { rules := [⟨.columnEdge 70000, "border-right", boxLine⟩,
      ⟨.rowEdge 65000, "border-bottom", boxLine⟩, ⟨.rows, "height", .length 7⟩] }
    s.selectors = t.selectors ∧ (s.relayOut host ⟨3, 2⟩).2 ≠ .error .product ∧
      t.length? .rows "height" = some 7 ∧
      ∃ u report, s.relayOut host ⟨3, 2⟩ = (u, .ok report) ∧ t.relayOut host ⟨3, 2⟩ = (u, .ok report) ∧
        u.periods? = some (3, 2) ∧ u.length? .rows "width" = some report.row ∧
        u.length? .rows "height" = none ∧ u.relayOut host ⟨3, 2⟩ = (u, .ok report) := by
  intro host s t
  have hproper : BoxShape.Proper ⟨3, 2⟩ := by decide
  obtain ⟨report, hreport⟩ := s.exists_relayOut (BoxModel.answers_host (.standard 500)) hproper
  have hreturns : (s.relayOut host ⟨3, 2⟩).2 ≠ .error .product := by
    rw [hreport]
    exact nofun
  obtain ⟨u, report, hs, ht, hperiods, -, -, -, -, hrow, hnone, hagain⟩ :=
    relayOut_reads_back (s := s) (t := t) rfl hreturns
  exact ⟨rfl, hreturns, rfl, u, report, hs, ht, hperiods, hrow, hnone .rows "height" (by decide), hagain⟩

end Style

end BoxPuzzle
