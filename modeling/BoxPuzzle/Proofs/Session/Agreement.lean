import BoxPuzzle.Proofs.Session.Step

/-!
# The parts of a session agree

A session keeps its state in several places: the configuration, the widget, and the solution with
the givens that led to it. Every step moves them together.

* `Consistent`: the invariant, for a widget that may have shown anything at the start;
* `Consistent.of_frame`, `Consistent.reshaped`, `Consistent.edited`, `Consistent.asked`,
  `Consistent.withSolution`: one lemma for each kind of change;
* `Consistent.step`, `consistent_run`: the invariant along every run;
* **`run_start_agrees`**: what holds after every run of a session whose widget showed no solution.
-/

namespace BoxPuzzle

namespace Session

variable {α : Type}

/-- The parts of a session agree with one another. -/
structure Consistent (s : Session α) : Prop where
  submitted : s.submitted.isSome = s.isSolved
  solvedAt : s.solvedAt.isSome = s.isSolved
  frozen : s.configuration.frozen = s.isSolved
  shown : s.isSolved = true → s.widget.solution = s.solution
  proper : s.configuration.shape.Proper
  side : s.configuration.shape.side = .ok s.widget.side
  solution_fits : ∀ g, s.solution = some g → g.Fits s.widget.side.toNat
  submitted_fits : ∀ g, s.submitted = some g → g.Fits s.widget.side.toNat

theorem solution_eq_none {s : Session α} (h : s.isSolved = false) : s.solution = none :=
  Option.isNone_iff_eq_none.1 (Option.isSome_eq_false_iff.1 h)

namespace Consistent

variable {s t : Session α}

theorem submitted_eq_none (h : s.Consistent) (hs : s.isSolved = false) : s.submitted = none := by
  rw [← Option.isNone_iff_eq_none, ← Option.isSome_eq_false_iff, h.submitted, hs]

theorem of_frame (h : s.Consistent) (f : Frame s t) : t.Consistent where
  submitted := by rw [f.submitted, f.isSolved, h.submitted]
  solvedAt := by rw [f.solvedAt, f.isSolved, h.solvedAt]
  frozen := by rw [f.configuration, f.isSolved, h.frozen]
  shown hs := by
    rw [f.isSolved] at hs
    rw [f.widget, f.solution, h.shown hs]
  proper := f.configuration ▸ h.proper
  side := by rw [f.configuration, f.widget, h.side]
  solution_fits := by rw [f.solution, f.widget]; exact h.solution_fits
  submitted_fits := by rw [f.submitted, f.widget]; exact h.submitted_fits

/-- Only an unsolved session is reshaped, so there is nothing that has to fit the new grid. -/
theorem reshaped (h : s.Consistent) (free : s.configuration.frozen = false) {shape : BoxShape}
    (hp : shape.Proper) {n : UInt32} (hn : shape.side = .ok n) : (s.reshaped shape n).Consistent := by
  have hs : s.isSolved = false := h.frozen.symm.trans free
  exact {
    submitted := h.submitted
    solvedAt := h.solvedAt
    frozen := h.frozen
    shown := h.shown
    proper := hp
    side := hn
    solution_fits := fun g hg => by cases (solution_eq_none hs).symm.trans hg
    submitted_fits := fun g hg => by cases (h.submitted_eq_none hs).symm.trans hg }

/-- The givens of the widget do not matter. -/
theorem edited (h : s.Consistent) (g : Givens) :
    { s with widget := { s.widget with givens := g } }.Consistent :=
  ⟨h.submitted, h.solvedAt, h.frozen, h.shown, h.proper, h.side, h.solution_fits, h.submitted_fits⟩

theorem asked (h : s.Consistent) : s.asked.Consistent :=
  ⟨h.submitted, h.solvedAt, h.frozen, h.shown, h.proper, h.side, h.solution_fits, h.submitted_fits⟩

theorem withSolution (h : s.Consistent) {g : Givens} (now : Nat)
    (hg : g.Fits s.widget.side.toNat) (hw : s.widget.givens.Fits s.widget.side.toNat) :
    (s.withSolution g now).Consistent where
  submitted := rfl
  solvedAt := rfl
  frozen := rfl
  shown _ := rfl
  proper := h.proper
  side := h.side
  solution_fits g' hg' := by
    cases hg'
    exact hg
  submitted_fits g' hg' := by
    cases hg'
    exact hw

variable [Length α]

/-- **Every step keeps the parts in agreement.** -/
theorem step {op : Operation} {r : Checked (Outcome α)} (h : s.Consistent) (hs : Step s op t r) :
    t.Consistent := by
  cases hs with
  | reshape free typed side =>
    exact (h.reshaped free (typedShape?_proper typed) side).of_frame (frame_displayUpdated _)
  | ignore | frozen | again | overflow | misfit => exact h
  | display => exact h.of_frame (frame_displayUpdated _)
  | refresh => exact h.of_frame (frame_refreshLayout _)
  | fill c d => exact h.edited _
  | clear c => exact h.edited _
  | fail => exact h.asked
  | solve unsolved side fits answer =>
    -- the grid that the givens were checked against is the one that the widget shows
    rw [h.side] at side
    cases side
    refine (h.asked.withSolution _ ?_ ?_).of_frame (frame_displayUpdated _)
    · exact Service.solution_fits answer
    · exact Givens.fault?_eq_none_iff.1 fits

end Consistent

variable (service : Service) (host : Host α) (widget : Widget) (selectors : Selectors)

theorem consistent_start : (start service host widget selectors).Consistent where
  submitted := rfl
  solvedAt := rfl
  frozen := rfl
  shown h := by cases h
  proper := by
    show BoxShape.standard.Proper
    decide
  side := BoxShape.side_standard
  solution_fits g hg := by cases hg
  submitted_fits g hg := by cases hg

variable [Length α]

theorem consistent_run (ops : List Operation) :
    ((start service host widget selectors).run ops).1.Consistent :=
  run_induction (fun _ _ _ _ h hs => h.step hs) (consistent_start service host widget selectors) ops

/-- A widget that shows what the session holds keeps doing so. -/
theorem shown_step {s t : Session α} {op : Operation} {r : Checked (Outcome α)}
    (h : s.widget.solution = s.solution) (hs : Step s op t r) : t.widget.solution = t.solution := by
  have of_frame : ∀ {s t : Session α}, Frame s t → s.widget.solution = s.solution →
      t.widget.solution = t.solution := by
    intro s t f h
    rw [f.widget, f.solution, h]
  cases hs with
  | reshape => exact of_frame (frame_displayUpdated _) h
  | display => exact of_frame (frame_displayUpdated _) h
  | refresh => exact of_frame (frame_refreshLayout _) h
  | solve => exact of_frame (frame_displayUpdated _) rfl
  | ignore | frozen | fill | clear | again | overflow | misfit | fail => exact h

/-- **After every run the parts of a session agree**: what marks a solved session marks all of it,
the widget shows the solution as it is, what was submitted and what came back fit the grid, and
the widget has the size of the configured grid. -/
theorem run_start_agrees (ops : List Operation) (hw : widget.solution = none) :
    let s := ((start service host widget selectors).run ops).1
    (s.submitted.isSome = s.isSolved ∧ s.solvedAt.isSome = s.isSolved ∧
      s.configuration.frozen = s.isSolved ∧ s.widget.solution.isSome = s.isSolved) ∧
    (∀ g, s.solution = some g → s.widget.solution = some g ∧
      ∃ n sent, s.configuration.shape.side = .ok n ∧ s.submitted = some sent ∧
        g.validate n = .ok () ∧ sent.validate n = .ok ()) ∧
    0 < s.configuration.shape.width.toNat ∧ 0 < s.configuration.shape.height.toNat ∧
    s.configuration.shape.width.toNat * s.configuration.shape.height.toNat ≤ 4294967295 ∧
    s.widget.side.toNat = s.configuration.shape.width.toNat * s.configuration.shape.height.toNat := by
  intro s
  have h : s.Consistent := consistent_run service host widget selectors ops
  have hshown : s.widget.solution = s.solution :=
    run_induction (P := fun s => s.widget.solution = s.solution)
      (fun _ _ _ _ h hs => shown_step h hs) hw ops
  refine ⟨⟨h.submitted, h.solvedAt, h.frozen, congrArg Option.isSome hshown⟩, ?_, h.proper.1,
    h.proper.2.1, h.proper.2.2, BoxShape.side_eq_ok_iff.1 h.side⟩
  intro g hg
  have hsolved : s.isSolved = true := by rw [isSolved, hg]; rfl
  obtain ⟨sent, hsent⟩ := Option.isSome_iff_exists.1 (h.submitted.trans hsolved)
  exact ⟨hshown.trans hg, s.widget.side, sent, h.side, hsent,
    Givens.validate_eq_ok_iff.2 (h.solution_fits g hg),
    Givens.validate_eq_ok_iff.2 (h.submitted_fits sent hsent)⟩

theorem run_sample_agrees :
    let s := (sample.run sampleOps).1
    ({} : Widget).solution = none ∧ s.isSolved = true ∧ s.configuration.frozen = s.isSolved ∧
      s.widget.solution.isSome = s.isSolved ∧
      s.widget.side.toNat = s.configuration.shape.width.toNat * s.configuration.shape.height.toNat :=
  have h := run_start_agrees sampleService (BoxModel.standard (500 : Float)).host {} {} sampleOps rfl
  ⟨rfl, rfl, h.1.2.2.1, h.1.2.2.2, h.2.2.2.2.2⟩

end Session

end BoxPuzzle
