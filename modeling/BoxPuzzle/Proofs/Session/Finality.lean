import BoxPuzzle.Proofs.Session.Agreement

/-!
# A solve is final

Once a session is solved, no operation reopens it. The givens in the widget may still be edited,
but the configuration, the solution and what led to it stay, and the service is not asked again.

* `SameSolve`: what a solve settles;
* `Refused`: how a solved session answers;
* `Step.sameSolve`, `sameSolve_run`: one operation after a solve, and any number of them;
* `Step.succeeded_le`, `succeeded_run_le`: a success makes a session solved;
* `announced`, `announced_run`: the log tells of a solution exactly when there is one;
* **`solve_is_final`**.
-/

namespace BoxPuzzle

/-- The size of the solution that an event announces. -/
def Event.cells? : Event → Option Nat
  | solved cells => some cells
  | _ => none

namespace Session

variable {α : Type}

/-! ## What a solve settles -/

/-- `t` is configured and solved as `s` is, shows the same, and has sent nothing more. -/
structure SameSolve (s t : Session α) : Prop where
  configuration : t.configuration = s.configuration
  solution : t.solution = s.solution
  submitted : t.submitted = s.submitted
  solvedAt : t.solvedAt = s.solvedAt
  side : t.widget.side = s.widget.side
  shown : t.widget.solution = s.widget.solution
  service : t.service = s.service

namespace SameSolve

variable {s t u : Session α}

theorem refl (s : Session α) : SameSolve s s := ⟨rfl, rfl, rfl, rfl, rfl, rfl, rfl⟩

theorem trans (h : SameSolve s t) (h' : SameSolve t u) : SameSolve s u where
  configuration := h'.configuration.trans h.configuration
  solution := h'.solution.trans h.solution
  submitted := h'.submitted.trans h.submitted
  solvedAt := h'.solvedAt.trans h.solvedAt
  side := h'.side.trans h.side
  shown := h'.shown.trans h.shown
  service := h'.service.trans h.service

theorem of_frame (f : Frame s t) : SameSolve s t where
  configuration := f.configuration
  solution := f.solution
  submitted := f.submitted
  solvedAt := f.solvedAt
  side := by rw [f.widget]
  shown := by rw [f.widget]
  service := f.service

theorem edited (s : Session α) (g : Givens) :
    SameSolve s { s with widget := { s.widget with givens := g } } :=
  ⟨rfl, rfl, rfl, rfl, rfl, rfl, rfl⟩

theorem isSolved (h : SameSolve s t) : t.isSolved = s.isSolved := by
  rw [Session.isSolved, h.solution, Session.isSolved]

end SameSolve

/-- The answer of a session that takes no other shape and no other solution. -/
def Refused : Operation → Checked (Outcome α) → Prop
  | .setShape _ _, r => r = .ok (.changed .frozen)
  | .submit _, r => r = .ok (.submitted (.error .alreadySolved))
  | _, _ => True

/-- The answer is that of a submission which succeeded. -/
def succeeded : Checked (Outcome α) → Bool
  | .ok (.submitted (.ok _)) => true
  | _ => false

/-- The sizes of the solutions that a session announced. -/
def announced (s : Session α) : List Nat := s.events.filterMap Event.cells?

/-! ## After a solve -/

variable [Length α]

/-- **One operation after a solve.** -/
theorem Step.sameSolve {s t : Session α} {op : Operation} {r : Checked (Outcome α)}
    (hs : Step s op t r) (solved : s.isSolved = true) (frozen : s.configuration.frozen = true) :
    SameSolve s t ∧ Refused op r := by
  cases hs with
  | display => exact ⟨.of_frame (frame_displayUpdated s), trivial⟩
  | refresh => exact ⟨.of_frame (frame_refreshLayout s), trivial⟩
  | fill c d => exact ⟨.edited s _, trivial⟩
  | clear c => exact ⟨.edited s _, trivial⟩
  | frozen | again => exact ⟨.refl s, rfl⟩
  | reshape free | ignore free =>
    rw [frozen] at free
    cases free
  | overflow unsolved | misfit unsolved | fail unsolved | solve unsolved =>
    rw [solved] at unsolved
    cases unsolved

/-- **Any number of operations after a solve.** -/
theorem sameSolve_run {s : Session α} (solved : s.isSolved = true)
    (frozen : s.configuration.frozen = true) (ops : List Operation) :
    SameSolve s (s.run ops).1 ∧ List.Forall₂ Refused ops (s.run ops).2 := by
  induction ops generalizing s with
  | nil => exact ⟨.refl s, .nil⟩
  | cons op ops ih =>
    obtain ⟨hstep, hr⟩ := (step_spec s op).sameSolve solved frozen
    obtain ⟨hrun, hrs⟩ := ih (hstep.isSolved.trans solved)
      ((congrArg Configuration.frozen hstep.configuration).trans frozen)
    exact ⟨hstep.trans hrun, .cons hr hrs⟩

/-! ## At most one success -/

/-- A success is one of an unsolved session and makes it solved; nothing makes it unsolved. -/
theorem Step.succeeded_le {s t : Session α} {op : Operation} {r : Checked (Outcome α)}
    (hs : Step s op t r) : (succeeded r).toNat + s.isSolved.toNat ≤ t.isSolved.toNat := by
  cases hs with
  | solve unsolved =>
    rw [(frame_displayUpdated _).isSolved, unsolved]
    exact Bool.toNat_le _
  | reshape | display =>
    rw [Checked.test_map_eq_false succeeded (fun _ => rfl) (fun _ => rfl),
      (frame_displayUpdated _).isSolved]
    exact Nat.le_of_eq (Nat.zero_add _)
  | refresh =>
    rw [Checked.test_map_eq_false succeeded (fun _ => rfl) (fun _ => rfl),
      (frame_refreshLayout _).isSolved]
    exact Nat.le_of_eq (Nat.zero_add _)
  | ignore | frozen | fill | clear | again | overflow | misfit | fail =>
    exact Nat.le_of_eq (Nat.zero_add _)

theorem succeeded_run_le (s : Session α) (ops : List Operation) :
    (s.run ops).2.countP succeeded + s.isSolved.toNat ≤ (s.run ops).1.isSolved.toNat := by
  induction ops generalizing s with
  | nil => exact Nat.le_of_eq (Nat.zero_add _)
  | cons op ops ih =>
    have hstep := (step_spec s op).succeeded_le
    have hrun := ih (s.step op).1
    have hif : (if succeeded (s.step op).2 = true then 1 else 0) =
        (succeeded (s.step op).2).toNat := by
      cases succeeded (s.step op).2 <;> rfl
    simp only [run_cons, List.countP_cons, hif]
    omega

/-! ## What the log tells -/

theorem announced_refreshLayout (s : Session α) : s.refreshLayout.1.announced = s.announced := by
  unfold refreshLayout announced
  split
  · rfl
  · rw [List.filterMap_append]
    exact List.append_nil _

theorem announced_displayUpdated (s : Session α) : s.displayUpdated.1.announced = s.announced := by
  rw [displayUpdated, announced_refreshLayout, announced, emit, List.filterMap_append]
  exact List.append_nil _

theorem announced_step {s t : Session α} {op : Operation} {r : Checked (Outcome α)}
    (h : s.announced = (s.solution.map Givens.size).toList) (hs : Step s op t r) :
    t.announced = (t.solution.map Givens.size).toList := by
  cases hs with
  | @reshape _ _ shape n _ _ _ =>
    have hr : (s.reshaped shape n).announced = s.announced := by
      rw [announced, reshaped, List.filterMap_append]
      exact List.append_nil _
    rw [announced_displayUpdated, (frame_displayUpdated _).solution, hr, h]
    rfl
  | display => rw [announced_displayUpdated, (frame_displayUpdated _).solution, h]
  | refresh => rw [announced_refreshLayout, (frame_refreshLayout _).solution, h]
  | ignore | frozen | fill | clear | again | overflow | misfit | fail => exact h
  | @solve now n g unsolved _ _ _ =>
    have hg : (s.asked.withSolution g now).announced = s.announced ++ [g.size] := by
      rw [announced, withSolution, List.filterMap_append]
      rfl
    rw [solution_eq_none unsolved] at h
    rw [announced_displayUpdated, (frame_displayUpdated _).solution, hg, h]
    rfl

variable (service : Service) (host : Host α) (widget : Widget) (selectors : Selectors)

theorem announced_run (ops : List Operation) :
    ((start service host widget selectors).run ops).1.announced =
      (((start service host widget selectors).run ops).1.solution.map Givens.size).toList :=
  run_induction (P := fun s => s.announced = (s.solution.map Givens.size).toList)
    (fun _ _ _ _ h hs => announced_step h hs) rfl ops

/-- **A solve is final.** Whatever follows, a solved session stays configured and solved as it is
and asks its service no more; it refuses every other shape and every other submission. So in any
run at most one submission succeeds and at most one solution is announced. -/
theorem solve_is_final (ops : List Operation) :
    let run := (start service host widget selectors).run ops
    (run.1.isSolved = true → ∀ more, SameSolve run.1 (run.1.run more).1 ∧
      List.Forall₂ Refused more (run.1.run more).2) ∧
    run.2.countP succeeded ≤ 1 ∧ run.1.announced.length ≤ 1 := by
  intro run
  have hc : run.1.Consistent := consistent_run service host widget selectors ops
  refine ⟨fun solved => sameSolve_run solved (hc.frozen.trans solved), ?_, ?_⟩
  · have h := succeeded_run_le (start service host widget selectors) ops
    have hle := Bool.toNat_le run.1.isSolved
    exact Nat.le_trans (Nat.le_add_right _ _) (Nat.le_trans h hle)
  · have h : run.1.announced = _ := announced_run service host widget selectors ops
    rw [h, Option.length_toList]
    cases run.1.solution.map Givens.size <;> simp

theorem solve_of_sample_is_final :
    let run := sample.run (sampleOps.take 7)
    run.1.isSolved = true ∧ SameSolve run.1 (run.1.run (sampleOps.drop 7)).1 ∧
      List.Forall₂ Refused (sampleOps.drop 7) (run.1.run (sampleOps.drop 7)).2 ∧
      run.2.countP succeeded = 1 ∧ run.1.announced = [4] :=
  have h := (solve_is_final sampleService (BoxModel.standard (500 : Float)).host {} {}
    (sampleOps.take 7)).1 rfl (sampleOps.drop 7)
  ⟨rfl, h.1, h.2, rfl, rfl⟩

end Session

end BoxPuzzle
