import BoxPuzzle.Proofs.Grid.Givens
import BoxPuzzle.Proofs.Text.Spelling
import BoxPuzzle.Session.Run

/-!
# The steps of a session

Everything that one operation can do to a session, case by case. Two facts carry the rest: laying
out touches nothing but the layout and the log (`Frame`), and every operation is one of the steps
below (`step_spec`).

* `typedShape?_proper`, `typedShape?_wordText`: two texts only ever name a shape that has a grid, and
  every such shape is named by the texts of its counts;
* `Service.submitTo_of_fits`, `Response.solutionFor_fits`: one round trip to the service;
* `Frame`, `frame_refreshLayout`, `frame_displayUpdated`;
* `Step`, **`step_spec`**, `Step.eq`: the steps, with their guards;
* `Step.service`: when the service is asked;
* `run_induction`: what every step preserves holds after every run;
* `sample`, `sampleOps`: a run with steps of every kind.
-/

namespace BoxPuzzle

namespace Checked

theorem map_map {β γ δ : Type} (x : Checked β) (f : β → γ) (g : γ → δ) :
    (x.map f).map g = x.map fun b => g (f b) := by
  cases x <;> rfl

/-- A test that faults fail is failed by a mapped result if every value fails it. -/
theorem test_map_eq_false {β γ : Type} (test : Checked γ → Bool) {f : β → γ}
    (he : ∀ e, test (.error e) = false) (hf : ∀ b, test (.ok (f b)) = false) (x : Checked β) :
    test (x.map f) = false := by
  cases x with
  | error e => exact he e
  | ok b => exact hf b

end Checked

/-! ## Typed shapes -/

theorem typedCount?_pos {text : Option String} {n : UInt32} (h : typedCount? text = some n) :
    0 < n.toNat := by
  simp only [typedCount?, Option.bind_eq_bind, Option.bind_eq_some_iff] at h
  obtain ⟨s, -, m, -, hm⟩ := h
  split_ifs at hm with hpos
  cases hm
  exact UInt32.lt_iff_toNat_lt.1 hpos

theorem typedShape?_proper {width height : Option String} {shape : BoxShape}
    (h : typedShape? width height = some shape) : shape.Proper := by
  simp only [typedShape?, Option.bind_eq_bind, Option.bind_eq_some_iff] at h
  obtain ⟨w, hw, v, hv, hs⟩ := h
  split_ifs at hs with hside
  cases hs
  refine ⟨typedCount?_pos hw, typedCount?_pos hv, ?_⟩
  unfold BoxShape.side? wordProduct? at hside
  split_ifs at hside with hle
  · exact hle
  · cases hside

theorem typedCount?_wordText {n : UInt32} (h : 0 < n.toNat) : typedCount? (some (wordText n)) = some n := by
  have hpos : 0 < n := UInt32.lt_iff_toNat_lt.2 h
  simp [typedCount?, wordText, decimalText, readWord?_numeral, hpos]

theorem typedShape?_wordText {shape : BoxShape} (h : shape.Proper) :
    typedShape? (some (wordText shape.width)) (some (wordText shape.height)) = some shape := by
  simp [typedShape?, typedCount?_wordText h.1, typedCount?_wordText h.2.1, h.isSome_side?]

/-! ## One round trip -/

theorem Response.solutionFor_fits {r : Response} {n : UInt32} {g : Givens}
    (h : r.solutionFor n = .ok g) : g.Fits n.toNat := by
  unfold solutionFor at h
  split at h
  · cases h
  · split at h
    · cases h
    · next hf =>
      cases h
      exact Givens.fault?_eq_none_iff.1 hf

namespace Service

theorem received_solve (s : Service) (r : Request) : (s.solve r).1.received = s.received ++ [r] := by
  unfold solve
  split <;> rfl

/-- Givens that do not fit are not sent. -/
theorem submitTo_of_fault (s : Service) {g : Givens} (shape : BoxShape) {n : UInt32} {e : GridError}
    (h : g.fault? n = some e) : s.submitTo g shape n = (s, .error (.grid e)) := by
  rw [submitTo, h]

/-- Givens that fit are sent, in one request. -/
theorem submitTo_of_fits (s : Service) {g : Givens} (shape : BoxShape) {n : UInt32}
    (h : g.fault? n = none) :
    (s.submitTo g shape n).1 = (s.solve (.ofGivens g shape)).1 := by
  rw [submitTo, h]
  dsimp only
  split <;> next heq => rw [heq]

theorem solution_fits {s : Service} {g solution : Givens} {shape : BoxShape} {n : UInt32}
    (h : (s.submitTo g shape n).2 = .ok solution) : solution.Fits n.toNat := by
  unfold submitTo at h
  split at h
  · cases h
  · split at h
    · cases h
    · exact Response.solutionFor_fits h

end Service

namespace Session

variable {α : Type}

/-! ## Changes of a session -/

/-- The session in another shape, which is announced but not yet laid out. -/
def reshaped (s : Session α) (shape : BoxShape) (n : UInt32) : Session α :=
  { s with
    configuration := { s.configuration with shape }
    widget := s.widget.resize n
    events := s.events ++ [.shapeChanged shape] }

/-- The request for the givens that the widget shows. -/
def request (s : Session α) : Request := .ofGivens s.widget.givens s.configuration.shape

/-- The session after its service was asked. -/
def asked (s : Session α) : Session α := { s with service := (s.service.solve s.request).1 }

/-- What the service makes of the givens that the widget shows, in a grid of side `n`. -/
def answer (s : Session α) (n : UInt32) : Except SubmitError Givens :=
  (s.service.submitTo s.widget.givens s.configuration.shape n).2

theorem submitTo_eq_asked {s : Session α} {n : UInt32} (h : s.widget.givens.fault? n = none) :
    s.service.submitTo s.widget.givens s.configuration.shape n = (s.asked.service, s.answer n) :=
  Prod.ext (s.service.submitTo_of_fits s.configuration.shape h) rfl

/-! ## What layout leaves alone -/

/-- `t` differs from `s` at most in its layout and in its log. -/
structure Frame (s t : Session α) : Prop where
  configuration : t.configuration = s.configuration
  service : t.service = s.service
  host : t.host = s.host
  widget : t.widget = s.widget
  solution : t.solution = s.solution
  submitted : t.submitted = s.submitted
  solvedAt : t.solvedAt = s.solvedAt

theorem Frame.isSolved {s t : Session α} (h : Frame s t) : t.isSolved = s.isSolved := by
  rw [Session.isSolved, h.solution, Session.isSolved]

variable [Length α]

theorem frame_refreshLayout (s : Session α) : Frame s s.refreshLayout.1 := by
  unfold refreshLayout
  split <;> exact ⟨rfl, rfl, rfl, rfl, rfl, rfl, rfl⟩

theorem frame_displayUpdated (s : Session α) : Frame s s.displayUpdated.1 := by
  obtain ⟨h1, h2, h3, h4, h5, h6, h7⟩ := frame_refreshLayout (s.emit .displayUpdated)
  exact ⟨h1, h2, h3, h4, h5, h6, h7⟩

/-! ## Steps -/

/-- **What an operation does to a session**, and what it answers. -/
inductive Step (s : Session α) : Operation → Session α → Checked (Outcome α) → Prop
  | reshape {width height : Option String} {shape : BoxShape} {n : UInt32}
      (free : s.configuration.frozen = false) (typed : typedShape? width height = some shape)
      (side : shape.side = .ok n) :
      Step s (.setShape width height) (s.reshaped shape n).displayUpdated.1
        ((s.reshaped shape n).displayUpdated.2.map fun _ => .changed (.applied shape))
  | ignore {width height : Option String} (free : s.configuration.frozen = false)
      (untyped : typedShape? width height = none) :
      Step s (.setShape width height) s (.ok (.changed .ignored))
  | frozen {width height : Option String} (frozen : s.configuration.frozen = true) :
      Step s (.setShape width height) s (.ok (.changed .frozen))
  | display : Step s .displayUpdated s.displayUpdated.1 (s.displayUpdated.2.map .laidOut)
  | refresh : Step s .refreshLayout s.refreshLayout.1 (s.refreshLayout.2.map .laidOut)
  | fill (c : Cell) (d : UInt32) : Step s (.setGiven c d) (s.setGiven c d) (.ok .edited)
  | clear (c : Cell) : Step s (.clearGiven c) (s.clearGiven c) (.ok .edited)
  | again {now : Nat} (solved : s.isSolved = true) :
      Step s (.submit now) s (.ok (.submitted (.error .alreadySolved)))
  | overflow {now : Nat} {e : Overflow} (unsolved : s.isSolved = false)
      (side : s.configuration.shape.side = .error e) : Step s (.submit now) s (.error e)
  | misfit {now : Nat} {n : UInt32} {e : GridError} (unsolved : s.isSolved = false)
      (side : s.configuration.shape.side = .ok n) (fault : s.widget.givens.fault? n = some e) :
      Step s (.submit now) s (.ok (.submitted (.error (.grid e))))
  | fail {now : Nat} {n : UInt32} {e : SubmitError} (unsolved : s.isSolved = false)
      (side : s.configuration.shape.side = .ok n) (fits : s.widget.givens.fault? n = none)
      (answer : s.answer n = .error e) :
      Step s (.submit now) s.asked (.ok (.submitted (.error e)))
  | solve {now : Nat} {n : UInt32} {g : Givens} (unsolved : s.isSolved = false)
      (side : s.configuration.shape.side = .ok n) (fits : s.widget.givens.fault? n = none)
      (answer : s.answer n = .ok g) :
      Step s (.submit now) (s.asked.withSolution g now).displayUpdated.1
        ((s.asked.withSolution g now).displayUpdated.2.map fun _ => .submitted (.ok g))

theorem step_setShape (s : Session α) (width height : Option String) :
    Step s (.setShape width height) (s.step (.setShape width height)).1
      (s.step (.setShape width height)).2 := by
  simp only [step, setShape, Configuration.set]
  by_cases hf : s.configuration.frozen = true
  · simp only [if_pos hf]
    exact .frozen hf
  · simp only [if_neg hf]
    rw [Bool.not_eq_true] at hf
    cases ht : typedShape? width height with
    | none => exact .ignore hf ht
    | some shape =>
      have hn := (typedShape?_proper ht).side_eq
      simp only [hn, Checked.map_map]
      exact .reshape hf ht hn

theorem step_submit (s : Session α) (now : Nat) :
    Step s (.submit now) (s.step (.submit now)).1 (s.step (.submit now)).2 := by
  simp only [step, submit, Service.submit]
  by_cases hs : s.isSolved = true
  · simp only [if_pos hs]
    exact .again hs
  · simp only [if_neg hs]
    rw [Bool.not_eq_true] at hs
    cases hn : s.configuration.shape.side with
    | error e => exact .overflow hs hn
    | ok n =>
      simp only
      cases hg : s.widget.givens.fault? n with
      | some e =>
        rw [Service.submitTo_of_fault s.service _ hg]
        exact .misfit hs hn hg
      | none =>
        rw [submitTo_eq_asked hg]
        cases ha : s.answer n with
        | error e => exact .fail hs hn hg ha
        | ok g =>
          simp only [Checked.map_map]
          exact .solve hs hn hg ha

/-- **Every operation is one of the steps.** -/
theorem step_spec (s : Session α) (op : Operation) : Step s op (s.step op).1 (s.step op).2 := by
  cases op with
  | setShape width height => exact step_setShape s width height
  | displayUpdated => exact .display
  | refreshLayout => exact .refresh
  | setGiven c d => exact .fill c d
  | clearGiven c => exact .clear c
  | submit now => exact step_submit s now

/-- A step determines the outcome of its operation. -/
theorem Step.eq {s t : Session α} {op : Operation} {r : Checked (Outcome α)} (h : Step s op t r) :
    s.step op = (t, r) := by
  cases h with
  | reshape free typed side =>
    simp only [step, setShape, Configuration.set, free, typed, side, Checked.map_map,
      Bool.false_eq_true, if_false]
    rw [← free]
    rfl
  | ignore free untyped =>
    simp only [step, setShape, Configuration.set, free, untyped, Bool.false_eq_true, if_false]
    rfl
  | frozen frozen =>
    simp only [step, setShape, Configuration.set, frozen, if_true]
    rfl
  | display | refresh | fill | clear => rfl
  | again solved =>
    simp only [step, submit, solved, if_true]
    rfl
  | overflow unsolved side =>
    simp only [step, submit, Service.submit, unsolved, side, Bool.false_eq_true, if_false]
    rfl
  | misfit unsolved side fault =>
    simp only [step, submit, Service.submit, unsolved, side, Service.submitTo_of_fault _ _ fault,
      Bool.false_eq_true, if_false]
    rfl
  | fail unsolved side fits answer =>
    simp only [step, submit, Service.submit, unsolved, side, submitTo_eq_asked fits, answer,
      Bool.false_eq_true, if_false]
    rfl
  | solve unsolved side fits answer =>
    simp only [step, submit, Service.submit, unsolved, side, submitTo_eq_asked fits, answer,
      Checked.map_map, Bool.false_eq_true, if_false]
    rfl

/-- A step leaves the service alone, or it is a submission of givens that fit and asks it once. -/
theorem Step.service {s t : Session α} {op : Operation} {r : Checked (Outcome α)}
    (h : Step s op t r) :
    t.service = s.service ∨ ∃ now n, op = .submit now ∧ s.configuration.shape.side = .ok n ∧
      s.widget.givens.fault? n = none ∧ t.service = s.asked.service := by
  cases h with
  | reshape | display => exact .inl (frame_displayUpdated _).service
  | refresh => exact .inl (frame_refreshLayout _).service
  | ignore | frozen | fill | clear | again | overflow | misfit => exact .inl rfl
  | fail unsolved side fits answer => exact .inr ⟨_, _, rfl, side, fits, rfl⟩
  | solve unsolved side fits answer =>
    exact .inr ⟨_, _, rfl, side, fits, (frame_displayUpdated _).service⟩

/-! ## Runs -/

@[simp] theorem run_nil (s : Session α) : s.run [] = (s, []) := rfl

theorem run_cons (s : Session α) (op : Operation) (ops : List Operation) :
    s.run (op :: ops) =
      (((s.step op).1.run ops).1, (s.step op).2 :: ((s.step op).1.run ops).2) := rfl

theorem run_append_fst (s : Session α) (ops more : List Operation) :
    (s.run (ops ++ more)).1 = ((s.run ops).1.run more).1 := by
  induction ops generalizing s with
  | nil => rfl
  | cons op ops ih => exact ih (s.step op).1

/-- What every step preserves holds after every run. -/
theorem run_induction {P : Session α → Prop} (hP : ∀ s op t r, P s → Step s op t r → P t)
    {s : Session α} (hs : P s) : ∀ ops, P (s.run ops).1 := by
  intro ops
  induction ops generalizing s with
  | nil => exact hs
  | cons op ops ih => exact ih (hP s op _ _ hs (step_spec s op))

/-! ## A sample run -/

/-- A service that fails once and then finds the solution of a grid of side two. -/
def sampleService : Service where
  replies := [fun _ => .error (.refused 503 "busy"),
    fun _ => .ok ⟨some [⟨0, 0, 1⟩, ⟨1, 0, 2⟩, ⟨0, 1, 2⟩, ⟨1, 1, 1⟩]⟩]

/-- A new session with that service. -/
def sample : Session Float := start sampleService (BoxModel.standard 500).host {} {}

/-- A given is left outside of a smaller grid and the submission refused; the next submission fails
at the service and the last one is solved. Edits and another shape follow. -/
def sampleOps : List Operation :=
  [.setGiven ⟨8, 8⟩ 9, .setShape (some "2") (some " +1 "), .submit 0, .clearGiven ⟨8, 8⟩,
    .setGiven ⟨1, 0⟩ 2, .submit 1, .submit 2, .setGiven ⟨5, 5⟩ 7, .setShape (some "4") (some "4"),
    .displayUpdated, .submit 3]

end Session

end BoxPuzzle
