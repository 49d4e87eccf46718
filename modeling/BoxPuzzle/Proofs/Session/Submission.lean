import BoxPuzzle.Proofs.Session.Step

/-!
# What a submission comes to

One round trip has two checks and a service between them, and each of the three can end it. The
solution is checked after it was built: a bad digit that a later placement overwrites does no harm.

* `Response.solutionFor_eq_ok_iff`, `Response.solutionFor_eq_error_iff`: the check of the solution;
* `Service.submitTo_eq_ok_iff`, `Service.submitTo_eq_error_iff`: the whole round trip;
* **`Service.submit_outcome`**: when there is a solution, which one, and else which error comes first.
-/

namespace BoxPuzzle

/-- The placement as an entry of a map. -/
def Placement.entry (p : Placement) : Cell × UInt32 := (p.cell, p.digit)

theorem Givens.collects_ofPlacements (ps : List Placement) :
    (Givens.ofPlacements ps).Collects (ps.map Placement.entry) :=
  Givens.collects_ofList _

theorem Givens.eq_ofPlacements_of_collects {g : Givens} {ps : List Placement}
    (h : g.Collects (ps.map Placement.entry)) : g = Givens.ofPlacements ps :=
  Givens.collects_iff.1 h

/-! ## The check of the solution -/

namespace Response

variable {r : Response} {n : UInt32}

theorem solutionFor_eq_ok_iff {solution : Givens} :
    r.solutionFor n = .ok solution ↔ ∃ ps, r = ⟨some ps⟩ ∧ solution.Fits n.toNat ∧
      solution.Collects (ps.map Placement.entry) := by
  obtain ⟨_ | ps⟩ := r
  · simp [solutionFor]
  · have hsome : (∃ ps', (⟨some ps⟩ : Response) = ⟨some ps'⟩ ∧ solution.Fits n.toNat ∧
        solution.Collects (ps'.map Placement.entry)) ↔
        solution.Fits n.toNat ∧ solution.Collects (ps.map Placement.entry) := by simp
    rw [hsome, solutionFor]
    cases hf : (Givens.ofPlacements ps).fault? n with
    | some e =>
      -- the map that was built has an entry without room
      have hmisfit : ¬ (Givens.ofPlacements ps).Fits n.toNat := by
        rw [← Givens.fault?_eq_none_iff, hf]
        simp
      simp only [hf, reduceCtorEq, false_iff]
      rintro ⟨hfits, hcollects⟩
      exact hmisfit (Givens.eq_ofPlacements_of_collects hcollects ▸ hfits)
    | none =>
      simp only [hf, Except.ok.injEq]
      constructor
      · rintro rfl
        exact ⟨Givens.fault?_eq_none_iff.1 hf, Givens.collects_ofPlacements ps⟩
      · rintro ⟨-, hcollects⟩
        exact (Givens.eq_ofPlacements_of_collects hcollects).symm

theorem solutionFor_eq_error_iff {error : SubmitError} :
    r.solutionFor n = .error error ↔ (r = ⟨none⟩ ∧ error = .noSolution) ∨
      ∃ ps built e, r = ⟨some ps⟩ ∧ Givens.Collects built (ps.map Placement.entry) ∧
        built.FirstMisfit n.toNat e ∧ error = .grid (Givens.misfitError n e) := by
  obtain ⟨_ | ps⟩ := r
  · simp [solutionFor, eq_comm]
  · have hsome : ((⟨some ps⟩ : Response) = ⟨none⟩ ∧ error = .noSolution ∨
        ∃ ps' built e, (⟨some ps⟩ : Response) = ⟨some ps'⟩ ∧
          Givens.Collects built (ps'.map Placement.entry) ∧ built.FirstMisfit n.toNat e ∧
          error = .grid (Givens.misfitError n e)) ↔
        ∃ e, (Givens.ofPlacements ps).fault? n = some e ∧ error = .grid e := by
      constructor
      · rintro (⟨h, -⟩ | ⟨ps', built, e, hps, hcollects, hfirst, rfl⟩)
        · cases h
        · cases hps
          obtain rfl := Givens.eq_ofPlacements_of_collects hcollects
          exact ⟨_, Givens.fault?_eq_some_iff.2 ⟨e, hfirst, rfl⟩, rfl⟩
      · rintro ⟨e, hf, rfl⟩
        obtain ⟨entry, hfirst, rfl⟩ := Givens.fault?_eq_some_iff.1 hf
        exact .inr ⟨ps, _, entry, rfl, Givens.collects_ofPlacements ps, hfirst, rfl⟩
    rw [hsome, solutionFor]
    cases hf : (Givens.ofPlacements ps).fault? n <;> simp [hf, eq_comm]

end Response

/-! ## The round trip -/

namespace Service

variable {s : Service} {g : Givens} {shape : BoxShape} {n : UInt32}

theorem submitTo_snd_of_fits (h : g.fault? n = none) : (s.submitTo g shape n).2 =
    match (s.solve (.ofGivens g shape)).2 with
    | .error e => .error (.solver e)
    | .ok r => r.solutionFor n := by
  rw [submitTo, h]
  dsimp only
  split <;> next heq => rw [heq]

theorem submitTo_eq_ok_iff {solution : Givens} :
    (s.submitTo g shape n).2 = .ok solution ↔ g.Fits n.toNat ∧
      ∃ ps, (s.solve (.ofGivens g shape)).2 = .ok ⟨some ps⟩ ∧ solution.Fits n.toNat ∧
        solution.Collects (ps.map Placement.entry) := by
  rw [← Givens.fault?_eq_none_iff]
  cases hf : g.fault? n with
  | some e => simp [submitTo_of_fault s shape hf]
  | none =>
    rw [submitTo_snd_of_fits hf]
    cases (s.solve (.ofGivens g shape)).2 with
    | error e => simp
    | ok r => simp [Response.solutionFor_eq_ok_iff]

theorem submitTo_eq_error_iff {error : SubmitError} :
    (s.submitTo g shape n).2 = .error error ↔
      (∃ e, g.FirstMisfit n.toNat e ∧ error = .grid (Givens.misfitError n e)) ∨
      g.Fits n.toNat ∧
        ((∃ e, (s.solve (.ofGivens g shape)).2 = .error e ∧ error = .solver e) ∨
          ((s.solve (.ofGivens g shape)).2 = .ok ⟨none⟩ ∧ error = .noSolution) ∨
          ∃ ps built e, (s.solve (.ofGivens g shape)).2 = .ok ⟨some ps⟩ ∧
            Givens.Collects built (ps.map Placement.entry) ∧ built.FirstMisfit n.toNat e ∧
            error = .grid (Givens.misfitError n e)) := by
  have hfirst : (∃ e, g.FirstMisfit n.toNat e ∧ error = .grid (Givens.misfitError n e)) ↔
      ∃ f, g.fault? n = some f ∧ error = .grid f := by
    constructor
    · rintro ⟨e, he, rfl⟩
      exact ⟨_, Givens.fault?_eq_some_iff.2 ⟨e, he, rfl⟩, rfl⟩
    · rintro ⟨f, hf, rfl⟩
      obtain ⟨e, he, rfl⟩ := Givens.fault?_eq_some_iff.1 hf
      exact ⟨e, he, rfl⟩
  rw [hfirst, ← Givens.fault?_eq_none_iff]
  cases hf : g.fault? n with
  | some f => simp [submitTo_of_fault s shape hf, eq_comm]
  | none =>
    rw [submitTo_snd_of_fits hf]
    cases (s.solve (.ofGivens g shape)).2 with
    | error e => simp [eq_comm]
    | ok r => simp [Response.solutionFor_eq_error_iff]

theorem submitTo_fst_of_misfit (h : ¬ g.Fits n.toNat) : (s.submitTo g shape n).1 = s := by
  rw [← Givens.fault?_eq_none_iff] at h
  obtain ⟨e, he⟩ := Option.ne_none_iff_exists'.1 h
  rw [submitTo_of_fault s shape he]

theorem received_submitTo_of_fits (h : g.Fits n.toNat) :
    (s.submitTo g shape n).1.received = s.received ++ [.ofGivens g shape] := by
  rw [submitTo_of_fits s shape (Givens.fault?_eq_none_iff.2 h), received_solve]

/-- **What a submission comes to**, in a grid of side `n`. There is a solution exactly if the givens
fit, the service answers with placements and the map built from them fits; then it is that map. The
errors come in this order: the first given without room, for which nothing is sent, the error of the
service, an answer without placements, the first entry without room in the map that was built. Givens
that fit are sent in one request. -/
theorem submit_outcome (s : Service) (g : Givens) {shape : BoxShape} {n : UInt32}
    (hn : n.toNat = shape.width.toNat * shape.height.toNat) :
    let request := Request.ofGivens g shape
    let answer := (s.solve request).2
    ∃ after result, s.submit g shape = (after, .ok result) ∧
      (∀ solution, result = .ok solution ↔ g.Fits n.toNat ∧
        ∃ ps, answer = .ok ⟨some ps⟩ ∧ solution.Fits n.toNat ∧
          solution.Collects (ps.map Placement.entry)) ∧
      (∀ error, result = .error error ↔
        (∃ e, g.FirstMisfit n.toNat e ∧ error = .grid (Givens.misfitError n e)) ∨
        g.Fits n.toNat ∧
          ((∃ e, answer = .error e ∧ error = .solver e) ∨
            (answer = .ok ⟨none⟩ ∧ error = .noSolution) ∨
            ∃ ps built e, answer = .ok ⟨some ps⟩ ∧
              Givens.Collects built (ps.map Placement.entry) ∧ built.FirstMisfit n.toNat e ∧
              error = .grid (Givens.misfitError n e))) ∧
      (¬ g.Fits n.toNat → after = s) ∧
      (g.Fits n.toNat → after.received = s.received ++ [request]) := by
  intro request answer
  have hsubmit : s.submit g shape = ((s.submitTo g shape n).1, .ok (s.submitTo g shape n).2) := by
    rw [submit, BoxShape.side_eq_ok_iff.2 hn]
  exact ⟨_, _, hsubmit, fun solution => submitTo_eq_ok_iff, fun error => submitTo_eq_error_iff,
    submitTo_fst_of_misfit, received_submitTo_of_fits⟩

/-- The digit 9 has no room in a grid of side two, but another placement follows for its cell. -/
theorem submit_outcome_overwritten :
    let ps : List Placement := [⟨0, 0, 9⟩, ⟨1, 1, 2⟩, ⟨0, 0, 1⟩]
    let s : Service := { replies := [fun _ => .ok ⟨some ps⟩] }
    let g := Givens.ofList [(⟨1, 0⟩, 2)]
    (2 : UInt32).toNat = 2 * 1 ∧ ∃ after, s.submit g ⟨2, 1⟩ = (after, .ok (.ok (.ofPlacements ps))) ∧
      (Givens.ofPlacements ps).entries = [(⟨0, 0⟩, 1), (⟨1, 1⟩, 2)] ∧
      after.received = [⟨[⟨1, 0, 2⟩], ⟨2, 1⟩⟩] := by
  intro ps s g
  have hg : g.Fits (2 : UInt32).toNat := Givens.fault?_eq_none_iff.1 rfl
  have hps : (Givens.ofPlacements ps).Fits (2 : UInt32).toNat := Givens.fault?_eq_none_iff.1 rfl
  obtain ⟨after, result, heq, hok, -, -, hsent⟩ := @submit_outcome s g ⟨2, 1⟩ 2 rfl
  obtain rfl := (hok _).2 ⟨hg, ps, rfl, hps, Givens.collects_ofPlacements ps⟩
  exact ⟨rfl, after, heq, rfl, hsent hg⟩

end Service

end BoxPuzzle
