import BoxPuzzle.Solver.Service

/-!
# Submitting givens

One round trip to the solving service. The givens are checked before anything is sent, and the
solution is checked against the same grid.

* `SubmitError`, `SubmitError.message`;
* `Response.solutionFor`: the solution in a response;
* `Service.submit`.
-/

namespace BoxPuzzle

/-- Why there is no solution. -/
inductive SubmitError where
  /-- The givens or the solution do not fit the grid. -/
  | grid (e : GridError)
  /-- The service failed. -/
  | solver (e : SolverError)
  /-- The service has no solution. -/
  | noSolution
  /-- There is a solution already. -/
  | alreadySolved
deriving DecidableEq, Repr

/-- The fault in words. -/
def SubmitError.message : SubmitError → String
  | grid e => "Invalid grid state: " ++ e.message
  | solver e => "Solving service failed: " ++ e.message
  | noSolution => "Solving service returned no solution"
  | alreadySolved => "Puzzle is already solved"

/-- The solution in a response, if it fits a grid of side `n`. -/
def Response.solutionFor (r : Response) (n : UInt32) : Except SubmitError Givens :=
  match r.solution with
  | none => .error .noSolution
  | some ps =>
    match (Givens.ofPlacements ps).fault? n with
    | some e => .error (.grid e)
    | none => .ok (.ofPlacements ps)

/-- Submits givens in a grid of side `n`. -/
def Service.submitTo (s : Service) (g : Givens) (shape : BoxShape) (n : UInt32) :
    Service × Except SubmitError Givens :=
  match g.fault? n with
  | some e => (s, .error (.grid e))
  | none =>
    match s.solve (.ofGivens g shape) with
    | (s, .error e) => (s, .error (.solver e))
    | (s, .ok r) => (s, r.solutionFor n)

/-- Submits givens in a grid with boxes of this shape. -/
def Service.submit (s : Service) (g : Givens) (shape : BoxShape) :
    Service × Checked (Except SubmitError Givens) :=
  match shape.side with
  | .error e => (s, .error e)
  | .ok n =>
    let (s, r) := s.submitTo g shape n
    (s, .ok r)

end BoxPuzzle
