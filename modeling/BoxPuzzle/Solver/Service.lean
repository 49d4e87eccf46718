import BoxPuzzle.Solver.Message

/-!
# Solving services

A service answers one request after the other, each from the next of its replies, and keeps the
requests that it received.

* `SolverError`, `SolverError.message`: why there is no response;
* `Response.ofBody`: the response in a body, or the fault;
* `Reply`: how one request is answered;
* `Service`, `Service.solve`.
-/

namespace BoxPuzzle

/-- Why a service gave no response. -/
inductive SolverError where
  /-- The service could not be reached. -/
  | unreachable
  /-- The service answered with a status other than success. -/
  | refused (status : Nat) (body : String)
  /-- The answer is no response. -/
  | malformed
deriving DecidableEq, Repr

/-- The fault in words. -/
def SolverError.message : SolverError → String
  | unreachable => "HTTP error"
  | refused status body =>
    "Solver error (status " ++ decimalText status ++ "): " ++ body
  | malformed => "JSON parse error"

/-- The response in a body, or the fault. -/
def Response.ofBody (body : String) : Except SolverError Response :=
  match Response.ofBody? body with
  | some r => .ok r
  | none => .error .malformed

/-- How a request is answered. -/
abbrev Reply := Request → Except SolverError Response

/-- A service with the replies that it has left, and what it received, oldest first. -/
structure Service where
  replies : List Reply
  /-- The answer when no reply is left. -/
  exhausted : Except SolverError Response := .error .unreachable
  received : List Request := []

namespace Service

/-- Answers a request. -/
def solve (s : Service) (r : Request) : Service × Except SolverError Response :=
  match s.replies with
  | reply :: rest => ({ s with replies := rest, received := s.received ++ [r] }, reply r)
  | [] => ({ s with received := s.received ++ [r] }, s.exhausted)

end Service

end BoxPuzzle
