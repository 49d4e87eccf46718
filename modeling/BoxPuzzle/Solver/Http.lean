import BoxPuzzle.Solver.Service

/-!
# Solving over HTTP

A client posts requests to the endpoint `solve` below a base address. Any status from 200 to 299
is success.

* `Client`, `Client.ofBase`, `Client.post`;
* `ServerReply`, `ServerReply.interpret`: the outcome of an exchange;
* `ServerReply.toReply`: the exchange as a reply of a service.
-/

namespace BoxPuzzle

/-- A client of a solving service. -/
structure Client where
  endpoint : String
deriving DecidableEq, Repr

/-- The text without the slashes at its end. -/
def dropSlashes (s : String) : String :=
  String.ofList (s.toList.reverse.dropWhile (· = '/')).reverse

/-- The client of the service at a base address. -/
def Client.ofBase (base : String) : Client := ⟨dropSlashes base ++ "/solve"⟩

/-- An HTTP request. -/
structure HttpRequest where
  method : String
  url : String
  contentType : String
  body : String
deriving DecidableEq, Repr

/-- The HTTP request that carries a request. -/
def Client.post (c : Client) (r : Request) : HttpRequest where
  method := "POST"
  url := c.endpoint
  contentType := "application/json"
  body := encode r

/-- What comes back. -/
inductive ServerReply where
  | answered (status : Nat) (body : String)
  | unreachable
deriving DecidableEq, Repr

namespace ServerReply

instance : Inhabited ServerReply := ⟨unreachable⟩

/-- The response in a reply. -/
def interpret : ServerReply → Except SolverError Response
  | answered status body =>
    if 200 ≤ status ∧ status < 300 then Response.ofBody body else .error (.refused status body)
  | unreachable => .error .unreachable

/-- The server reacted to the request. -/
def reached : ServerReply → Bool
  | answered _ _ => true
  | unreachable => false

/-- A reply of a service, whatever the request. -/
def toReply (r : ServerReply) : Reply := fun _ => r.interpret

end ServerReply

end BoxPuzzle
