import BoxPuzzle.Session.Basic

/-!
# Runs of a session

* `Operation`, `Outcome`: what can be done to a session, and what it answers;
* `Session.step`, `Session.run`: one operation, and several in a row.
-/

namespace BoxPuzzle

/-- Something done to a session. -/
inductive Operation where
  | setShape (width height : Option String)
  | displayUpdated
  | refreshLayout
  | setGiven (cell : Cell) (digit : UInt32)
  | clearGiven (cell : Cell)
  | submit (now : Nat)
deriving DecidableEq, Repr

/-- What an operation answers. -/
inductive Outcome (α : Type) where
  | changed (change : Change)
  | laidOut (report : Report α)
  | edited
  | submitted (result : Except SubmitError Givens)

namespace Session

variable {α : Type} [Length α]

/-- Performs one operation. -/
def step (s : Session α) : Operation → Session α × Checked (Outcome α)
  | .setShape width height =>
    let (t, r) := s.setShape width height
    (t, r.map .changed)
  | .displayUpdated =>
    let (t, r) := s.displayUpdated
    (t, r.map .laidOut)
  | .refreshLayout =>
    let (t, r) := s.refreshLayout
    (t, r.map .laidOut)
  | .setGiven c d => (s.setGiven c d, .ok .edited)
  | .clearGiven c => (s.clearGiven c, .ok .edited)
  | .submit now =>
    let (t, r) := s.submit now
    (t, r.map .submitted)

/-- Performs operations one after the other and collects the answers. -/
def run (s : Session α) : List Operation → Session α × List (Checked (Outcome α))
  | [] => (s, [])
  | op :: ops =>
    let (t, r) := s.step op
    let (u, rs) := t.run ops
    (u, r :: rs)

end Session

end BoxPuzzle
