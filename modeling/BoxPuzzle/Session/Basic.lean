import BoxPuzzle.Grid.Board
import BoxPuzzle.Layout.Pass
import BoxPuzzle.Session.Configuration
import BoxPuzzle.Session.Submission
import BoxPuzzle.Session.Widget

/-!
# Editing sessions

A session edits one puzzle: it holds the configured shape, the style, the widget and, once the
puzzle is solved, the solution. Layout always runs after the display update that it depends on,
and every change is announced by an event. A puzzle is solved at most once.

* `Event`: what a session announces;
* `Session`, `Session.start`, `Session.isSolved`;
* `Session.setShape`, `Session.displayUpdated`, `Session.refreshLayout`, `Session.setGiven`,
  `Session.clearGiven`, `Session.submit`: the operations;
* `Session.board`: the solution as a board.

Every operation returns the state that it leaves behind, also when a product overflows.
-/

namespace BoxPuzzle

/-- What a session announces. -/
inductive Event where
  | shapeChanged (shape : BoxShape)
  | displayUpdated
  | layoutApplied (rules anomalies : Nat)
  | solved (cells : Nat)
deriving DecidableEq, Repr

/-- A session; `events` is everything announced so far, oldest first. -/
structure Session (α : Type) where
  configuration : Configuration
  style : Style α
  service : Service
  host : Host α
  widget : Widget
  solution : Option Givens
  /-- The givens that led to the solution. -/
  submitted : Option Givens
  /-- The time of the solution, on the clock of whoever submitted. -/
  solvedAt : Option Nat
  lastLayout : Option (Report α)
  events : List Event

namespace Session

variable {α : Type}

/-- A new session at the standard shape. No layout is computed before the first display update. -/
def start (service : Service) (host : Host α) (widget : Widget) (selectors : Selectors) :
    Session α where
  configuration := {}
  style := { selectors }
  service := service
  host := host
  widget := widget.resize BoxShape.standardSide
  solution := none
  submitted := none
  solvedAt := none
  lastLayout := none
  events := []

/-- There is a solution. -/
def isSolved (s : Session α) : Bool := s.solution.isSome

/-- Announces an event. -/
def emit (s : Session α) (e : Event) : Session α := { s with events := s.events ++ [e] }

variable [Length α]

/-- Lays the grid out again in the current shape. -/
def refreshLayout (s : Session α) : Session α × Checked (Report α) :=
  match s.style.relayOut s.host s.configuration.shape with
  | (style, .error e) => ({ s with style }, .error e)
  | (style, .ok report) =>
    ({ s with
        style
        lastLayout := some report
        events := s.events ++ [.layoutApplied style.size report.anomalies.length] },
      .ok report)

/-- The grid was rendered anew, so its layout is computed again. -/
def displayUpdated (s : Session α) : Session α × Checked (Report α) :=
  (s.emit .displayUpdated).refreshLayout

/-- Sets the box shape from two typed texts. -/
def setShape (s : Session α) (width height : Option String) : Session α × Checked Change :=
  match s.configuration.set width height with
  | (configuration, .applied shape) =>
    match shape.side with
    | .error e => ({ s with configuration }, .error e)
    | .ok n =>
      let resized := { s with configuration, widget := s.widget.resize n }
      let (t, report) := (resized.emit (.shapeChanged shape)).displayUpdated
      (t, report.map fun _ => .applied shape)
  | (_, change) => (s, .ok change)

/-- Fills a cell of the widget. -/
def setGiven (s : Session α) (c : Cell) (d : UInt32) : Session α :=
  { s with widget := s.widget.setGiven c d }

/-- Empties a cell of the widget. -/
def clearGiven (s : Session α) (c : Cell) : Session α := { s with widget := s.widget.clearGiven c }

/-- The session with a solution: the shape is frozen and the widget shows the solution. -/
def withSolution (s : Session α) (solution : Givens) (now : Nat) : Session α :=
  { s with
    configuration := s.configuration.freeze
    widget := s.widget.display (some solution)
    submitted := some s.widget.givens
    solvedAt := some now
    events := s.events ++ [.solved solution.size]
    solution := some solution }

/-- Submits the givens of the widget. If this fails, only the service has noticed. -/
def submit (s : Session α) (now : Nat) : Session α × Checked (Except SubmitError Givens) :=
  if s.isSolved then (s, .ok (.error .alreadySolved))
  else match s.service.submit s.widget.givens s.configuration.shape with
    | (service, .error e) => ({ s with service }, .error e)
    | (service, .ok (.error e)) => ({ s with service }, .ok (.error e))
    | (service, .ok (.ok solution)) =>
      let (t, report) := ({ s with service }.withSolution solution now).displayUpdated
      (t, report.map fun _ => .ok solution)

omit [Length α] in
/-- The board of the solution, if there is one. -/
def board (s : Session α) : Option (Checked (Except GridError String)) :=
  s.solution.map fun g => g.board s.configuration.shape

end Session

end BoxPuzzle
