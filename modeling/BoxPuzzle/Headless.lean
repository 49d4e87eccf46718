import BoxPuzzle.Layout.Css
import BoxPuzzle.Session.Run
import BoxPuzzle.Settings
import BoxPuzzle.Solver.Http

/-!
# The headless program

One run of the program: a puzzle document is read, laid out and submitted, and once there is a
solution the style sheet is printed and, after it, the board.

* `Source`, `Source.ofArgument`: where the document comes from;
* `Failure`, `Failure.message`: why a run fails;
* `Headless.readDocument`, `Headless.openSession`, `Headless.prepare`: up to the submission;
* `Headless.present`, `Headless.finish`: the submission and what follows it;
* `Finished`, `Headless.run`: the whole run, given what the server replies.
-/

namespace BoxPuzzle

/-- Where a document comes from. -/
inductive Source where
  | standardInput
  | file (path : String)
deriving DecidableEq, Repr

/-- The source that a command-line argument names. -/
def Source.ofArgument : Option String → Source
  | none => .standardInput
  | some path => if path = "-" then .standardInput else .file path

/-- Why a run fails. -/
inductive Failure where
  | settings (e : SettingsError)
  /-- The source cannot be read as text. -/
  | unreadable (source : Source)
  /-- The text is no document. -/
  | notADocument
  /-- The boxes do not tile the rows, or the solution cannot be shown. -/
  | grid (e : GridError)
  | submit (e : SubmitError)
  | overflow (e : Overflow)
deriving DecidableEq, Repr

namespace Failure

/-- The fault in words. -/
def message : Failure → String
  | settings e => e.message
  | unreadable .standardInput => "Failed to read puzzle from stdin"
  | unreadable (.file path) => "Failed to read puzzle file '" ++ path ++ "'"
  | notADocument => "Puzzle is not a valid puzzle document"
  | grid e => e.message
  | submit _ => "Solve request failed"
  | overflow e => e.message

/-- What is behind the fault, where there is more to say. -/
def cause? : Failure → Option String
  | settings e => some e.cause
  | submit e => some e.message
  | _ => none

end Failure

/-- A run that is over: what it printed, why it failed if it did, and what it sent. -/
structure Finished where
  printed : String := ""
  failure : Option Failure := none
  sent : List HttpRequest := []
deriving DecidableEq

/-- A run before its submission. -/
structure Prepared where
  settings : Settings
  session : Session Float

/-- The client of the configured service. -/
def Prepared.client (p : Prepared) : Client := .ofBase p.settings.solverUrl

namespace Headless

/-- The document in the bytes of a source, if the source could be read. -/
def readDocument (source : Source) (bytes : Option ByteArray) : Except Failure Document := do
  let some raw := bytes | throw (.unreadable source)
  let some text := String.fromUTF8? raw | throw (.unreadable source)
  let some document := decode? text | throw .notADocument
  return document

/-- The session for a document, laid out and ready to submit. -/
def openSession (settings : Settings) (document : Document) : Except Failure (Session Float) := do
  let shape ← (← document.shape.mapError .overflow).mapError .grid
  let side ← shape.side.mapError .overflow
  let widget : Widget := { side, givens := document.givens }
  let session := Session.start { replies := [] } (BoxModel.standard settings.container).host widget
    settings.selectors
  match session.setShape (some (wordText shape.width)) (some (wordText shape.height)) with
  | (_, .error e) => throw (.overflow e)
  | (session, .ok (.applied _)) => return session
  | (session, .ok _) =>
    -- an applied change has laid the grid out already
    match session.displayUpdated with
    | (_, .error e) => throw (.overflow e)
    | (session, .ok _) => return session

/-- Loads the settings and the document and opens the session. -/
def prepare (environment : Environment) (source : Source) (bytes : Option ByteArray) :
    Except Failure Prepared := do
  let settings ← (Settings.load environment).mapError .settings
  let document ← readDocument source bytes
  return ⟨settings, ← openSession settings document⟩

/-- Prints the style sheet, an empty line and the board of the solution. The first two are out
before the board is made. -/
def present (session : Session Float) (solution : Givens) : Finished :=
  let sheet := session.style.cssText ++ "\n\n"
  match solution.board session.configuration.shape with
  | .error e => { printed := sheet, failure := some (.overflow e) }
  | .ok (.error e) => { printed := sheet, failure := some (.grid e) }
  | .ok (.ok board) => { printed := sheet ++ board ++ "\n" }

/-- Submits the givens to a server that replies with `reply`. -/
def finish (p : Prepared) (reply : ServerReply) (now : Nat) : Finished :=
  let (session, submitted) :=
    { p.session with service := { replies := [reply.toReply] } }.submit now
  let sent := session.service.received.map p.client.post
  match submitted with
  | .error e => { failure := some (.overflow e), sent }
  | .ok (.error e) => { failure := some (.submit e), sent }
  | .ok (.ok solution) => { present session solution with sent }

/-- The whole run. `bytes` is what the source holds and `reply` what the server answers. -/
def run (environment : Environment) (source : Source) (bytes : Option ByteArray)
    (reply : ServerReply) (now : Nat) : Finished :=
  match prepare environment source bytes with
  | .error e => { failure := some e }
  | .ok p => finish p reply now

end Headless

end BoxPuzzle
