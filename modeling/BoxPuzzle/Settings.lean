import BoxPuzzle.Decimal.Plain
import BoxPuzzle.Layout.Style

/-!
# Settings

The program is configured by environment variables. A file of lines `NAME=value` sets those that
are not set, the first line for a name counting. Of such a file only plain lines are covered: blank
lines, lines that start with `#`, and a name, an equals sign and a value without quotes, escapes,
references to other variables, a comment behind it or the word `export` in front of the name.

* `Environment`, `Environment.ofLine?`, `Environment.withFile`;
* `Settings`, `Settings.selectors`;
* `SettingsError`, `SettingsError.message`, `SettingsError.cause`;
* `Settings.load`.
-/

namespace BoxPuzzle

/-- Variables and their values; the first entry for a name counts. -/
structure Environment where
  bindings : List (String × String)
deriving DecidableEq, Repr

namespace Environment

/-- The value of a variable. -/
def get? (e : Environment) (name : String) : Option String := e.bindings.lookup name

/-- The value of a variable, or what stands for one that is not set. -/
def getOr (e : Environment) (name fallback : String) : String := (e.get? name).getD fallback

/-- The variable set by a plain line `NAME=value`: the name and the value are what stands before and
after the first equals sign, without the blanks around it. A line that is blank, starts with `#` or has no
equals sign sets nothing. -/
def ofLine? (line : String) : Option (String × String) :=
  match strip line.toList with
  | [] => none
  | '#' :: _ => none
  | cs =>
    match cs.dropWhile (· != '=') with
    | [] => none
    | _ :: value =>
      some (String.ofList (strip (cs.takeWhile (· != '='))), String.ofList (strip value))

/-- The environment with the variables of a file of plain lines added where they are not set. -/
def withFile (e : Environment) (text : String) : Environment :=
  ⟨e.bindings ++ (text.splitOn "\n").filterMap ofLine?⟩

end Environment

/-- The settings of the program. -/
structure Settings where
  solverUrl : String
  /-- How many seconds to wait for a reply; without it, as long as it takes. -/
  timeout : Option Nat
  container : Float
  containerId : String
  cellClass : String
  log : String
deriving Repr

/-- How the page names the grid and its cells. -/
def Settings.selectors (s : Settings) : Selectors := ⟨s.containerId, s.cellClass⟩

/-- A variable with a value that cannot be used. -/
inductive SettingsError where
  | timeout (e : NumeralError)
  | container (e : DecimalError)
deriving DecidableEq, Repr

/-- What is expected of the variable. -/
def SettingsError.message : SettingsError → String
  | timeout _ => "SOLVER_TIMEOUT_SECS must be a whole number of seconds"
  | container _ => "CONTAINER_WIDTH_PX must be a number"

/-- What is wrong with its value. -/
def SettingsError.cause : SettingsError → String
  | timeout e => e.message
  | container e => e.message

namespace Settings

/-- The largest 64-bit number. -/
def maxSeconds : Nat := 18446744073709551615

/-- The timeout, if one is set. -/
def loadTimeout (e : Environment) : Except SettingsError (Option Nat) :=
  match e.get? "SOLVER_TIMEOUT_SECS" with
  | none => .ok none
  | some s =>
    match readNumeral maxSeconds s.toList with
    | .ok n => .ok (some n)
    | .error err => .error (.timeout err)

/-- The width of the container. -/
def loadContainer (e : Environment) : Except SettingsError Float :=
  match readFloat (e.getOr "CONTAINER_WIDTH_PX" "500").toList with
  | .ok x => .ok x
  | .error err => .error (.container err)

/-- The settings in an environment. -/
def load (e : Environment) : Except SettingsError Settings := do
  let timeout ← loadTimeout e
  let container ← loadContainer e
  let defaults : Selectors := {}
  return {
    solverUrl := e.getOr "SOLVER_URL" "http://localhost:8080"
    timeout
    container
    containerId := e.getOr "GRID_CONTAINER_ID" defaults.container
    cellClass := e.getOr "GRID_CELL_CLASS" defaults.cell
    log := e.getOr "RUST_LOG" "info" }

end Settings

end BoxPuzzle
